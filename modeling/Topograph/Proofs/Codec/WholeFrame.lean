import Mathlib.Data.List.TakeWhile
import Mathlib.Data.List.Infix
import Mathlib.Data.Nat.Find
import Topograph.Codec.Compressed

/-!
# Whole frames

A reader of compressed data takes no notice of what comes after the frame: whatever is read from
the start of the data is read from all of them, step by step. So the data that can be decompressed
are those that begin with a whole frame, and its contents are what comes of them.
-/
namespace Topograph.Codec

/-! ## Readings that persist -/

/-- What the first one gives, the second one gives too. -/
def Persists {α : Type} (x y : Option α) : Prop := ∀ a, x = some a → y = some a

namespace Persists
variable {α β : Type} {x y : Option α}

theorem refl (x : Option α) : Persists x x := fun _ h => h

theorem bind_of_mem {f g : α → Option β} (h : Persists x y)
    (hfg : ∀ a, x = some a → Persists (f a) (g a)) : Persists (x.bind f) (y.bind g) := by
  intro b hb
  obtain ⟨a, ha, hb⟩ := Option.bind_eq_some_iff.mp hb
  rw [h a ha]
  exact hfg a ha b hb

theorem bind {f g : α → Option β} (h : Persists x y) (hfg : ∀ a, Persists (f a) (g a)) :
    Persists (x.bind f) (y.bind g) := h.bind_of_mem fun a _ => hfg a

theorem map (h : Persists x y) (f : α → β) : Persists (x.map f) (y.map f) := by
  intro b hb
  obtain ⟨a, ha, rfl⟩ := Option.map_eq_some_iff.mp hb
  rw [h a ha]
  rfl

theorem ite {p : Prop} [Decidable p] {x' y' : Option α} (h : Persists x y) (h' : Persists x' y') :
    Persists (if p then x else x') (if p then y else y') := by
  split
  · exact h
  · exact h'

/-- A step that is taken in one case only, before what follows in any case. -/
theorem optional {p : Prop} [Decidable p] {a : α} {f g : α → Option β} {u v : Option β}
    (step : (∀ a, Persists (f a) (g a)) → Persists u v) (next : ∀ a, Persists (f a) (g a)) :
    Persists (if p then u else (some a).bind f) (if p then v else (some a).bind g) :=
  .ite (step next) ((refl _).bind next)

theorem foldlM {f g : β → α → Option β} (h : ∀ b a, Persists (f b a) (g b a)) (as : List α)
    (b : β) : Persists (as.foldlM f b) (as.foldlM g b) := by
  induction as generalizing b with
  | nil => exact refl _
  | cons a as ih =>
    rw [List.foldlM_cons, List.foldlM_cons]
    exact (h b a).bind fun b' => ih b'

end Persists

/-! ## More data -/

/-- The data are the start of more data. -/
def Starts (data more : ByteArray) : Prop := data.data.toList <+: more.data.toList

theorem Starts.size_le {data more : ByteArray} (h : Starts data more) : data.size ≤ more.size := by
  have := h.length_le
  rwa [Array.length_toList, Array.length_toList] at this

theorem getElem?_eq (data : ByteArray) (i : Nat) : data[i]? = data.data.toList[i]? := by
  rw [Array.getElem?_toList, getElem?_def, getElem?_def]
  rfl

theorem Starts.persists_getElem? {data more : ByteArray} (h : Starts data more) (i : Nat) :
    Persists data[i]? more[i]? := by
  intro b hb
  rw [getElem?_eq] at hb ⊢
  obtain ⟨rest, eq⟩ := h
  rw [← eq, List.getElem?_append_left (List.getElem?_eq_some_iff.mp hb).1]
  exact hb

/-! ## Inflating -/

namespace Inflate

section
variable {data more : ByteArray} (starts : Starts data more)
include starts

theorem persists_bit? (pos : Nat) : Persists (bit? data pos) (bit? more pos) :=
  (starts.persists_getElem? _).map _

theorem persists_bits? (count pos : Nat) :
    Persists (bits? data count pos) (bits? more count pos) := by
  induction count generalizing pos with
  | zero => exact .refl _
  | succ count ih =>
    rw [bits?, bits?]
    exact (persists_bit? starts pos).bind fun low => (ih (pos + 1)).bind fun _ => .refl _

theorem persists_symbolFrom? (c : Code) (fuel length code first index pos : Nat) :
    Persists (symbolFrom? c data fuel length code first index pos)
      (symbolFrom? c more fuel length code first index pos) := by
  induction fuel generalizing length code first index pos with
  | zero => exact .refl _
  | succ fuel ih =>
    rw [symbolFrom?, symbolFrom?]
    exact (persists_bit? starts pos).bind fun b => .ite (.refl _) (ih _ _ _ _ _)

theorem persists_symbol? (c : Code) (pos : Nat) :
    Persists (symbol? c data pos) (symbol? c more pos) :=
  persists_symbolFrom? starts c 15 1 0 0 0 pos

theorem persists_extended? (base : Array (Nat × Nat)) (symbol pos : Nat) :
    Persists (extended? base data symbol pos) (extended? base more symbol pos) :=
  (Persists.refl _).bind fun _ => (persists_bits? starts _ _).bind fun _ => .refl _

/-- More data leave more steps to be taken as well. -/
theorem persists_symbols? (literals distances : Code) {fuel enough : Nat} (le : fuel ≤ enough)
    (pos : Nat) (out : ByteArray) :
    Persists (symbols? literals distances data fuel pos out)
      (symbols? literals distances more enough pos out) := by
  induction fuel generalizing enough pos out with
  | zero => intro a ha; cases ha
  | succ fuel ih =>
    obtain ⟨n, rfl⟩ := Nat.exists_eq_add_of_le' le
    have le' : fuel ≤ n + fuel := by omega
    rw [← Nat.add_assoc, symbols?, symbols?]
    refine (persists_symbol? starts literals pos).bind fun s => ?_
    refine .ite (ih le' _ _) (.ite (.refl _) ?_)
    refine (persists_extended? starts _ _ _).bind fun length => ?_
    refine (persists_symbol? starts distances _).bind fun d => ?_
    exact (persists_extended? starts _ _ _).bind fun distance => .ite (.refl _) (ih le' _ _)

theorem persists_copied? (count place : Nat) (out : ByteArray) :
    Persists (copied? data count place out) (copied? more count place out) := by
  induction count generalizing place out with
  | zero => exact .refl _
  | succ count ih =>
    rw [copied?, copied?]
    exact (starts.persists_getElem? place).bind fun b => ih _ _

theorem persists_stored? (pos : Nat) (out : ByteArray) :
    Persists (stored? data pos out) (stored? more pos out) := by
  refine (persists_bits? starts _ _).bind fun size => ?_
  refine (persists_bits? starts _ _).bind fun inverted => ?_
  exact .ite (.refl _) ((persists_copied? starts _ _ _).bind fun _ => .refl _)

theorem persists_sentLengths? (order : List Nat) (pos : Nat) (lengths : Array Nat) :
    Persists (sentLengths? data order pos lengths) (sentLengths? more order pos lengths) := by
  induction order generalizing pos lengths with
  | nil => exact .refl _
  | cons i rest ih =>
    rw [sentLengths?, sentLengths?]
    exact (persists_bits? starts 3 pos).bind fun _ => ih _ _

theorem persists_lengths? (c : Code) (total fuel pos : Nat) (done : List Nat) :
    Persists (lengths? c data total fuel pos done) (lengths? c more total fuel pos done) := by
  induction fuel generalizing pos done with
  | zero => exact .refl _
  | succ fuel ih =>
    rw [lengths?, lengths?]
    refine .ite (.refl _) ((persists_symbol? starts c pos).bind ?_)
    rintro ⟨s, pos⟩
    -- The four kinds of symbols differ in what they repeat, not in how the reading goes on.
    have next (length count pos : Nat) : Persists
        (if total < done.length + count then none
          else lengths? c data total fuel pos (List.replicate count length ++ done))
        (if total < done.length + count then none
          else lengths? c more total fuel pos (List.replicate count length ++ done)) :=
      .ite (.refl _) (ih _ _)
    refine .ite (next s 1 pos) (.ite ?_ (.ite ?_ ?_))
    · refine (Persists.refl _).bind fun previous => (persists_bits? starts 2 pos).bind ?_
      exact fun ⟨more, pos⟩ => next previous (3 + more) pos
    · exact (persists_bits? starts 3 pos).bind fun ⟨more, pos⟩ => next 0 (3 + more) pos
    · exact (persists_bits? starts 7 pos).bind fun ⟨more, pos⟩ => next 0 (11 + more) pos

theorem persists_sentCodes? (pos : Nat) : Persists (sentCodes? data pos) (sentCodes? more pos) := by
  refine (persists_bits? starts _ _).bind fun _ => (persists_bits? starts _ _).bind fun _ => ?_
  refine (persists_bits? starts _ _).bind fun _ => .ite (.refl _) ?_
  refine (persists_sentLengths? starts _ _ _).bind fun _ => (Persists.refl _).bind fun c => ?_
  refine (persists_lengths? starts c _ _ _ _).bind fun _ => .refl _

theorem persists_blocks? {fuel enough : Nat} (le : fuel ≤ enough) (pos : Nat) (out : ByteArray) :
    Persists (blocks? data fuel pos out) (blocks? more enough pos out) := by
  induction fuel generalizing enough pos out with
  | zero => intro a ha; cases ha
  | succ fuel ih =>
    obtain ⟨n, rfl⟩ := Nat.exists_eq_add_of_le' le
    have size : 8 * data.size + 1 ≤ 8 * more.size + 1 := by
      have := starts.size_le
      omega
    rw [← Nat.add_assoc, blocks?, blocks?]
    refine (persists_bits? starts 1 pos).bind ?_
    rintro ⟨last, pos⟩
    refine (persists_bits? starts 2 pos).bind ?_
    rintro ⟨kind, pos⟩
    have next (block : ByteArray × Nat) : Persists
        (if last = 1 then some (block.1, block.2) else blocks? data fuel block.2 block.1)
        (if last = 1 then some (block.1, block.2) else blocks? more (n + fuel) block.2 block.1) :=
      .ite (.refl _) (ih (by omega) _ _)
    refine .ite ?_ (.ite ?_ (.ite ?_ ((Persists.refl none).bind next)))
    · exact (persists_stored? starts pos out).bind next
    · exact (persists_symbols? starts _ _ size pos out).bind next
    · refine (persists_sentCodes? starts pos).bind ?_
      rintro ⟨literals, distances, pos⟩
      exact (persists_symbols? starts literals distances size pos out).bind next

theorem persists_inflate? (start : Nat) : Persists (inflate? data start) (inflate? more start) := by
  have size : 8 * data.size + 1 ≤ 8 * more.size + 1 := by
    have := starts.size_le
    omega
  exact (persists_blocks? starts size _ _).bind fun _ => .refl _

end
end Inflate

/-! ## Frames -/

namespace Compressed

theorem lt_size_of_little? {data : ByteArray} {count pos n : Nat}
    (h : little? data (count + 1) pos = some n) : pos < data.size := by
  obtain ⟨b, hb, -⟩ := Option.bind_eq_some_iff.mp h
  rw [getElem?_eq] at hb
  have := (List.getElem?_eq_some_iff.mp hb).1
  rwa [Array.length_toList] at this

section
variable {data more : ByteArray} (starts : Starts data more)
include starts

theorem persists_little? (count pos : Nat) :
    Persists (little? data count pos) (little? more count pos) := by
  induction count generalizing pos with
  | zero => exact .refl _
  | succ count ih =>
    rw [little?, little?]
    exact (starts.persists_getElem? pos).bind fun b => (ih (pos + 1)).bind fun _ => .refl _

theorem persists_big? (count pos : Nat) : Persists (big? data count pos) (big? more count pos) :=
  .foldlM (fun _ _ => (starts.persists_getElem? _).bind fun _ => .refl _) _ _

theorem persists_reach? (pos : Nat) : Persists (reach? data pos) (reach? more pos) := by
  intro a ha
  obtain ⟨le, ha⟩ := Option.ite_none_right_eq_some.mp ha
  rw [reach?, if_pos (le.trans starts.size_le), ha]

/-- The zero octet that ends a text is still the first one. -/
theorem persists_afterZero? (pos : Nat) : Persists (afterZero? data pos) (afterZero? more pos) := by
  intro a ha
  obtain ⟨within, ha⟩ := Option.ite_none_right_eq_some.mp ha
  obtain ⟨rest, eq⟩ := id starts
  have size : data.data.toList.length = data.size := Array.length_toList
  have drop : more.data.toList.drop pos = data.data.toList.drop pos ++ rest := by
    rw [← eq, List.drop_append_of_le_length (by omega)]
  have stops : ((data.data.toList.drop pos).takeWhile (· != 0)).length ≠
      (data.data.toList.drop pos).length := by
    rw [List.length_drop]
    omega
  have same : (more.data.toList.drop pos).takeWhile (· != 0) =
      (data.data.toList.drop pos).takeWhile (· != 0) := by
    rw [drop, List.takeWhile_append, if_neg stops]
  simp only [afterZero?, same]
  rw [if_pos (within.trans_le starts.size_le), ha]

theorem take_eq {pos : Nat} (h : pos ≤ data.size) :
    more.data.toList.take pos = data.data.toList.take pos := by
  obtain ⟨rest, eq⟩ := id starts
  rw [← eq, List.take_append_of_le_length]
  rwa [Array.length_toList]

theorem persists_longHeader? : Persists (longHeader? data) (longHeader? more) := by
  refine (starts.persists_getElem? 2).bind fun method => ?_
  refine ((starts.persists_getElem? 3).map _).bind fun flags => .ite (.refl _) ?_
  refine (persists_reach? starts 10).bind fun pos => ?_
  refine .optional (fun next => (persists_little? starts 2 pos).bind fun size =>
    (persists_reach? starts _).bind next) fun pos => ?_
  refine .optional (fun next => (persists_afterZero? starts pos).bind next) fun pos => ?_
  refine .optional (fun next => (persists_afterZero? starts pos).bind next) fun pos => ?_
  -- The checksum of the header covers what stands before it, which is not what was added.
  refine .ite ((persists_little? starts 2 pos).bind_of_mem fun sum hsum => ?_) (.refl _)
  rw [take_eq starts (lt_size_of_little? hsum).le]
  exact .refl _

theorem persists_long? : Persists (long? data) (long? more) := by
  refine (persists_longHeader? starts).bind fun start => ?_
  refine (Inflate.persists_inflate? starts start).bind ?_
  rintro ⟨out, stop⟩
  refine (persists_little? starts 4 stop).bind fun sum => ?_
  exact (persists_little? starts 4 (stop + 4)).bind fun size => .refl _

theorem persists_short? : Persists (short? data) (short? more) := by
  refine (persists_big? starts 2 0).bind fun head => .ite (.refl _) ?_
  refine (Inflate.persists_inflate? starts 2).bind ?_
  rintro ⟨out, stop⟩
  exact (persists_big? starts 4 stop).bind fun sum => .refl _

end

/-! ## Whole frames -/

theorem two_le_length {bs x : Bytes} (h : decompress? bs = some x) : 2 ≤ bs.length := by
  match bs, h with
  | [], h => cases (rfl : decompress? [] = none).symm.trans h
  | [a], h =>
    rw [decompress?, if_neg (by simp)] at h
    cases (rfl : short? (ByteArray.mk #[a]) = none).symm.trans h
  | _ :: _ :: _, _ => simp

/-- Octets after a frame do not count. -/
theorem decompress?_append {bs x : Bytes} (h : decompress? bs = some x) (rest : Bytes) :
    decompress? (bs ++ rest) = some x := by
  have starts : Starts (ByteArray.mk bs.toArray) (ByteArray.mk (bs ++ rest).toArray) :=
    List.prefix_append bs rest
  have same : (bs ++ rest).take 2 = bs.take 2 := List.take_append_of_le_length (two_le_length h)
  have persists : Persists (decompress? bs) (decompress? (bs ++ rest)) := by
    rw [decompress?, decompress?, same]
    exact .ite (persists_long? starts) (persists_short? starts)
  exact persists x h

/-- The octets are a frame of these contents from its first octet to its last one. -/
def IsFrame (bs x : Bytes) : Prop :=
  decompress? bs = some x ∧ ∀ n < bs.length, decompress? (bs.take n) = none

/-- What can be decompressed is a frame, and any octets after it. -/
theorem decompress?_eq_some_iff {bs x : Bytes} : decompress? bs = some x ↔
    ∃ frame rest, bs = frame ++ rest ∧ IsFrame frame x := by
  constructor
  · intro h
    have ends : ∃ n, (decompress? (bs.take n)).isSome = true := by
      refine ⟨bs.length, ?_⟩
      rw [List.take_length, h]
      rfl
    obtain ⟨y, hy⟩ := Option.isSome_iff_exists.mp (Nat.find_spec ends)
    have whole := decompress?_append hy (bs.drop (Nat.find ends))
    rw [List.take_append_drop, h] at whole
    obtain rfl := Option.some.inj whole
    refine ⟨bs.take (Nat.find ends), bs.drop (Nat.find ends), (List.take_append_drop ..).symm, hy,
      fun n hn => ?_⟩
    rw [List.length_take] at hn
    have shorter := Nat.find_min ends (show n < Nat.find ends by omega)
    rw [List.take_take, Nat.min_eq_left (by omega)]
    simpa using shorter
  · rintro ⟨frame, rest, rfl, whole, -⟩
    exact decompress?_append whole rest

end Compressed
end Topograph.Codec
