import Topograph.Proofs.Archive.ListedOrder
import Topograph.Proofs.Snippet.Errands

/-!
# The listing mirrors the archive

A listing is fetched once and then patched in place: what is saved goes to its front, and what is
deleted leaves it. Against an archive that nobody else uses and whose clock never goes back, it is
at any time what the archive would list, although the archive sorts by the texts of times.
-/
namespace Topograph

/-- An archive and a listing of it. -/
structure Mirror where
  archive : Archive := .fresh
  listing : Listing := []

namespace Mirror

/-- The reply to a request that could be made arrives before anything else is sent. -/
def after (c : Client) (m : Mirror) (e : Timestamp × Errand) : Mirror :=
  match e.2.request c with
  | .ok r =>
    let (archive, reply) := m.archive.reply e.1.stamp r
    { archive, listing := e.2.take c m.listing reply }
  | .error _ => m

def run (c : Client) (errands : List (Timestamp × Errand)) : Mirror :=
  errands.foldl (after c) {}

/-- The archive keeps these records, stored until `now`, and they are listed as they arrived, the
last one first. -/
structure Shows (m : Mirror) (records : List Archive.Record) (last now : Int) : Prop where
  keeps : m.archive.Keeps records last
  order : Archive.InOrder records
  past : ∀ r ∈ records, r.instant ≤ now
  writable : ∀ r ∈ records, Number.IsWritable r.id
  started : 0 ≤ last
  listing : m.listing = records.reverse.map Archive.Record.snippet

theorem shows_fresh (now : Int) : Shows {} [] 0 now where
  keeps := Archive.keeps_fresh
  order := List.Pairwise.nil
  past := by simp
  writable := by simp
  started := le_rfl
  listing := rfl

theorem Shows.later {m : Mirror} {records : List Archive.Record} {last now later : Int}
    (h : m.Shows records last now) (le : now ≤ later) : m.Shows records last later :=
  { h with past := fun r hr => (h.past r hr).trans le }

/-! ## One call -/

section
variable {m : Mirror} {records : List Archive.Record} {last now : Int}
  (h : m.Shows records last now)
include h

/-- A new record goes to the end, and its snippet to the front. -/
theorem Shows.push {r : Archive.Record} {b : Archive} (keeps : b.Keeps (records ++ [r]) (last + 1))
    (instant : r.instant = now) (writable : Number.IsWritable r.id) :
    Shows ⟨b, r.snippet :: m.listing⟩ (records ++ [r]) (last + 1) now where
  keeps := keeps
  order := by
    rw [Archive.InOrder, List.pairwise_append]
    refine ⟨h.order, List.pairwise_singleton _ _, ?_⟩
    intro q hq s hs
    rw [List.mem_singleton.mp hs, instant]
    exact h.past q hq
  past := by
    intro q hq
    rcases List.mem_append.mp hq with hq | hq
    · exact h.past q hq
    · rw [List.mem_singleton.mp hq, instant]
  writable := by
    intro q hq
    rcases List.mem_append.mp hq with hq | hq
    · exact h.writable q hq
    · rwa [List.mem_singleton.mp hq]
  started := Int.le_add_one h.started
  listing := by
    rw [List.reverse_append, List.map_append, ← h.listing]
    rfl

/-- The records under a key leave, and so do their snippets. -/
theorem Shows.erase (id : Int) {b : Archive}
    (keeps : b.Keeps (records.filter fun r => r.id != id) last) :
    Shows ⟨b, m.listing.filter fun s => s.id != id⟩ (records.filter fun r => r.id != id) last
      now where
  keeps := keeps
  order := h.order.filter _
  past := fun r hr => h.past r (List.mem_of_mem_filter hr)
  writable := fun r hr => h.writable r (List.mem_of_mem_filter hr)
  started := h.started
  listing := by
    rw [h.listing, List.filter_map, ← List.filter_reverse]
    rfl

theorem Shows.shelf_eq : Archive.shelf records = m.listing := by
  rw [h.listing, Archive.shelf, h.keeps.mergeSort_eq_reverse h.order]

/-- The archive lists what the listing shows. -/
theorem Shows.answer_list {r : Request} (asks : (Archive.Inquiry.ofRequest r).Asks .list)
    (time : RawText) : m.archive.answer time (.ofRequest r) =
      (m.archive, .ok (.ofJson 200 (listDocument m.listing))) := by
  rw [h.keeps.answer_list asks, h.shelf_eq, listDocument]

end

/-- One call adds a record and its snippet, or takes out what has a key on both sides, or leaves
both sides as they are. -/
theorem Shows.after {c : Client} (root : c.IsAtRoot) {m : Mirror} {records : List Archive.Record}
    {last : Int} {t : Timestamp} (h : m.Shows records last t.universal.instant) {e : Errand}
    (inRange : e.IsInRange) (next : Number.IsWritable (last + 1)) :
    ∃ records' last', (m.after c (t, e)).Shows records' last' t.universal.instant ∧
      last' ≤ last + 1 := by
  cases made : e.request c with
  | error f =>
    simp only [Mirror.after, made]
    exact ⟨records, last, h, by omega⟩
  | ok q =>
    obtain ⟨b, reply, patch, records', last', replied, taken, runs, keeps⟩ :=
      h.keeps.runs h.writable next root inRange made t
    simp only [Mirror.after, made, replied, taken]
    cases runs with
    | refused => exact ⟨records, last, { h with keeps }, by omega⟩
    | @stored _ _ _ r key time =>
      have instant : r.instant = t.universal.instant := by rw [Archive.Record.instant, time]
      have writable : Number.IsWritable r.id := key ▸ next
      exact ⟨_, _, h.push keeps instant writable, le_rfl⟩
    | listed =>
      have sorted : Listing.newestFirst (Archive.shelf records) = m.listing := by
        rw [h.shelf_eq, h.listing, Archive.newestFirst_reverse h.order]
      exact ⟨records, last, { h with keeps, listing := sorted.trans h.listing }, by omega⟩
    | @deleted id => exact ⟨_, _, h.erase id keeps, by omega⟩

/-! ## Every call in turn -/

/-- The clock does not go back between the calls. -/
def InOrder (errands : List (Timestamp × Errand)) : Prop :=
  errands.Pairwise fun e f => e.1.universal.instant ≤ f.1.universal.instant

theorem shows_run {c : Client} (root : c.IsAtRoot) {errands : List (Timestamp × Errand)}
    (order : InOrder errands) (inRange : ∀ e ∈ errands, e.2.IsInRange)
    (writable : Number.IsWritable errands.length) {now : Int}
    (past : ∀ e ∈ errands, e.1.universal.instant ≤ now) :
    ∃ records last, (run c errands).Shows records last now ∧ last ≤ errands.length := by
  -- Of the calls before the last one only its own time is known to be later.
  induction errands using List.reverseRecOn generalizing now with
  | nil => exact ⟨[], 0, shows_fresh now, le_rfl⟩
  | append_singleton errands e ih =>
    obtain ⟨order, -, before⟩ := List.pairwise_append.mp order
    rw [List.length_append, List.length_singleton] at *
    obtain ⟨records, last, shows, below⟩ := ih order (fun f hf => inRange f (by simp [hf]))
      (Number.IsWritable.of_le writable (by omega)) fun f hf => before f hf e (by simp)
    have started := shows.started
    have next : Number.IsWritable (last + 1) := Number.IsWritable.of_le writable (by omega)
    obtain ⟨records', last', shows', below'⟩ := shows.after root (inRange e (by simp)) next
    rw [run, List.foldl_append]
    exact ⟨records', last', shows'.later (past e (by simp)), by omega⟩

theorem InOrder.exists_latest {errands : List (Timestamp × Errand)} (h : InOrder errands) :
    ∃ now, ∀ e ∈ errands, e.1.universal.instant ≤ now := by
  rcases errands.eq_nil_or_concat' with rfl | ⟨before, last, rfl⟩
  · exact ⟨0, by simp⟩
  · obtain ⟨-, -, ordered⟩ := List.pairwise_append.mp h
    refine ⟨last.1.universal.instant, fun e he => ?_⟩
    rcases List.mem_append.mp he with he | he
    · exact ordered e he last (by simp)
    · rw [List.mem_singleton.mp he]

/-- Whatever is saved, listed and deleted, the listing is what the archive would list at any
time, snippet by snippet, although only a listing reads the archive. The number of calls bounds the
keys, which are signed words. -/
theorem listing_mirrors {c : Client} (root : c.IsAtRoot) {errands : List (Timestamp × Errand)}
    (order : InOrder errands) (inRange : ∀ e ∈ errands, e.2.IsInRange)
    (few : Number.IsWord errands.length) :
    ∃ r, Store.listRequest c = .ok r ∧ ∀ now : RawText, ∃ body,
      (run c errands).archive.reply now r = ((run c errands).archive, .answered 200 body) ∧
      Store.readList c (.answered 200 body) = .ok (run c errands).listing := by
  obtain ⟨latest, past⟩ := order.exists_latest
  have writable := Number.isWritable_of_isWord few
  obtain ⟨records, last, shows, -⟩ := shows_run root order inRange writable past
  obtain ⟨r, made, asks⟩ := Archive.exists_listRequest root
  refine ⟨r, made, fun now => ?_⟩
  have replied : (run c errands).archive.reply now r = ((run c errands).archive,
      .answered 200 (Text.Utf8.encode (listDocument (run c errands).listing).write)) := by
    rw [Archive.reply, shows.answer_list asks]
    rfl
  refine ⟨_, replied, Store.readList_encode root.acceptable fun s hs => ?_⟩
  rw [← shows.shelf_eq] at hs
  exact Archive.isStorable_of_mem_shelf shows.writable hs

/-- The client of a store at the root of its host. -/
def shop : Client := .ofAddress .store "http://s" (some "t0")

theorem isAtRoot_shop : shop.IsAtRoot where
  acceptable := ⟨by decide, by decide, ⟨_, rfl, by decide⟩, by decide⟩
  root := ⟨_, rfl, by decide, by decide, by decide, by decide⟩

/-- Two saves at one time, of which the first is deleted twice. -/
def twins : List (Timestamp × Errand) :=
  [(.noon, .save "lab" "router r1" {}), (.noon, .save "lab" "router r2" {}), (.noon, .delete 1),
    (.noon, .delete 1)]

theorem listing_mirrors_twins : shop.IsAtRoot ∧ InOrder twins ∧
    (∀ e ∈ twins, e.2.IsInRange) ∧ Number.IsWord twins.length ∧
    ∃ r, Store.listRequest shop = .ok r ∧ ∀ now : RawText, ∃ body,
      (run shop twins).archive.reply now r = ((run shop twins).archive, .answered 200 body) ∧
      Store.readList shop (.answered 200 body) = .ok (run shop twins).listing := by
  have order : InOrder twins := by simp [InOrder, twins]
  have inRange : ∀ e ∈ twins, e.2.IsInRange := by simp [twins, Errand.IsInRange, Number.IsWord]
  have few : Number.IsWord twins.length := by decide
  exact ⟨isAtRoot_shop, order, inRange, few, listing_mirrors isAtRoot_shop order inRange few⟩

end Mirror
end Topograph
