import Topograph.Proofs.Json.ReadWritable
import Topograph.Proofs.Network.Writable
import Topograph.Proofs.Number.Rounding

/-!
# Read topologies are writable

An identifier that is read from a writable document has a text: an integer of the document has
one, a finite value stays below `2 ^ 1024`, and a text names no more digits than the limit. So
every topology of a document that was read is writable.
-/
namespace Topograph
open Number

theorem div_pow_lt {u a b c d : Nat} (h : u < Nat.pow 2 a * Nat.pow 2 b) (sum : a + b = c + d) :
    u / Nat.pow 2 c < Nat.pow 2 d := by
  have power : Nat.pow 2 a * Nat.pow 2 b = Nat.pow 2 c * Nat.pow 2 d :=
    (Nat.pow_add 2 a b).symm.trans ((congrArg (Nat.pow 2) sum).trans (Nat.pow_add 2 c d))
  exact Nat.div_lt_of_lt_mul (Nat.lt_of_lt_of_eq h power)

theorem Number.Magnitude.floor_lt (m : Magnitude) : m.floor < Nat.pow 2 1024 := by
  have units := div_pow_lt (c := 1074) (d := 1024) (m.units_lt 2045 m.canonical.2.2) rfl
  exact units

namespace Identifier

theorem isWritable_of_truncate? {x : Binary64} {n : Int} (h : x.truncate? = some n) :
    IsWritable n := by
  cases x with
  | nan => exact absurd h (by simp [Binary64.truncate?])
  | infinite negative => exact absurd h (by simp [Binary64.truncate?])
  | finite negative m =>
    have size : n.natAbs = m.floor := by
      obtain rfl := Option.some.inj h
      cases negative <;> simp
    have limit : Nat.pow 2 1024 < Nat.pow 10 digitLimit := by decide +kernel
    rw [IsWritable, size]
    exact Nat.lt_trans m.floor_lt limit

theorem isWritable_of_ofChars? {cs : List Char} {n : Int} (h : ofChars? cs = some n) :
    IsWritable n := by
  unfold ofChars? at h
  simp only at h
  split at h
  · exact absurd h (by simp)
  · exact isWritable_of_integerOfDigits? (fun c hc => List.all_eq_true.mp List.all_takeWhile c hc) h

theorem isWritable_read {v : Json} (h : v.IsWritable) : IsWritable (read v 0) := by
  have zero : IsWritable 0 := by decide +kernel
  cases named : ofJson? v with
  | none => rwa [read, named]
  | some n =>
    rw [read, named, Option.getD_some]
    cases v with
    | number m =>
      cases m with
      | int m =>
        obtain rfl := Option.some.inj named
        exact h
      | float x => exact isWritable_of_truncate? named
    | string s => exact isWritable_of_ofChars? named
    | _ => exact absurd named (by simp [ofJson?])

end Identifier

namespace Json

theorem mem_of_lookup {key : RawText} {v : Json} {fields : List (RawText × Json)}
    (h : fields.lookup key = some v) : ∃ f ∈ fields, f.2 = v := by
  induction fields with
  | nil => exact absurd h (by simp)
  | cons f rest ih =>
    rw [List.lookup_cons] at h
    split at h
    · exact ⟨f, List.mem_cons_self, Option.some.inj h⟩
    · obtain ⟨g, hg, value⟩ := ih h
      exact ⟨g, List.mem_cons_of_mem f hg, value⟩

theorem IsWritable.getD {v : Json} (h : v.IsWritable) (key : RawText) :
    ((v.get? key).getD .null).IsWritable := by
  cases found : v.get? key with
  | none => trivial
  | some w =>
    cases v with
    | object fields =>
      obtain ⟨f, hf, rfl⟩ := mem_of_lookup found
      exact (fieldsAreWritable_iff fields).mp h f hf
    | _ => exact absurd found (by simp [get?])

theorem IsWritable.items {v : Json} (h : v.IsWritable) : ∀ w ∈ v.items, w.IsWritable := by
  cases v with
  | array items => exact (areWritable_iff items).mp h
  | _ => simp [Json.items]

end Json

namespace Topology

theorem isWritable_ofGraph {graph : Json} (h : graph.IsWritable) : (ofGraph graph).IsWritable := by
  constructor
  · intro d hd
    obtain ⟨record, mem, rfl⟩ := List.mem_map.mp hd
    have writable := (h.getD "nodes").items record mem
    exact Identifier.isWritable_read (writable.getD "id")
  · intro l hl
    obtain ⟨record, mem, rfl⟩ := List.mem_map.mp hl
    have writable := (h.getD "edges").items record mem
    exact ⟨Identifier.isWritable_read (writable.getD "source"),
      Identifier.isWritable_read (writable.getD "target")⟩

end Topology
end Topograph
