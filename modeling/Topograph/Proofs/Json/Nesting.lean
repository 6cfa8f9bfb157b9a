import Topograph.Json.Body
import Topograph.Text.Utf8

/-!
# Nesting

A document nests no deeper than its elements or its fields, and one level more. A reader stops at
the first bracket that opens one level more than it has headroom for, whatever stands after it.
-/
namespace Topograph.Json

theorem depthOfItems_le_iff {items : List Json} {n : Nat} :
    depthOfItems items ≤ n ↔ ∀ v ∈ items, v.depth ≤ n := by
  induction items with
  | nil => simp [depthOfItems]
  | cons v rest ih => rw [depthOfItems, Nat.max_le, ih, List.forall_mem_cons]

theorem depthOfFields_le_iff {fields : List (RawText × Json)} {n : Nat} :
    depthOfFields fields ≤ n ↔ ∀ f ∈ fields, f.2.depth ≤ n := by
  induction fields with
  | nil => simp [depthOfFields]
  | cons f rest ih => rw [depthOfFields, Nat.max_le, ih, List.forall_mem_cons]

theorem depth_array_le_iff {items : List Json} {n : Nat} :
    (Json.array items).depth ≤ n + 1 ↔ ∀ v ∈ items, v.depth ≤ n := by
  rw [depth, Nat.add_le_add_iff_right, depthOfItems_le_iff]

theorem depth_object_le_iff {fields : List (RawText × Json)} {n : Nat} :
    (Json.object fields).depth ≤ n + 1 ↔ ∀ f ∈ fields, f.2.depth ≤ n := by
  rw [depth, Nat.add_le_add_iff_right, depthOfFields_le_iff]

/-- A document of at most six levels, as the program writes them, fits in any headroom. -/
theorem Headroom.fits (headroom : Headroom) {v : Json} (shallow : v.depth ≤ 6) :
    v.depth ≤ headroom.levels := Nat.le_trans shallow headroom.ample

namespace Reader

theorem readValue_zero_bracket (fuel : Nat) (rest : List Letter) :
    readValue false 0 (fuel + 1) (.char '[' :: rest) = .error .tooDeep := by
  rw [readValue]
  split <;> rfl

theorem readItems_of_error {strict : Bool} {levels fuel : Nat} {ls : List Letter} {e : Stop}
    (h : readValue strict levels fuel ls = .error e) (done : List Json) :
    readItems strict levels (fuel + 1) ls done = .error e := by
  rw [readItems, h]

/-- More brackets in a row than there are levels are too many. -/
theorem readValue_brackets {levels n fuel : Nat} (many : levels < n) (enough : 2 * n ≤ fuel)
    (rest : List Letter) :
    readValue false levels fuel (List.replicate n (.char '[') ++ rest) = .error .tooDeep := by
  induction levels generalizing n fuel with
  | zero =>
    obtain ⟨n, rfl⟩ := Nat.exists_eq_add_one.mpr many
    obtain ⟨fuel, rfl⟩ := Nat.exists_eq_add_one.mpr (show 0 < fuel by omega)
    exact readValue_zero_bracket fuel _
  | succ levels ih =>
    obtain ⟨n, rfl⟩ : ∃ k, n = k + 2 := ⟨n - 2, by omega⟩
    obtain ⟨fuel, rfl⟩ : ∃ k, fuel = k + 2 := ⟨fuel - 2, by omega⟩
    have inner := @ih (n + 1) fuel (by omega) (by omega)
    have stops := readItems_of_error inner []
    rw [List.replicate_succ, List.cons_append] at stops
    rw [List.replicate_succ, List.replicate_succ, List.cons_append, List.cons_append, readValue]
    exact stops

end Reader

theorem read_brackets {headroom : Headroom} {n : Nat} (many : headroom.levels < n)
    (rest : List Letter) :
    read headroom ⟨List.replicate n (.char '[') ++ rest⟩ = .error .tooDeep := by
  obtain ⟨k, rfl⟩ := Nat.exists_eq_add_one.mpr (Nat.zero_lt_of_lt many)
  have begins : Reader.skipSpace (List.replicate (k + 1) (Letter.char '[') ++ rest) =
      List.replicate (k + 1) (.char '[') ++ rest := rfl
  have enough : 2 * (k + 1) ≤ 2 * (k + 1 + rest.length) + 2 := by omega
  have stops := Reader.readValue_brackets many enough rest
  rw [read, Reader.readAll, begins, List.length_append, List.length_replicate, stops]

end Topograph.Json
