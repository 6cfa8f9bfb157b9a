import Mathlib.Data.List.DropRight
import Topograph.Text.Raw

/-!
# Trimmed texts

What is dropped at the two ends of a text are blanks, and what is left neither begins nor ends with
one. So trimming once is enough, only a blank text is trimmed to nothing, and a half that stands
alone is never dropped.
-/
namespace Topograph

namespace Text

section
variable {α : Type} (drop : α → Bool)

theorem trimBy_eq (cs : List α) : trimBy drop cs = (cs.dropWhile drop).rdropWhile drop := rfl

/-- An element that is not dropped comes first after the front was dropped. -/
theorem dropWhile_trimBy (cs : List α) : (trimBy drop cs).dropWhile drop = trimBy drop cs := by
  rw [trimBy_eq]
  rcases kept : (cs.dropWhile drop).rdropWhile drop with _ | ⟨c, rest⟩
  · rfl
  · obtain ⟨tail, whole⟩ := List.rdropWhile_prefix drop (l := cs.dropWhile drop)
    rw [kept, List.cons_append] at whole
    have head := List.head?_dropWhile_not drop cs
    rw [← whole] at head
    exact List.dropWhile_cons_of_neg (by simpa using head)

theorem trimBy_trimBy (cs : List α) : trimBy drop (trimBy drop cs) = trimBy drop cs := by
  rw [trimBy_eq drop (trimBy drop cs), dropWhile_trimBy, trimBy_eq, List.rdropWhile_idempotent]

theorem trimBy_eq_nil_iff (cs : List α) : trimBy drop cs = [] ↔ ∀ c ∈ cs, drop c = true := by
  rw [trimBy_eq, List.rdropWhile_eq_nil_iff]
  constructor
  · intro rest c hc
    rw [← List.takeWhile_append_dropWhile (p := drop) (l := cs)] at hc
    rcases List.mem_append.mp hc with front | back
    · exact List.mem_takeWhile_imp front
    · exact rest c back
  · exact fun all c hc => all c ((List.dropWhile_sublist drop).subset hc)

/-- What holds of all that can be dropped holds of the whole if it holds of the rest. -/
theorem all_trimBy {p : α → Bool} (dropped : ∀ c, drop c = true → p c = true) (cs : List α) :
    (trimBy drop cs).all p = cs.all p := by
  have front (l : List α) : (l.dropWhile drop).all p = l.all p := by
    have split := List.takeWhile_append_dropWhile (p := drop) (l := l)
    have first : (l.takeWhile drop).all p = true :=
      List.all_eq_true.mpr fun c hc => dropped c (List.mem_takeWhile_imp hc)
    rw [← congrArg (List.all · p) split, List.all_append, first, Bool.true_and]
  rw [trimBy, List.all_reverse, front, List.all_reverse, front]

end

end Text

namespace RawText

@[simp] theorem trim_trim (s : RawText) : s.trim.trim = s.trim :=
  congrArg RawText.mk (Text.trimBy_trimBy _ s.letters)

theorem isEmpty_trim (s : RawText) : s.trim.isEmpty = s.isAllBlank := by
  rw [Bool.eq_iff_iff, isEmpty, List.isEmpty_iff, isAllBlank, List.all_eq_true]
  exact Text.trimBy_eq_nil_iff _ s.letters

/-- No blank is a half that stands alone. -/
theorem isOrdinary_trim (s : RawText) : s.trim.isOrdinary = s.isOrdinary := by
  refine Text.all_trimBy _ (fun l blank => ?_) s.letters
  cases l with
  | char c => rfl
  | half n => cases blank

end RawText
end Topograph
