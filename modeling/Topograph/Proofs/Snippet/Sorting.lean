import Mathlib.Data.Int.Order.Basic
import Mathlib.Data.List.Pairwise
import Topograph.Snippet.Listing

/-!
# Sorting a listing

What is sorted newest first is a rearrangement in which snippets of one instant keep their order. A
list that is in the order of time already stays as it is.
-/
namespace Topograph.Listing

/-- From the latest to the earliest; a timestamp without an offset counts as universal time. -/
def IsNewestFirst (l : Listing) : Prop :=
  l.Pairwise fun s q => q.createdAt.instant ≤ s.createdAt.instant

/-- The snippets of one instant, in their order. -/
def ofInstant (l : List Snippet) (i : Int) : List Snippet :=
  l.filter fun s => s.createdAt.instant = i

/-- The list is put in the order of time, and what is of one instant keeps its order. -/
structure Arranges (answer shown : List Snippet) : Prop where
  newest : IsNewestFirst shown
  perm : shown.Perm answer
  stable : ∀ i, ofInstant shown i = ofInstant answer i

theorem newer_trans (s q p : Snippet)
    (hsq : decide (q.createdAt.instant ≤ s.createdAt.instant) = true)
    (hqp : decide (p.createdAt.instant ≤ q.createdAt.instant) = true) :
    decide (p.createdAt.instant ≤ s.createdAt.instant) = true := by
  rw [decide_eq_true_eq] at hsq hqp ⊢
  exact le_trans hqp hsq

theorem newer_total (s q : Snippet) :
    (decide (q.createdAt.instant ≤ s.createdAt.instant) ||
      decide (s.createdAt.instant ≤ q.createdAt.instant)) = true := by
  simpa using le_total q.createdAt.instant s.createdAt.instant

theorem isNewestFirst_newestFirst (answer : List Snippet) : (newestFirst answer).IsNewestFirst :=
  (List.pairwise_mergeSort newer_trans newer_total answer).imp of_decide_eq_true

/-- Snippets of one instant are in any order already, so that sorting keeps theirs. -/
theorem ofInstant_newestFirst (answer : List Snippet) (i : Int) :
    ofInstant (newestFirst answer) i = ofInstant answer i := by
  have ordered : (ofInstant answer i).Pairwise fun s q =>
      decide (q.createdAt.instant ≤ s.createdAt.instant) = true := by
    apply List.pairwise_of_forall_mem_list
    intro s hs q hq
    simp only [ofInstant, List.mem_filter, decide_eq_true_eq] at hs hq ⊢
    rw [hs.2, hq.2]
  have within : (ofInstant answer i).Sublist (newestFirst answer) :=
    List.sublist_mergeSort newer_trans newer_total ordered List.filter_sublist
  have kept : (ofInstant answer i).Sublist (ofInstant (newestFirst answer) i) := by
    simpa only [ofInstant, List.filter_filter, Bool.and_self] using
      within.filter fun s => decide (s.createdAt.instant = i)
  have length : (ofInstant answer i).length = (ofInstant (newestFirst answer) i).length :=
    (((List.mergeSort_perm answer _).filter _).length_eq).symm
  exact (kept.eq_of_length length).symm

theorem arranges_newestFirst (answer : List Snippet) : Arranges answer (newestFirst answer) where
  newest := isNewestFirst_newestFirst answer
  perm := List.mergeSort_perm answer _
  stable := ofInstant_newestFirst answer

/-- There is nothing to move in a list that is in the order of time. -/
theorem newestFirst_of_isNewestFirst {l : Listing} (h : l.IsNewestFirst) : newestFirst l = l :=
  List.mergeSort_of_pairwise (h.imp fun le => decide_eq_true le)

end Topograph.Listing
