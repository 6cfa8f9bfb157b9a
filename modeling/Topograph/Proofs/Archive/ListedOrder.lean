import Topograph.Proofs.Archive.Records
import Topograph.Proofs.Snippet.Sorting
import Topograph.Proofs.Time.StampOrder

/-!
# The order of a listing

Where the clock of an archive never goes back, its listing is in reverse order of arrival: the text
of a later time is never less, and among rows of one time a later row has the greater key.
-/
namespace Topograph.Archive

namespace Record

theorem isListedBefore_iff (r q : Record) : r.isListedBefore q = true ↔
    q.time.stamp < r.time.stamp ∨ q.time.stamp = r.time.stamp ∧ q.id ≤ r.id := by
  rw [isListedBefore, Row.isListedBefore, Bool.or_eq_true, Bool.and_eq_true, beq_iff_eq,
    decide_eq_true_eq, decide_eq_true_eq]
  rfl

theorem isListedBefore_trans (r q p : Record) (hrq : r.isListedBefore q = true)
    (hqp : q.isListedBefore p = true) : r.isListedBefore p = true := by
  rw [isListedBefore_iff] at hrq hqp ⊢
  rcases hrq with lt | ⟨eq, le⟩
  · rcases hqp with lt' | ⟨eq', -⟩
    · exact .inl (lt_trans lt' lt)
    · exact .inl (eq'.trans_lt lt)
  · rcases hqp with lt' | ⟨eq', le'⟩
    · exact .inl (lt'.trans_eq eq)
    · exact .inr ⟨eq'.trans eq, le_trans le' le⟩

theorem isListedBefore_total (r q : Record) :
    (r.isListedBefore q || q.isListedBefore r) = true := by
  rw [Bool.or_eq_true, isListedBefore_iff, isListedBefore_iff]
  rcases lt_trichotomy q.time.stamp r.time.stamp with lt | eq | gt
  · exact .inl (.inl lt)
  · rcases le_total q.id r.id with le | le
    · exact .inl (.inr ⟨eq, le⟩)
    · exact .inr (.inr ⟨eq.symm, le⟩)
  · exact .inr (.inl gt)

/-- Only records with one key are listed before each other. -/
theorem id_eq_of_isListedBefore {r q : Record} (hrq : r.isListedBefore q = true)
    (hqr : q.isListedBefore r = true) : r.id = q.id := by
  rw [isListedBefore_iff] at hrq hqr
  rcases hrq with lt | ⟨eq, le⟩
  · rcases hqr with lt' | ⟨eq', -⟩
    · exact absurd lt' (lt_asymm lt)
    · exact absurd (eq'.trans_lt lt) (lt_irrefl _)
  · rcases hqr with lt' | ⟨-, le'⟩
    · exact absurd (eq.trans_lt lt') (lt_irrefl _)
    · exact le_antisymm le' le

/-- The instant at which a record was stored. -/
def instant (r : Record) : Int := r.time.universal.instant

end Record

/-- The records arrived in the order of their times. -/
def InOrder (records : List Record) : Prop := records.Pairwise fun r q => r.instant ≤ q.instant

/-- The listing is the reverse of the order of arrival. -/
theorem Keeps.mergeSort_eq_reverse {a : Archive} {records : List Record} {last : Int}
    (h : a.Keeps records last) (order : InOrder records) :
    records.mergeSort Record.isListedBefore = records.reverse := by
  have sorted := List.pairwise_mergeSort Record.isListedBefore_trans Record.isListedBefore_total
    records
  have reversed : records.reverse.Pairwise fun r q => r.isListedBefore q = true := by
    rw [List.pairwise_reverse]
    refine (order.and h.ascending).imp fun {r q} hrq => ?_
    rw [Record.isListedBefore_iff]
    rcases Timestamp.stamp_le hrq.1 with lt | eq
    · exact .inl lt
    · exact .inr ⟨eq, le_of_lt hrq.2⟩
  -- Sorted permutations of one list differ only where two of its records share a key.
  apply List.Perm.eq_of_pairwise _ sorted reversed
  · exact (List.mergeSort_perm records _).trans (List.reverse_perm records).symm
  · intro r q hr hq hrq hqr
    apply h.eq_of_id ((List.mergeSort_perm records _).mem_iff.mp hr) (List.mem_reverse.mp hq)
    exact Record.id_eq_of_isListedBefore hrq hqr

theorem newestFirst_reverse {records : List Record} (order : InOrder records) :
    Listing.newestFirst (records.reverse.map Record.snippet) =
      records.reverse.map Record.snippet := by
  apply Listing.newestFirst_of_isNewestFirst
  rw [Listing.IsNewestFirst, List.pairwise_map, List.pairwise_reverse]
  exact order

end Topograph.Archive
