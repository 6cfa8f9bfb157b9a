import Topograph.Proofs.Snippet.Mirror

/-!
# Text order is time order

An archive sorts by the texts of its times. A whole second has a shorter text than the moments after
it, and still the order is that of the times, whatever clock told them and in whatever order the
rows came. A listing that sorts by time finds nothing to move.
-/
namespace Topograph

/-- The snippet is later than the other one, or of the same instant and with the greater key. -/
def Snippet.ComesBefore (s q : Snippet) : Prop :=
  q.createdAt.instant < s.createdAt.instant ∨
    q.createdAt.instant = s.createdAt.instant ∧ q.id < s.id

theorem Listing.isNewestFirst_of_comesBefore {l : Listing} (h : l.Pairwise Snippet.ComesBefore) :
    l.IsNewestFirst := by
  refine h.imp fun {s q} before => ?_
  rcases before with lt | ⟨eq, -⟩
  · exact le_of_lt lt
  · exact le_of_eq eq

namespace Archive

/-- A record that is listed before another one comes before it in time. -/
theorem Record.comesBefore_of_isListedBefore {r q : Record} (h : r.isListedBefore q = true)
    (distinct : r.id ≠ q.id) : r.snippet.ComesBefore q.snippet := by
  rw [isListedBefore_iff, Timestamp.stamp_lt_iff, Timestamp.stamp_inj] at h
  rcases h with lt | ⟨eq, le⟩
  · exact .inl lt
  · exact .inr ⟨eq, lt_of_le_of_ne le distinct.symm⟩

theorem pairwise_shelf {records : List Record} (distinct : (records.map Record.id).Nodup) :
    (shelf records).Pairwise Snippet.ComesBefore := by
  have sorted := List.pairwise_mergeSort Record.isListedBefore_trans Record.isListedBefore_total
    records
  have keys : ((records.mergeSort Record.isListedBefore).map Record.id).Nodup :=
    ((List.mergeSort_perm records _).map Record.id).nodup_iff.mpr distinct
  rw [shelf, List.pairwise_map]
  exact (sorted.and (List.pairwise_map.mp keys)).imp fun both =>
    Record.comesBefore_of_isListedBefore both.1 both.2

theorem perm_shelf (records : List Record) :
    (shelf records).Perm (records.map Record.snippet) :=
  (List.mergeSort_perm records _).map Record.snippet

/-- Whatever rows there are, in whatever order they were inserted and whatever times the clock told,
the archive lists their snippets from the latest to the earliest, and those of one instant by
descending key; and a listing of the archive shows them in the order in which they are listed. -/
theorem text_order_is_time_order {a : Archive} {records : List Record} {last : Int}
    (table : a.table = some ⟨records.map Record.row, last⟩)
    (distinct : (records.map Record.id).Nodup) :
    ∃ shown, a.list = .ok shown ∧ shown.Perm (records.map Record.snippet) ∧
      shown.Pairwise Snippet.ComesBefore ∧ Listing.newestFirst shown = shown ∧
      ∀ (c : Client) (now : RawText), c.IsAtRoot → (∀ r ∈ records, Number.IsWord r.id) →
        ∃ r body, Store.listRequest c = .ok r ∧ a.reply now r = (a, .answered 200 body) ∧
          ∀ l : Listing, l.listed c (.answered 200 body) = (shown, .ok shown) := by
  have listed := list_of_table table
  have ordered := pairwise_shelf distinct
  have settled := Listing.newestFirst_of_isNewestFirst
    (Listing.isNewestFirst_of_comesBefore ordered)
  refine ⟨shelf records, listed, perm_shelf records, ordered, settled, fun c now root words => ?_⟩
  obtain ⟨r, made, asks⟩ := exists_listRequest root
  have replied : a.reply now r =
      (a, .answered 200 (Text.Utf8.encode (listDocument (shelf records)).write)) := by
    rw [Archive.reply, answer_list_of_ok listed asks]
    rfl
  have storable : ∀ s ∈ shelf records, s.IsStorable :=
    fun s => isStorable_of_mem_shelf fun r hr => Number.isWritable_of_isWord (words r hr)
  refine ⟨r, _, made, replied, fun l => ?_⟩
  rw [Listing.listed, Store.readList_encode root.acceptable storable]
  simp only [settled]

/-- Rows that came in no order: a moment after noon, noon itself twice, and the day before. -/
def shuffled : List Record :=
  [⟨2, "b", "", { Timestamp.noon with clock := ⟨12, 0, 0, 1, by decide⟩ }⟩,
    ⟨4, "d", "", .noon⟩, ⟨1, "a", "", { Timestamp.noon with date := ⟨2023, 12, 31, by decide⟩ }⟩,
    ⟨3, "c", "", .noon⟩]

theorem text_order_is_time_order_shuffled :
    ∃ shown r body, shown.Perm (shuffled.map Record.snippet) ∧
      shown.Pairwise Snippet.ComesBefore ∧ Store.listRequest Mirror.shop = .ok r ∧
      Archive.reply ⟨some ⟨shuffled.map Record.row, 4⟩⟩ "" r =
        (⟨some ⟨shuffled.map Record.row, 4⟩⟩, .answered 200 body) ∧
      Listing.listed [] Mirror.shop (.answered 200 body) = (shown, .ok shown) := by
  obtain ⟨shown, -, perm, ordered, -, fetched⟩ :=
    text_order_is_time_order (a := ⟨some ⟨shuffled.map Record.row, 4⟩⟩) rfl (by decide)
  obtain ⟨r, body, made, replied, taken⟩ :=
    fetched Mirror.shop "" Mirror.isAtRoot_shop (by simp [shuffled, Number.IsWord])
  exact ⟨shown, r, body, perm, ordered, made, replied, taken []⟩

end Archive
end Topograph
