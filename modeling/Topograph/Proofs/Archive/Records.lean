import Mathlib.Data.List.Nodup
import Topograph.Archive.Answers
import Topograph.Proofs.Json.Fields
import Topograph.Proofs.Time.WrittenTime

/-!
# The records of an archive

An archive whose times come from a clock can read back every row that it has stored. It is told
here by its records, each a snippet with the time at which it was stored, and by the last key that
it has given out. Keys are given out in ascending order, so that no two records share one.
-/
namespace Topograph

/-- The four fields of a document, of which the last tells a time, make a snippet. -/
theorem Validation.snippet_fields (o : Origin) {id : Int} {title content : RawText}
    {created : Json} {t : Timestamp} (h : Timestamp.check o created = .ok t) :
    snippet o (.object [("id", .int id), ("title", .string title), ("content", .string content),
      ("created_at", created)]) = .ok ⟨id, title, content, t⟩ := by
  simp [snippet, Checked.record, Checked.required, Json.get?, List.lookup_cons, Json.int, int,
    intOfNumber, text, Checked.below, Checked.join, h]

namespace Archive

/-- A snippet with texts that have octets, and the time at which it was stored. -/
structure Record where
  id : Int
  title : String
  content : String
  time : Timestamp

namespace Record

def row (r : Record) : Row := ⟨r.id, r.title, r.content, r.time.stamp⟩

def snippet (r : Record) : Snippet := ⟨r.id, r.title, r.content, r.time.universal⟩

/-- A stored record is read back. -/
theorem snippet_row (r : Record) : r.row.snippet = .ok r.snippet := by
  have time : Timestamp.check .held (.string r.row.createdAt) = .ok r.time.universal :=
    Timestamp.check_stamp .held r.time
  rw [Row.snippet, Validation.snippet_fields .held time]
  rfl

/-- The record is listed before the other one. -/
def isListedBefore (r q : Record) : Bool := r.row.isListedBefore q.row

end Record

/-- Every row of some records is read back. -/
theorem mapM_snippet_row (records : List Record) :
    (records.map Record.row).mapM Row.snippet = .ok (records.map Record.snippet) := by
  induction records with
  | nil => rfl
  | cons r records ih =>
    rw [List.map_cons, List.mapM_cons, Record.snippet_row, ih]
    rfl

/-- The snippets of some records, in the order of a listing. -/
def shelf (records : List Record) : List Snippet :=
  (records.mergeSort Record.isListedBefore).map Record.snippet

theorem mem_shelf {records : List Record} {s : Snippet} :
    s ∈ shelf records ↔ ∃ r ∈ records, r.snippet = s := by
  simp [shelf]

/-- A table lists its records as snippets, in whatever order it holds them. -/
theorem list_of_table {a : Archive} {records : List Record} {last : Int}
    (table : a.table = some ⟨records.map Record.row, last⟩) : a.list = .ok (shelf records) := by
  have listed : Table.listed ⟨records.map Record.row, last⟩ =
      (records.mergeSort Record.isListedBefore).map Record.row :=
    (List.map_mergeSort (f := Record.row) fun _ _ _ _ => rfl).symm
  rw [Archive.list, Archive.opened, table]
  simp only [bind, Except.bind, listed]
  exact mapM_snippet_row _

/-- The table holds these records, and `last` is the last key that was given out. -/
structure Keeps (a : Archive) (records : List Record) (last : Int) : Prop where
  table : a.table = some ⟨records.map Record.row, last⟩
  ascending : records.Pairwise fun r q => r.id < q.id
  below : ∀ r ∈ records, r.id ≤ last

theorem keeps_fresh : fresh.Keeps [] 0 where
  table := rfl
  ascending := List.Pairwise.nil
  below := by simp

section
variable {a : Archive} {records : List Record} {last : Int} (h : a.Keeps records last)
include h

theorem Keeps.nodup : (records.map Record.id).Nodup :=
  List.pairwise_map.mpr (h.ascending.imp fun lt => ne_of_lt lt)

/-- Two records with one key are the same. -/
theorem Keeps.eq_of_id {r q : Record} (hr : r ∈ records) (hq : q ∈ records) (same : r.id = q.id) :
    r = q :=
  List.inj_on_of_nodup_map h.nodup hr hq same

theorem Keeps.opened : a.opened = .ok ⟨records.map Record.row, last⟩ := by
  rw [Archive.opened, h.table]

theorem Keeps.openedFor {id : Int} (word : Number.IsWord id) :
    a.openedFor id = .ok ⟨records.map Record.row, last⟩ := by
  rw [Archive.openedFor, h.opened]
  exact if_pos word

/-- A record under the next key is stored as a draft at its time. -/
theorem Keeps.insert {r : Record} (next : r.id = last + 1) :
    ∃ b, a.insert ⟨r.title, r.content⟩ r.time.stamp = (b, .ok r.snippet) ∧
      b.Keeps (records ++ [r]) (last + 1) := by
  have row : Table.nextRow? ⟨records.map Record.row, last⟩ ⟨r.title, r.content⟩ r.time.stamp =
      some r.row := by
    simp only [Table.nextRow?, RawText.toString?_ofString]
    rw [Record.row, next]
    rfl
  refine ⟨⟨some ⟨(records ++ [r]).map Record.row, last + 1⟩⟩, ?_, ?_⟩
  · rw [Archive.insert, h.opened]
    simp only [row, Record.snippet_row, Table.add, List.map_append, List.map_cons, List.map_nil]
    rw [← next]
    rfl
  · constructor
    · rfl
    · rw [List.pairwise_append]
      refine ⟨h.ascending, List.pairwise_singleton _ _, ?_⟩
      intro q hq s hs
      rw [List.mem_singleton.mp hs, next]
      exact Int.lt_add_one_of_le (h.below q hq)
    · intro q hq
      rcases List.mem_append.mp hq with hq | hq
      · exact Int.le_trans (h.below q hq) (by omega)
      · rw [List.mem_singleton.mp hq, next]

theorem Keeps.get {id : Int} (word : Number.IsWord id) :
    a.get id = .ok ((records.find? fun r => r.id == id).map Record.snippet) := by
  have row : Table.row? ⟨records.map Record.row, last⟩ id =
      (records.find? fun r => r.id == id).map Record.row := List.find?_map ..
  rw [Archive.get, h.openedFor word]
  simp only [bind, Except.bind, row]
  cases records.find? fun r => r.id == id with
  | none => rfl
  | some r =>
    simp only [Option.map_some, r.snippet_row]
    rfl

theorem Keeps.list : a.list = .ok (shelf records) := list_of_table h.table

theorem Keeps.delete {id : Int} (word : Number.IsWord id) :
    ∃ b, a.delete id = (b, .ok ()) ∧ b.Keeps (records.filter fun r => r.id != id) last := by
  refine ⟨⟨some ⟨(records.filter fun r => r.id != id).map Record.row, last⟩⟩, ?_, ?_⟩
  · rw [Archive.delete, h.openedFor word]
    simp only [Table.erase, List.filter_map]
    rfl
  · constructor
    · rfl
    · exact h.ascending.filter _
    · exact fun r hr => h.below r (List.mem_of_mem_filter hr)

end

end Archive
end Topograph
