import Topograph.Proofs.Snippet.Errands

/-!
# The deeds of an archive

What an archive has done in the course of its errands: the rows that were added to its table, and
the keys that it was asked to delete. The records that it keeps are the snippets that were stored
and not deleted since.
-/
namespace Topograph

namespace Archive

def rows (a : Archive) : List Row := (a.table.map Table.rows).getD []

/-- The snippets of the rows that are in the second archive only. -/
def added (a b : Archive) : List Snippet :=
  (b.rows.filter fun r => r ∉ a.rows).filterMap fun r => r.snippet.toOption

theorem Keeps.rows_eq {a : Archive} {records : List Record} {last : Int}
    (h : a.Keeps records last) : a.rows = records.map Record.row := by
  rw [rows, h.table]
  rfl

/-- Nothing is added where every record was there before. -/
theorem Keeps.added_of_subset {a b : Archive} {records records' : List Record} {last last' : Int}
    (h : a.Keeps records last) (h' : b.Keeps records' last')
    (subset : ∀ r ∈ records', r ∈ records) : added a b = [] := by
  have old : (b.rows.filter fun r => r ∉ a.rows) = [] := by
    rw [List.filter_eq_nil_iff, h.rows_eq, h'.rows_eq]
    intro row hrow
    obtain ⟨r, hr, rfl⟩ := List.mem_map.mp hrow
    simpa using ⟨r, subset r hr, rfl⟩
  rw [added, old]
  rfl

/-- A record under a new key is added. -/
theorem Keeps.added_append {a b : Archive} {records : List Record} {last last' : Int}
    (h : a.Keeps records last) {r : Record} (h' : b.Keeps (records ++ [r]) last')
    (key : last < r.id) : added a b = [r.snippet] := by
  have absent : r.row ∉ records.map Record.row := by
    intro known
    obtain ⟨q, hq, same⟩ := List.mem_map.mp known
    have same : q.id = r.id := congrArg Row.id same
    have below := h.below q hq
    omega
  have new : (b.rows.filter fun row => row ∉ a.rows) = [r.row] := by
    rw [h.rows_eq, h'.rows_eq, List.map_append, List.filter_append]
    have old : ((records.map Record.row).filter fun row => row ∉ records.map Record.row) = [] :=
      List.filter_eq_nil_iff.mpr fun row hrow => by simpa using List.mem_map.mp hrow
    rw [old, List.nil_append]
    exact List.filter_eq_self.mpr fun row hrow => by simpa [List.mem_singleton.mp hrow] using absent
  rw [added, new]
  simp [r.snippet_row, Except.toOption]

end Archive

/-- A row was added to the table, or the archive was asked to delete the row under a key. -/
inductive Deed where
  | stored (s : Snippet)
  | deleted (id : Int)

/-- What the archive did at the request of an errand. -/
def Errand.deeds (a b : Archive) : Errand → List Deed
  | .delete id => (Archive.added a b).map .stored ++ [.deleted id]
  | .save _ _ _ | .list => (Archive.added a b).map .stored

def Patch.deeds : Patch → List Deed
  | .front s => [.stored s]
  | .without id => [.deleted id]
  | .kept | .whole _ => []

/-- A reply tells the deeds of its errand. -/
theorem Archive.Runs.deeds_eq {t : Timestamp} {records records' : List Archive.Record}
    {last last' : Int} {e : Errand} {p : Patch}
    (runs : Archive.Runs t records last e p records' last') {a b : Archive}
    (h : a.Keeps records last) (h' : b.Keeps records' last') : e.deeds a b = p.deeds := by
  cases runs with
  | refused | listed =>
    rw [Errand.deeds, h.added_of_subset h' fun r hr => hr]
    rfl
  | stored key =>
    rw [Errand.deeds, h.added_append h' (by omega)]
    rfl
  | deleted =>
    rw [Errand.deeds, h.added_of_subset h' fun r hr => List.mem_of_mem_filter hr]
    rfl

/-- The snippet was stored, and nothing was deleted under its key since. -/
def Survives (deeds : List Deed) (s : Snippet) : Prop :=
  ∃ before after, deeds = before ++ .stored s :: after ∧ .deleted s.id ∉ after

theorem Survives.stored {deeds : List Deed} {s : Snippet} (h : Survives deeds s) :
    .stored s ∈ deeds := by
  obtain ⟨before, after, rfl, -⟩ := h
  simp

theorem survives_append {deeds : List Deed} {d : Deed} {s : Snippet} :
    Survives (deeds ++ [d]) s ↔ d = .stored s ∨ Survives deeds s ∧ d ≠ .deleted s.id := by
  constructor
  · rintro ⟨before, after, same, undeleted⟩
    rcases after.eq_nil_or_concat' with rfl | ⟨after, d', rfl⟩
    · exact .inl (List.singleton_inj.mp (List.append_inj_right' same rfl))
    · have regrouped : before ++ .stored s :: (after ++ [d']) =
          (before ++ .stored s :: after) ++ [d'] := by simp
      obtain ⟨front, last⟩ := List.append_inj' (same.trans regrouped) rfl
      obtain rfl := List.singleton_inj.mp last
      rw [List.mem_append, List.mem_singleton, not_or] at undeleted
      exact .inr ⟨⟨before, after, front, undeleted.1⟩, Ne.symm undeleted.2⟩
  · rintro (rfl | ⟨⟨before, after, rfl, undeleted⟩, other⟩)
    · exact ⟨deeds, [], rfl, by simp⟩
    · refine ⟨before, after ++ [d], by simp, ?_⟩
      rw [List.mem_append, List.mem_singleton, not_or]
      exact ⟨undeleted, Ne.symm other⟩

/-- The records are the snippets that survive the deeds, under keys up to `last`. -/
structure Archive.IsBooked (records : List Archive.Record) (last : Int) (deeds : List Deed) :
    Prop where
  writable : ∀ r ∈ records, Number.IsWritable r.id
  started : 0 ≤ last
  assigned : ∀ s, .stored s ∈ deeds → s.id ≤ last
  survives : ∀ s, (∃ r ∈ records, r.snippet = s) ↔ Survives deeds s

theorem Archive.isBooked_nil : Archive.IsBooked [] 0 [] where
  writable := by simp
  started := le_rfl
  assigned := by simp
  survives s := by
    constructor
    · rintro ⟨r, hr, -⟩
      cases hr
    · exact fun survives => absurd survives.stored (by simp)

/-- What a reply brings was stored, by its own errand or before. -/
theorem Archive.IsBooked.stored_of_brings {records records' : List Archive.Record}
    {last last' : Int} {deeds : List Deed} (h : Archive.IsBooked records last deeds)
    {t : Timestamp} {e : Errand} {p : Patch}
    (runs : Archive.Runs t records last e p records' last') {s : Snippet} (hs : s ∈ p.brings) :
    .stored s ∈ deeds ++ p.deeds := by
  cases runs with
  | refused | deleted => cases hs
  | stored =>
    rw [List.mem_singleton.mp hs]
    exact List.mem_append_right _ List.mem_cons_self
  | listed =>
    have kept := Archive.mem_shelf.mp (Listing.mem_newestFirst.mp hs)
    exact List.mem_append_left _ ((h.survives s).mp kept).stored

theorem Archive.IsBooked.runs {records records' : List Archive.Record} {last last' : Int}
    {deeds : List Deed} (h : Archive.IsBooked records last deeds)
    (next : Number.IsWritable (last + 1)) {t : Timestamp} {e : Errand} {p : Patch}
    (runs : Archive.Runs t records last e p records' last') :
    Archive.IsBooked records' last' (deeds ++ p.deeds) := by
  cases runs with
  | refused | listed =>
    rw [Patch.deeds, List.append_nil]
    exact h
  | @stored _ _ _ r key =>
    constructor
    · intro q hq
      rcases List.mem_append.mp hq with hq | hq
      · exact h.writable q hq
      · rw [List.mem_singleton.mp hq, key]
        exact next
    · exact Int.le_add_one h.started
    · intro s hs
      rcases List.mem_append.mp hs with hs | hs
      · exact Int.le_add_one (h.assigned s hs)
      · obtain rfl : s = r.snippet := by simpa [Patch.deeds] using hs
        exact key.le
    · intro s
      rw [Patch.deeds, survives_append, ← h.survives s]
      simp [or_comm]
  | @deleted id =>
    constructor
    · exact fun q hq => h.writable q (List.mem_of_mem_filter hq)
    · exact h.started
    · intro s hs
      exact h.assigned s (by simpa [Patch.deeds] using hs)
    · intro s
      rw [Patch.deeds, survives_append, ← h.survives s]
      constructor
      · rintro ⟨r, hr, rfl⟩
        obtain ⟨hr, kept⟩ := List.mem_filter.mp hr
        refine .inr ⟨⟨r, hr, rfl⟩, fun same => ?_⟩
        exact bne_iff_ne.mp kept (Deed.deleted.inj same).symm
      · rintro (stored | ⟨⟨r, hr, rfl⟩, other⟩)
        · cases stored
        · refine ⟨r, List.mem_filter.mpr ⟨hr, bne_iff_ne.mpr fun same => other ?_⟩, rfl⟩
          exact congrArg Deed.deleted same.symm

end Topograph
