import Topograph.Proofs.Archive.Visits

/-!
# Records under visits

What a visit does to the records of an archive, and how it is answered, as one relation with a case
for each outcome. Keys only grow, and a record stays until a visit deletes it.
-/
namespace Topograph.Archive

/-- How records with this last key handle a visit, and what becomes of them. -/
inductive Handles (t : Timestamp) (records : List Record) (last : Int) :
    Ask → Response → List Record → Int → Prop where
  | blank {d : Draft} : d.title.trim.isEmpty = true →
    Handles t records last (.create d) (.detail 400 "Title must not be empty") records last
  | created {d : Draft} {r : Record} : d.title.trim.isEmpty = false → r.id = last + 1 →
    r.time = t → r.snippet.title = d.title.trim → r.snippet.content = d.content →
    Handles t records last (.create d) (.ofJson 201 r.snippet.toJson) (records ++ [r]) (last + 1)
  | got {r : Record} : r ∈ records →
    Handles t records last (.get r.id) (.ofJson 200 r.snippet.toJson) records last
  | missing {id : Int} : (∀ r ∈ records, r.id ≠ id) →
    Handles t records last (.get id) (.noSnippet id) records last
  | listed : Handles t records last .list
    (.ofJson 200 (.array ((shelf records).map Snippet.toJson))) records last
  | deleted {r : Record} : r ∈ records → Handles t records last (.delete r.id)
    (.ofJson 200 (.object [("deleted", .int r.id)])) (records.filter fun q => q.id != r.id) last
  | gone {id : Int} : (∀ r ∈ records, r.id ≠ id) →
    Handles t records last (.delete id) (.noSnippet id) records last

/-- An archive handles every visit as its records do. -/
theorem Keeps.handles {a : Archive} {records : List Record} {last : Int}
    (h : a.Keeps records last) {q : Inquiry} {ask : Ask} (asks : q.Asks ask) (t : Timestamp) :
    ∃ b response records' last', a.answer t.stamp q = (b, .ok response) ∧
      Handles t records last ask response records' last' ∧ b.Keeps records' last' := by
  cases ask with
  | create d =>
    by_cases blank : d.title.trim.isEmpty = true
    · exact ⟨a, _, _, _, answer_create_blank asks blank a t.stamp, .blank blank, h⟩
    · have titled : d.title.trim.isEmpty = false := Bool.eq_false_of_not_eq_true blank
      obtain ⟨b, r, answered, keeps, key, time, title, content⟩ := h.answer_create asks titled t
      exact ⟨b, _, _, _, answered, .created titled key time title content, keeps⟩
  | get id =>
    have answered := h.answer_get asks t.stamp
    cases found : records.find? fun r => r.id == id with
    | none =>
      rw [found] at answered
      refine ⟨a, _, _, _, answered, .missing fun r hr => ?_, h⟩
      simpa using List.find?_eq_none.mp found r hr
    | some r =>
      rw [found] at answered
      obtain rfl : r.id = id := by simpa using List.find?_some found
      exact ⟨a, _, _, _, answered, .got (List.mem_of_find?_eq_some found), h⟩
  | list => exact ⟨a, _, _, _, h.answer_list asks t.stamp, .listed, h⟩
  | delete id =>
    by_cases present : ∃ r ∈ records, r.id = id
    · obtain ⟨r, hr, rfl⟩ := present
      obtain ⟨b, answered, keeps⟩ := h.answer_delete asks t.stamp hr rfl
      exact ⟨b, _, _, _, answered, .deleted hr, keeps⟩
    · have absent : ∀ r ∈ records, r.id ≠ id := fun r hr key => present ⟨r, hr, key⟩
      exact ⟨a, _, _, _, h.answer_delete_none asks t.stamp absent, .gone absent, h⟩

section
variable {t : Timestamp} {records records' : List Record} {last last' : Int} {ask : Ask}
  {response : Response} (h : Handles t records last ask response records' last')
include h

/-- At most one key is given out. -/
theorem Handles.last_mono : last ≤ last' ∧ last' ≤ last + 1 := by
  cases h <;> omega

/-- A record that is there afterwards was there before, or has the new key. -/
theorem Handles.mem_or_new {r : Record} (hr : r ∈ records') : r ∈ records ∨ last < r.id := by
  cases h with
  | created _ key =>
    rcases List.mem_append.mp hr with hr | hr
    · exact .inl hr
    · rw [List.mem_singleton.mp hr, key]
      exact .inr (Int.lt_succ last)
  | deleted => exact .inl (List.mem_of_mem_filter hr)
  | _ => exact .inl hr

/-- A record stays unless its own key is deleted. -/
theorem Handles.mem_of_mem {r : Record} (hr : r ∈ records) (spared : ask ≠ .delete r.id) :
    r ∈ records' := by
  cases h with
  | created => exact List.mem_append_left _ hr
  | deleted =>
    refine List.mem_filter.mpr ⟨hr, bne_iff_ne.mpr fun same => spared ?_⟩
    rw [same]
  | _ => exact hr

end

/-! ## Visits in order -/

/-- A request of one of the four kinds, at a time that a clock tells. -/
structure Visit where
  time : Timestamp
  inquiry : Inquiry
  ask : Ask
  asks : inquiry.Asks ask

/-- Answer visits in order. -/
def serve (a : Archive) : List Visit → Archive × List (Except Failure Response)
  | [] => (a, [])
  | v :: rest =>
    let (b, result) := a.answer v.time.stamp v.inquiry
    let (c, results) := b.serve rest
    (c, result :: results)

/-- What visits in order leave of some records: no more new keys than visits, all of them above the
old ones, and every record whose key is not deleted. -/
theorem Keeps.serve {a : Archive} {records : List Record} {last : Int} (h : a.Keeps records last)
    (visits : List Visit) : ∃ records' last', (a.serve visits).1.Keeps records' last' ∧
      last ≤ last' ∧ last' ≤ last + visits.length ∧
      (∀ r ∈ records', r ∈ records ∨ last < r.id) ∧
      ∀ r ∈ records, (∀ v ∈ visits, v.ask ≠ .delete r.id) → r ∈ records' := by
  induction visits generalizing a records last with
  | nil => exact ⟨records, last, h, le_rfl, by simp, fun r hr => .inl hr, fun r hr _ => hr⟩
  | cons v rest ih =>
    obtain ⟨b, response, records₁, last₁, answered, handles, keeps⟩ := h.handles v.asks v.time
    obtain ⟨records₂, last₂, served, grown, bounded, new, spared⟩ := ih keeps
    have mono := handles.last_mono
    refine ⟨records₂, last₂, ?_, by omega, by rw [List.length_cons]; omega, ?_, ?_⟩
    · rw [Archive.serve, answered]
      exact served
    · intro r hr
      rcases new r hr with hr | key
      · exact handles.mem_or_new hr
      · exact .inr (by omega)
    · intro r hr undeleted
      apply spared r (handles.mem_of_mem hr (undeleted v (by simp)))
      exact fun w hw => undeleted w (by simp [hw])

end Topograph.Archive
