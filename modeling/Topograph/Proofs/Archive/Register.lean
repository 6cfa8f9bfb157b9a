import Topograph.Proofs.Archive.Handled

/-!
# An archive as a register

To those who visit it, an archive is a register of snippets. A snippet is entered once, under a key
above all keys that were ever given out, and it is never changed. It can be got and listed until it
is deleted, and from then on it is gone: keys of deleted snippets are not used again.
-/
namespace Topograph.Archive

/-- The snippets that have been entered and not deleted, and all keys ever given out. -/
structure Register where
  live : List Snippet := []
  assigned : List Int := []

namespace Register

/-- No live snippet has this key. -/
def Lacks (g : Register) (id : Int) : Prop := ∀ s ∈ g.live, s.id ≠ id

/-- How a register answers, and what becomes of it. -/
inductive Serves (g : Register) : Ask → Response → Register → Prop where
  | blank {d : Draft} : d.title.trim.isEmpty = true →
    Serves g (.create d) (.detail 400 "Title must not be empty") g
  | created {d : Draft} {s : Snippet} : d.title.trim.isEmpty = false →
    (∀ id ∈ g.assigned, id < s.id) → s.title = d.title.trim → s.content = d.content →
    Serves g (.create d) (.ofJson 201 s.toJson) ⟨g.live ++ [s], s.id :: g.assigned⟩
  | got {s : Snippet} : s ∈ g.live → Serves g (.get s.id) (.ofJson 200 s.toJson) g
  | missing {id : Int} : g.Lacks id → Serves g (.get id) (.noSnippet id) g
  | listed {snippets : List Snippet} : snippets.Perm g.live →
    Serves g .list (.ofJson 200 (.array (snippets.map Snippet.toJson))) g
  | deleted {s : Snippet} : s ∈ g.live →
    Serves g (.delete s.id) (.ofJson 200 (.object [("deleted", .int s.id)]))
      { g with live := g.live.filter fun q => q.id != s.id }
  | gone {id : Int} : g.Lacks id → Serves g (.delete id) (.noSnippet id) g

/-- What a register answers to visits in order. -/
inductive ServesAll : Register → List Ask → List Response → Register → Prop where
  | done (g : Register) : ServesAll g [] [] g
  | visit {g g' g'' : Register} {ask : Ask} {asks : List Ask} {response : Response}
    {responses : List Response} : Serves g ask response g' → ServesAll g' asks responses g'' →
    ServesAll g (ask :: asks) (response :: responses) g''

/-- Every live snippet has a key that was given out, and no two have the same. -/
structure IsSound (g : Register) : Prop where
  known : ∀ s ∈ g.live, s.id ∈ g.assigned
  nodup : (g.live.map Snippet.id).Nodup

theorem IsSound.serves {g g' : Register} (h : g.IsSound) {ask : Ask} {response : Response}
    (serves : g.Serves ask response g') : g'.IsSound := by
  cases serves with
  | @created d s _ fresh _ _ =>
    constructor
    · intro q hq
      rcases List.mem_append.mp hq with hq | hq
      · exact List.mem_cons_of_mem _ (h.known q hq)
      · rw [List.mem_singleton.mp hq]
        exact List.mem_cons_self
    · rw [List.map_append, List.nodup_append]
      refine ⟨h.nodup, by simp, ?_⟩
      intro id hid other hother
      obtain ⟨q, hq, rfl⟩ := List.mem_map.mp hid
      rw [List.mem_singleton.mp hother]
      exact ne_of_lt (fresh _ (h.known q hq))
  | deleted _ =>
    constructor
    · exact fun q hq => h.known q (List.mem_of_mem_filter hq)
    · exact h.nodup.sublist (List.filter_sublist.map _)
  | _ => exact h

theorem IsSound.servesAll {g g' : Register} (h : g.IsSound) {asks : List Ask}
    {responses : List Response} (serves : g.ServesAll asks responses g') : g'.IsSound := by
  induction serves with
  | done g => exact h
  | visit first _ ih => exact ih (h.serves first)

end Register

/-- The archive keeps the live snippets of a register, and gives out no key of its past. -/
def Represents (a : Archive) (g : Register) : Prop :=
  ∃ records last, a.Keeps records last ∧ g.live = records.map Record.snippet ∧
    ∀ id ∈ g.assigned, id ≤ last

theorem represents_fresh : fresh.Represents {} := ⟨[], 0, keeps_fresh, rfl, by simp⟩

/-- The archive answers one visit as its register does. -/
theorem Represents.answer {a : Archive} {g : Register} (h : a.Represents g) {q : Inquiry}
    {ask : Ask} (asks : q.Asks ask) (t : Timestamp) :
    ∃ b response g', a.answer t.stamp q = (b, .ok response) ∧ g.Serves ask response g' ∧
      b.Represents g' := by
  obtain ⟨records, last, keeps, live, assigned⟩ := h
  have lacks {id : Int} (absent : ∀ r ∈ records, r.id ≠ id) : g.Lacks id := by
    intro s hs
    rw [live] at hs
    obtain ⟨r, hr, rfl⟩ := List.mem_map.mp hs
    exact absent r hr
  have kept {r : Record} (hr : r ∈ records) : r.snippet ∈ g.live := by
    rw [live]
    exact List.mem_map_of_mem hr
  obtain ⟨b, response, records', last', answered, handles, keeps'⟩ := keeps.handles asks t
  have same : last' = last → records' = records → b.Represents g := by
    rintro rfl rfl
    exact ⟨records', last', keeps', live, assigned⟩
  cases handles with
  | blank blank => exact ⟨b, _, g, answered, .blank blank, same rfl rfl⟩
  | @created _ r titled key _ title content =>
    refine ⟨b, _, _, answered, .created titled ?_ title content, _, _, keeps', ?_, ?_⟩
    · intro id hid
      have below := assigned id hid
      change id < r.id
      omega
    · rw [List.map_append, ← live]
      rfl
    · intro id hid
      rcases List.mem_cons.mp hid with rfl | hid
      · exact key.le
      · have below := assigned id hid
        omega
  | got hr => exact ⟨b, _, g, answered, .got (kept hr), same rfl rfl⟩
  | missing absent => exact ⟨b, _, g, answered, .missing (lacks absent), same rfl rfl⟩
  | listed =>
    refine ⟨b, _, g, answered, .listed ?_, same rfl rfl⟩
    rw [live]
    exact (List.mergeSort_perm records _).map _
  | @deleted r hr =>
    refine ⟨b, _, _, answered, .deleted (kept hr), _, _, keeps', ?_, assigned⟩
    rw [live, List.filter_map]
    rfl
  | gone absent => exact ⟨b, _, g, answered, .gone (lacks absent), same rfl rfl⟩

theorem Represents.serve {a : Archive} {g : Register} (h : a.Represents g)
    (visits : List Visit) : ∃ b responses g', a.serve visits = (b, responses.map .ok) ∧
      g.ServesAll (visits.map Visit.ask) responses g' ∧ b.Represents g' := by
  induction visits generalizing a g with
  | nil => exact ⟨a, [], g, rfl, .done g, h⟩
  | cons v rest ih =>
    obtain ⟨b, response, g', answered, serves, h'⟩ := h.answer v.asks v.time
    obtain ⟨c, responses, g'', served, servesAll, h''⟩ := ih h'
    refine ⟨c, response :: responses, g'', ?_, .visit serves servesAll, h''⟩
    rw [Archive.serve, answered]
    simp only [served, List.map_cons]

/-- Whatever requests are made to an archive whose table was empty at first, its answers are those
of a register, in which no two live snippets share a key. -/
theorem serves_as_register (visits : List Visit) :
    ∃ responses g, (fresh.serve visits).2 = responses.map .ok ∧
      Register.ServesAll {} (visits.map Visit.ask) responses g ∧
      (g.live.map Snippet.id).Nodup := by
  obtain ⟨b, responses, g, served, serves, -⟩ := represents_fresh.serve visits
  have sound : Register.IsSound {} := ⟨by simp, by simp⟩
  exact ⟨responses, g, congrArg Prod.snd served, serves, (sound.servesAll serves).nodup⟩

def storing : Visit where
  time := .noon
  inquiry :=
    { method := some .post
      path := "/snippets"
      body := Text.Utf8.encode "\x7b\"title\":\" lab \",\"content\":\"x\"\x7d" }
  ask := .create ⟨" lab ", "x"⟩
  asks := ⟨rfl, by decide, by decide +kernel, by decide, by decide⟩

def deleting : Visit where
  time := .noon
  inquiry := { method := some .delete, path := "/snippets/1", body := [] }
  ask := .delete 1
  asks := ⟨rfl, by decide, "1", by decide, by rfl⟩

/-- The key of the deleted snippet is not used again, so that the second deletion finds nothing. -/
theorem serves_as_register_deleted :
    (fresh.serve [storing, deleting, storing, deleting]).2.map (fun result =>
      result.toOption.map Response.status) = [some 201, some 200, some 201, some 404] ∧
    ∃ responses g, (fresh.serve [storing, deleting, storing, deleting]).2 = responses.map .ok ∧
      Register.ServesAll {} [.create ⟨" lab ", "x"⟩, .delete 1, .create ⟨" lab ", "x"⟩, .delete 1]
        responses g ∧ (g.live.map Snippet.id).Nodup := by
  refine ⟨by decide +kernel, ?_⟩
  exact serves_as_register [storing, deleting, storing, deleting]

end Topograph.Archive
