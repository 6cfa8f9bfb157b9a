import Topograph.Proofs.Session.Conduct
import Topograph.Proofs.Session.Workbench

/-!
# One command at a time

The busy flag tells whether a command is in flight. It is set by a command that goes on to wait,
and released by whatever ends that command. A second command is turned away: it sends nothing, and
the command in flight goes on to the same end, in the same session but for a title that a save
brings along.
-/
namespace Topograph

def Progress.isWaiting : Progress → Bool
  | .waiting _ _ => true
  | .ended _ => false

def Progress.request? : Progress → Option Request
  | .waiting r _ => some r
  | .ended _ => none

theorem Progress.length_pending? (p : Progress) : p.pending?.toList.length = p.isWaiting.toNat := by
  cases p <;> rfl

theorem Progress.length_request? (p : Progress) : p.request?.toList.length = p.isWaiting.toNat := by
  cases p <;> rfl

namespace Session

/-! ## The busy flag -/

/-- The busy flag is set exactly if the command goes on to wait. -/
def HoldsFlag (o : Session × Progress) : Prop := o.1.busy = o.2.isWaiting

theorem holdsFlag_finish (s : Session) (result : Except Failure Answer) :
    HoldsFlag (s.finish result) := rfl

theorem holdsFlag_fail (s : Session) (f : Failure) (fallback : Session → Session) (a : Answer) :
    HoldsFlag (s.fail f fallback a) := by
  cases f <;> rfl

theorem holdsFlag_await {s : Session} (h : s.busy = true) (request : Except Failure Request)
    (p : Pending) (fallback : Session → Session) (a : Answer) :
    HoldsFlag (s.await request p fallback a) := by
  cases request with
  | ok r => exact h
  | error f => exact holdsFlag_fail s f fallback a

theorem holdsFlag_finishListing {α : Type} (s : Session) (o : Outcome Listing α)
    (good : α → Answer) (bad : Answer) : HoldsFlag (s.finishListing o good bad) := by
  unfold finishListing
  cases o.2 with
  | ok a => exact holdsFlag_finish _ _
  | error f => exact holdsFlag_fail _ f id bad

theorem holdsFlag_openSnippet (s : Session) (snippet : Snippet) :
    HoldsFlag (s.openSnippet snippet) := by
  unfold openSnippet
  split
  · exact holdsFlag_fail _ _ id _
  · split <;> exact holdsFlag_finish _ _

theorem holdsFlag_work {s : Session} (h : s.busy = true) (c : Command) :
    HoldsFlag (s.work c) := by
  cases c with
  | decode =>
    rw [work]
    split
    · have cleared : s.clear.busy = true := h
      rw [startDecode]
      exact holdsFlag_await cleared _ .decode clear (.done false)
    · exact holdsFlag_finish _ _
  | compile =>
    rw [work, startCompile]
    exact holdsFlag_await h _ .compile clearGraph (.done false)
  | save title =>
    rw [work, startSave]
    exact holdsFlag_await h _ .save id (.saved none)
  | refresh =>
    rw [work, startRefresh]
    exact holdsFlag_await h _ .refresh id (.listed s.listing)
  | deleteSnippet id =>
    rw [work, startDelete]
    exact holdsFlag_await h _ (.deleteSnippet id) _ (.done false)
  | openSnippet snippet => exact holdsFlag_openSnippet s snippet

theorem holdsFlag_resume {s : Session} (h : s.busy = true) (p : Pending) (a : Reply) :
    HoldsFlag (s.resume p a) := by
  cases p with
  | decode =>
    obtain ⟨r, waits⟩ | ⟨f, fails⟩ := resume_decode_cases s a
    · rw [waits]
      exact h
    · rw [fails]
      exact holdsFlag_fail s f clear (.done false)
  | convert =>
    rw [resume]
    split
    · exact holdsFlag_finish _ _
    · exact holdsFlag_fail _ _ _ _
  | compile =>
    rw [resume]
    split
    · exact holdsFlag_finish _ _
    · exact holdsFlag_fail _ _ _ _
  | save => exact holdsFlag_finishListing s _ _ _
  | refresh => exact holdsFlag_finishListing s _ _ _
  | deleteSnippet id => exact holdsFlag_finishListing s _ _ _

/-- A command that starts takes the flag only if it goes on to wait. -/
theorem holdsFlag_start {s : Session} (idle : s.busy = false) (c : Command) :
    HoldsFlag (s.start c) := by
  have free : (s.prepare c).busy = false := (busy_prepare s c).trans idle
  unfold start
  simp only [free, Bool.false_eq_true, if_false]
  split
  · exact free
  · exact holdsFlag_work rfl c

theorem busy_gesture (s : Session) (g : Gesture) : (s.gesture g).busy = s.busy := by
  obtain ⟨title, file, error, frame⟩ := gesture_eq s g
  rw [frame]

/-! ## Titles do not matter -/

/-- The two sessions differ in their titles at most. -/
def SameButTitle (s u : Session) : Prop := ∃ title, u = s.setTitle title

theorem sameButTitle_refl (s : Session) : SameButTitle s s := ⟨s.title, rfl⟩

theorem sameButTitle_gesture {s u : Session} (h : SameButTitle s u) (g : Gesture) :
    SameButTitle (s.gesture g) (u.gesture g) := by
  obtain ⟨title, rfl⟩ := h
  cases g with
  | setTitle t => exact ⟨t, rfl⟩
  | chooseFile file =>
    refine ⟨title, ?_⟩
    simp only [gesture, chooseFile]
    cases h : s.busy <;> simp [setTitle, h]
  | _ => exact ⟨title, rfl⟩

theorem sameButTitle_prepare {s u : Session} (h : SameButTitle s u) (c : Command) :
    SameButTitle (s.prepare c) (u.prepare c) := by
  obtain ⟨title, rfl⟩ := h
  cases c with
  | save given =>
    cases given with
    | none => exact ⟨title, rfl⟩
    | some t => exact ⟨t, rfl⟩
  | _ => exact ⟨title, rfl⟩

theorem sameButTitle_interlude {s u : Session} (busy : s.busy = true) (h : SameButTitle s u)
    (i : Interlude) : SameButTitle (s.interlude i) (u.interlude i) := by
  cases i with
  | gesture g => exact sameButTitle_gesture h g
  | start c =>
    have busy' : u.busy = true := by
      obtain ⟨title, rfl⟩ := h
      exact busy
    obtain ⟨result, started⟩ := start_of_busy busy c
    obtain ⟨result', started'⟩ := start_of_busy busy' c
    rw [interlude, interlude, started, started']
    exact sameButTitle_prepare h c

theorem sameButTitle_interludes {s u : Session} (busy : s.busy = true) (h : SameButTitle s u)
    (is : List Interlude) :
    SameButTitle (is.foldl interlude s) (is.foldl interlude u) := by
  induction is generalizing s u with
  | nil => exact h
  | cons i rest ih =>
    exact ih (beside_interlude busy i).busy (sameButTitle_interlude busy h i)

/-- The same progress, in the same session but for the title. -/
def SameEnd {α : Type} (o o' : Session × α) : Prop := SameButTitle o.1 o'.1 ∧ o'.2 = o.2

theorem sameEnd_fail (s : Session) (title : RawText) (f : Failure) {fallback : Session → Session}
    (h : ∀ s, fallback (s.setTitle title) = (fallback s).setTitle title) (a : Answer) :
    SameEnd (s.fail f fallback a) ((s.setTitle title).fail f fallback a) := by
  cases f with
  | problem p =>
    refine ⟨⟨title, ?_⟩, rfl⟩
    show { fallback ({ s with error := some p.message }.setTitle title) with busy := false } = _
    rw [h]
    rfl
  | _ => exact ⟨⟨title, rfl⟩, rfl⟩

theorem sameEnd_finishListing {α : Type} (s : Session) (title : RawText) (o : Outcome Listing α)
    (good : α → Answer) (bad : Answer) :
    SameEnd (s.finishListing o good bad) ((s.setTitle title).finishListing o good bad) := by
  unfold finishListing
  cases o.2 with
  | ok a => exact ⟨⟨title, rfl⟩, rfl⟩
  | error f => exact sameEnd_fail { s with listing := o.1 } title f (fun _ => rfl) bad

theorem sameEnd_finishInstall (s : Session) (title dsl : RawText) (t : Topology) :
    SameEnd (finishInstall (s.install dsl t)) (finishInstall ((s.setTitle title).install dsl t)) :=
  ⟨⟨title, rfl⟩, rfl⟩

/-- A reply is taken in the same way, whatever the title is. -/
theorem sameEnd_resume {s u : Session} (h : SameButTitle s u) (p : Pending) (a : Reply) :
    SameEnd (s.resume p a) (u.resume p a) := by
  obtain ⟨title, rfl⟩ := h
  cases p with
  | decode =>
    simp only [resume, setTitle]
    split
    · unfold await
      split
      · exact ⟨⟨title, rfl⟩, rfl⟩
      · exact sameEnd_fail s title _ (fun _ => rfl) _
    · exact sameEnd_fail s title _ (fun _ => rfl) _
  | convert =>
    simp only [resume, setTitle]
    split
    · exact sameEnd_finishInstall s title _ _
    · exact sameEnd_fail s title _ (fun _ => rfl) _
  | compile =>
    simp only [resume, setTitle]
    split
    · exact sameEnd_finishInstall s title _ _
    · exact sameEnd_fail s title _ (fun _ => rfl) _
  | save => exact sameEnd_finishListing s title _ _ _
  | refresh => exact sameEnd_finishListing s title _ _ _
  | deleteSnippet id => exact sameEnd_finishListing s title _ _ _

/-- A command in flight goes on to the same end, whatever the title is. -/
theorem sameEnd_conduct {o o' : Session × Progress} (flag : HoldsFlag o) (h : SameEnd o o')
    (turns : List Turn) : SameEnd (conduct o turns) (conduct o' turns) := by
  fun_induction conduct o turns generalizing o' with
  | case1 s result turns =>
    obtain ⟨u, progress⟩ := o'
    obtain ⟨same, rfl⟩ := h
    rw [conduct_ended]
    exact ⟨same, rfl⟩
  | case2 s r p turns ih =>
    obtain ⟨u, progress⟩ := o'
    obtain ⟨same, rfl⟩ := h
    rw [conduct_waiting]
    -- While the flag is set, what goes on beside the command changes both sessions alike.
    have busy : s.busy = true := flag
    have beside := beside_interludes busy (turns.headD .exhausted).beside
    have same' := sameButTitle_interludes busy same (turns.headD .exhausted).beside
    exact ih (holdsFlag_resume beside.busy p _) (sameEnd_resume same' p _)

/-! ## Second commands -/

/-- The command is turned away, or has nothing to work on. Either way it sends nothing, the flag
stays set, and a command that waits for a reply goes on to the same end as it would without. -/
structure TurnsAway (s : Session) (c : Command) : Prop where
  answer : (s.start c).2 = .ended (.error (.problem (.busy c.action))) ∨
    (c = .decode ∧ s.file = none ∨ c = .compile ∧ s.dsl.isAllBlank = true) ∧
      (s.start c).2 = .ended (.ok (.done false))
  busy : (s.start c).1.busy = true
  outcome : ∀ r p turns, SameEnd (conduct (s, .waiting r p) turns)
    (conduct ((s.start c).1, .waiting r p) turns)

theorem idle_cases {s : Session} {c : Command} (h : (s.prepare c).isIdle c = true) :
    c = .decode ∧ s.file = none ∨ c = .compile ∧ s.dsl.isAllBlank = true := by
  cases c with
  | decode => exact .inl ⟨rfl, Option.isNone_iff_eq_none.mp h⟩
  | compile => exact .inr ⟨rfl, h⟩
  | _ => exact absurd h Bool.false_ne_true

theorem turnsAway_of_busy {s : Session} (h : s.busy = true) (c : Command) : s.TurnsAway c where
  answer := by
    have busy : (s.prepare c).busy = true := (busy_prepare s c).trans h
    unfold start
    simp only [busy, if_true]
    split
    · rename_i idle
      exact .inr ⟨idle_cases idle, rfl⟩
    · exact .inl rfl
  busy := (beside_interlude h (.start c)).busy
  outcome r p turns := by
    have same : SameButTitle s (s.start c).1 := by
      obtain ⟨result, started⟩ := start_of_busy h c
      rw [started]
      obtain same | ⟨title, same⟩ := prepare_cases s c
      · rw [same]
        exact sameButTitle_refl s
      · exact ⟨title, same⟩
    have flag : HoldsFlag (s, .waiting r p) := h
    have ends : SameEnd (s, Progress.waiting r p) ((s.start c).1, .waiting r p) := ⟨same, rfl⟩
    exact sameEnd_conduct flag ends turns

end Session

namespace Workbench

/-! ## Requests and replies of a run -/

/-- The requests that one step sends. -/
def sends (w : Workbench) : Event → List Request
  | .gesture _ => []
  | .start c => (w.session.start c).2.request?.toList
  | .reply index r => match w.flights[index]? with
    | some p => (w.session.resume p r).2.request?.toList
    | none => []

/-- The replies that one step takes: one, if a command waits for it. -/
def takes (w : Workbench) : Event → Nat
  | .reply index _ => if index < w.flights.length then 1 else 0
  | _ => 0

/-- The requests that were sent in a run, and the number of replies that were taken. -/
structure Traffic where
  sent : List Request := []
  taken : Nat := 0

/-- A workbench after one step, and the traffic so far. -/
def stepTraffic (x : Workbench × Traffic) (event : Event) : Workbench × Traffic :=
  (x.1.step event, ⟨x.2.sent ++ x.1.sends event, x.2.taken + x.1.takes event⟩)

def traffic (v : Services) (events : List Event) : Traffic :=
  (events.foldl stepTraffic (fresh v, {})).2

theorem foldl_stepTraffic (v : Services) (events : List Event) :
    (events.foldl stepTraffic (fresh v, {})) = (run v events, traffic v events) := by
  refine Prod.ext ?_ rfl
  induction events using List.reverseRecOn with
  | nil => rfl
  | append_singleton events event ih =>
    have before : (events.foldl stepTraffic (fresh v, {})).1 = run v events := ih
    rw [List.foldl_append, run_append, ← before]
    rfl

theorem traffic_append (v : Services) (events : List Event) (event : Event) :
    traffic v (events ++ [event]) =
      ⟨(traffic v events).sent ++ (run v events).sends event,
        (traffic v events).taken + (run v events).takes event⟩ := by
  rw [traffic, List.foldl_append, foldl_stepTraffic]
  rfl

/-- Each command in flight waits for the reply to one request that was sent, and there is one
command in flight exactly if the session is busy. -/
structure IsExclusive (w : Workbench) (t : Traffic) : Prop where
  flights : w.flights.length = w.session.busy.toNat
  outstanding : t.sent.length = t.taken + w.flights.length

theorem isExclusive_gesture {w : Workbench} {t : Traffic} (h : w.IsExclusive t) (g : Gesture) :
    (w.step (.gesture g)).IsExclusive
      ⟨t.sent ++ w.sends (.gesture g), t.taken + w.takes (.gesture g)⟩ where
  flights := by
    simp only [step, Session.busy_gesture]
    exact h.flights
  outstanding := by simpa [step, sends, takes] using h.outstanding

theorem isExclusive_start {w : Workbench} {t : Traffic} (h : w.IsExclusive t) (c : Command) :
    (w.step (.start c)).IsExclusive
      ⟨t.sent ++ w.sends (.start c), t.taken + w.takes (.start c)⟩ where
  flights := by
    simp only [step, List.length_append, Progress.length_pending?, h.flights]
    cases busy : w.session.busy with
    | false =>
      have flag := Session.holdsFlag_start busy c
      rw [Session.HoldsFlag] at flag
      rw [flag]
      exact Nat.zero_add _
    | true =>
      obtain ⟨result, started⟩ := Session.start_of_busy busy c
      rw [started, Session.busy_prepare, busy]
      rfl
  outstanding := by
    have before := h.outstanding
    simp only [step, sends, takes, List.length_append, Progress.length_pending?,
      Progress.length_request?]
    omega

theorem isExclusive_reply {w : Workbench} {t : Traffic} (h : w.IsExclusive t) (index : Nat)
    (r : Reply) : (w.step (.reply index r)).IsExclusive
      ⟨t.sent ++ w.sends (.reply index r), t.taken + w.takes (.reply index r)⟩ := by
  cases found : w.flights[index]? with
  | none =>
    have beyond : ¬ index < w.flights.length := Nat.not_lt.mpr (List.getElem?_eq_none_iff.mp found)
    constructor
    · simpa [step, found] using h.flights
    · simpa [step, found, sends, takes, beyond] using h.outstanding
  | some p =>
    obtain ⟨inside, -⟩ := List.getElem?_eq_some_iff.mp found
    have busy : w.session.busy = true := by
      have flights := h.flights
      cases busy : w.session.busy with
      | true => rfl
      | false =>
        rw [busy] at flights
        exact absurd inside (by simp [flights])
    have one : w.flights.length = 1 := by rw [h.flights, busy]; rfl
    have before := h.outstanding
    have flag := Session.holdsFlag_resume busy p r
    rw [Session.HoldsFlag] at flag
    constructor
    · simp only [step, found, List.length_append, Progress.length_pending?, flag,
        List.length_eraseIdx_of_lt inside, one]
      exact Nat.zero_add _
    · simp only [step, sends, takes, found, inside, if_true, List.length_append,
        Progress.length_pending?, Progress.length_request?, List.length_eraseIdx_of_lt inside]
      omega

theorem isExclusive_run (v : Services) (events : List Event) :
    (run v events).IsExclusive (traffic v events) := by
  induction events using List.reverseRecOn with
  | nil => exact ⟨rfl, rfl⟩
  | append_singleton events event ih =>
    rw [run_append, traffic_append]
    cases event with
    | gesture g => exact isExclusive_gesture ih g
    | start c => exact isExclusive_start ih c
    | reply index r => exact isExclusive_reply ih index r

theorem IsExclusive.busy_iff {w : Workbench} {t : Traffic} (h : w.IsExclusive t) :
    w.session.busy = true ↔ ∃ p, w.flights = [p] := by
  have flights := h.flights
  constructor
  · intro busy
    rw [busy] at flights
    exact List.length_eq_one_iff.mp flights
  · rintro ⟨p, one⟩
    cases busy : w.session.busy with
    | true => rfl
    | false =>
      rw [busy, one] at flights
      exact absurd flights Nat.one_ne_zero

/-! ## Main result -/

/-- In every state of a run: the session is busy exactly if one command is in flight; there is
never more than one, and never more than one request without its reply; a second command is turned
away and changes nothing for the one in flight; and a command that ends, when it starts or with a
reply, has released the flag. -/
theorem one_in_flight (v : Services) (events : List Event) :
    ((run v events).session.busy = true ↔ ∃ p, (run v events).flights = [p]) ∧
    (run v events).flights.length ≤ 1 ∧
    (traffic v events).sent.length = (traffic v events).taken + (run v events).flights.length ∧
    ((run v events).session.busy = true → ∀ c, (run v events).session.TurnsAway c) ∧
    (∀ c result, (run v events).session.busy = false →
      ((run v events).session.start c).2 = .ended result →
      ((run v events).session.start c).1.busy = false) ∧
    ∀ p ∈ (run v events).flights, ∀ a result,
      ((run v events).session.resume p a).2 = .ended result →
      ((run v events).session.resume p a).1.busy = false := by
  have exclusive := isExclusive_run v events
  refine ⟨exclusive.busy_iff, ?_, exclusive.outstanding,
    fun busy c => Session.turnsAway_of_busy busy c, ?_, ?_⟩
  · rw [exclusive.flights]
    exact Bool.toNat_le _
  · intro c result idle ended
    have flag := Session.holdsFlag_start idle c
    rw [Session.HoldsFlag, ended] at flag
    exact flag
  · intro p hp a result ended
    have busy : (run v events).session.busy = true := by
      apply exclusive.busy_iff.mpr
      have one : (run v events).flights.length = 1 := by
        have positive := List.length_pos_of_mem hp
        have most := Bool.toNat_le (run v events).session.busy
        rw [← exclusive.flights] at most
        omega
      exact List.length_eq_one_iff.mp one
    have flag := Session.holdsFlag_resume busy p a
    rw [Session.HoldsFlag, ended] at flag
    exact flag

end Workbench
end Topograph
