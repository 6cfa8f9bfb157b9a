import Topograph.Proofs.Session.Conclusion

/-!
# Calls that are turned away

A busy session turns away what could interfere with the command in flight: any second command that
has something to work on, and the choice of another file. Such a call sends nothing and changes
nothing, with one exception: the title that a save brings along stays behind, because it is set
before the busy flag is looked at.
-/
namespace Topograph

/-- A call that needs the session not to be busy. -/
inductive Call where
  | start (c : Command)
  | chooseFile (file : ChosenFile)

namespace Session

/-- The session that a call leaves behind, whether it succeeds or not. -/
def afterCall (s : Session) : Call → Session
  | .start c => (s.start c).1
  | .chooseFile file => (s.chooseFile file).1

/-- The requests that a call sends. -/
def sentBy (s : Session) : Call → List Request
  | .start c => (s.start c).2.request?.toList
  | .chooseFile _ => []

/-- The call ends with the problem that it has to wait for another action. -/
def IsTurnedAway (s : Session) : Call → Prop
  | .start c => ∃ action, (s.start c).2 = .ended (.error (.problem (.busy action)))
  | .chooseFile file => ∃ action, (s.chooseFile file).2 = .error (.problem (.busy action))

/-- The call is a command without anything to work on. -/
def IsIdleCall (s : Session) (call : Call) : Prop := ∃ c, call = .start c ∧ s.isIdle c = true

theorem start_turned_away {s : Session} (busy : s.busy = true) {c : Command}
    (works : s.isIdle c = false) :
    s.start c = (s.prepare c, .ended (.error (.problem (.busy c.action)))) := by
  have idle : (s.prepare c).isIdle c = false := (isIdle_prepare s c).trans works
  have flag : (s.prepare c).busy = true := (busy_prepare s c).trans busy
  rw [start]
  simp only [idle, flag, Bool.false_eq_true, if_false, if_true]

theorem chooseFile_turned_away {s : Session} (busy : s.busy = true) (file : ChosenFile) :
    s.chooseFile file = (s, .error (.problem (.busy .selectFile))) := if_pos busy

theorem isTurnedAway_iff {s : Session} (busy : s.busy = true) (call : Call) :
    s.IsTurnedAway call ↔ ¬ s.IsIdleCall call := by
  cases call with
  | chooseFile file =>
    rw [IsTurnedAway, chooseFile_turned_away busy]
    exact ⟨fun _ ⟨c, other, _⟩ => Call.noConfusion other, fun _ => ⟨_, rfl⟩⟩
  | start c =>
    cases idle : s.isIdle c with
    | true =>
      rw [IsTurnedAway, start_of_isIdle idle]
      refine ⟨fun ⟨action, raised⟩ => ?_, fun works => absurd ⟨c, rfl, idle⟩ works⟩
      cases raised
    | false =>
      rw [IsTurnedAway, start_turned_away busy idle]
      refine ⟨fun _ ⟨c', same, idle'⟩ => ?_, fun _ => ⟨_, rfl⟩⟩
      obtain rfl := Call.start.inj same
      rw [idle] at idle'
      cases idle'

/-- Only a save with a title prepares a session for itself. -/
theorem prepare_eq_self (s : Session) {c : Command} (untitled : ∀ title, c ≠ .save (some title)) :
    s.prepare c = s := by
  cases c with
  | save title =>
    cases title with
    | none => rfl
    | some title => exact absurd rfl (untitled title)
  | _ => rfl

/-- To a busy session, a call that has something to work on is turned away. It sends nothing, and
it leaves every part of the session as it was, unless it is a save with a title: that title is then
the title of the session, and everything else is as it was. -/
theorem unchanged_when_turned_away {s : Session} (busy : s.busy = true) (call : Call) :
    (s.IsTurnedAway call ↔ ¬ s.IsIdleCall call) ∧
    (s.IsTurnedAway call → s.sentBy call = [] ∧
      ((∀ title, call ≠ .start (.save (some title))) → s.afterCall call = s) ∧
      ∀ title, call = .start (.save (some title)) → s.afterCall call = { s with title }) := by
  refine ⟨isTurnedAway_iff busy call, fun away => ?_⟩
  have works := (isTurnedAway_iff busy call).mp away
  cases call with
  | chooseFile file =>
    refine ⟨rfl, fun _ => congrArg Prod.fst (chooseFile_turned_away busy file), ?_⟩
    rintro title ⟨⟩
  | start c =>
    have idle : s.isIdle c = false := Bool.eq_false_of_not_eq_true fun idle => works ⟨c, rfl, idle⟩
    have started := start_turned_away busy idle
    refine ⟨?_, ?_, ?_⟩
    · rw [sentBy, started]
      rfl
    · intro untitled
      rw [afterCall, started]
      exact prepare_eq_self s fun title same => untitled title (congrArg Call.start same)
    · rintro title ⟨⟩
      rw [afterCall, started]
      rfl

/-- A titled session while a command is in flight. -/
def engaged : Session where
  services := Workbench.hosts
  dsl := "router r1"
  title := "lab"
  busy := true

/-- A save without a title changes nothing, and one with a title leaves it behind. -/
theorem unchanged_when_turned_away_engaged : engaged.busy = true ∧
    engaged.afterCall (.start (.save none)) = engaged ∧
    engaged.IsTurnedAway (.start (.save (some "plan"))) ∧
    (engaged.afterCall (.start (.save (some "plan")))).title ≠ engaged.title := by
  obtain ⟨away, kept⟩ := unchanged_when_turned_away (s := engaged) rfl (.start (.save none))
  obtain ⟨away', titled⟩ :=
    unchanged_when_turned_away (s := engaged) rfl (.start (.save (some "plan")))
  have works : ¬ engaged.IsIdleCall (.start (.save none)) := by
    rintro ⟨c, ⟨⟩, ⟨⟩⟩
  have works' : ¬ engaged.IsIdleCall (.start (.save (some "plan"))) := by
    rintro ⟨c, ⟨⟩, ⟨⟩⟩
  refine ⟨rfl, (kept (away.mpr works)).2.1 (by simp), away'.mpr works', ?_⟩
  rw [(titled (away'.mpr works')).2.2 "plan" rfl]
  decide

end Session
end Topograph
