import Topograph.Proofs.Session.Flight

/-!
# Commands to their end

A command in flight is served turn by turn: actions that end at once and second commands go on
beside it, and then the reply to its request arrives. When the turns are used up, the service is
out of reach. Decoding takes at most two replies and any other command at most one, so that every
command ends.
-/
namespace Topograph

/-- What goes on beside a command while it waits, and the reply that it waits for. -/
structure Turn where
  beside : List Interlude := []
  reply : Reply

/-- The turn after the last one: no service answers any more. -/
def Turn.exhausted : Turn where
  reply := .unreachable "no scripted response"

/-- The most replies that a command may still take. -/
def Progress.repliesLeft : Progress → Nat
  | .ended _ => 0
  | .waiting _ .decode => 2
  | .waiting _ _ => 1

namespace Session

theorem ended_finishListing {α : Type} (s : Session) (o : Outcome Listing α) (good : α → Answer)
    (bad : Answer) : ∃ result, (s.finishListing o good bad).2 = .ended result := by
  unfold finishListing
  cases o.2 with
  | ok a => exact ⟨_, rfl⟩
  | error f => exact ended_fail _ f id bad

/-- Only the reply with the decoded text of a file may lead to another request. -/
theorem ended_resume (s : Session) {p : Pending} (h : p ≠ .decode) (a : Reply) :
    ∃ result, (s.resume p a).2 = .ended result := by
  cases p with
  | decode => exact absurd rfl h
  | convert =>
    rw [resume]
    split
    · exact ⟨_, rfl⟩
    · exact ended_fail _ _ _ _
  | compile =>
    rw [resume]
    split
    · exact ⟨_, rfl⟩
    · exact ended_fail _ _ _ _
  | save => exact ended_finishListing s _ _ _
  | refresh => exact ended_finishListing s _ _ _
  | deleteSnippet id => exact ended_finishListing s _ _ _

/-- The decoded text leads to the request for its conversion, or to the end. -/
theorem resume_decode_cases (s : Session) (a : Reply) :
    (∃ r, s.resume .decode a = (s, .waiting r .convert)) ∨
      ∃ f, s.resume .decode a = s.fail f clear (.done false) := by
  rw [resume]
  split
  · unfold await
    split
    · exact .inl ⟨_, rfl⟩
    · exact .inr ⟨_, rfl⟩
  · exact .inr ⟨_, rfl⟩

theorem repliesLeft_resume_lt (s : Session) (r : Request) (p : Pending) (a : Reply) :
    (s.resume p a).2.repliesLeft < (Progress.waiting r p).repliesLeft := by
  by_cases h : p = .decode
  · subst h
    obtain ⟨r', waits⟩ | ⟨f, fails⟩ := resume_decode_cases s a
    · rw [waits]
      exact Nat.one_lt_two
    · obtain ⟨result, ended⟩ := ended_fail s f clear (.done false)
      rw [fails, ended]
      exact Nat.two_pos
  · obtain ⟨result, ended⟩ := ended_resume s h a
    have left : (Progress.waiting r p).repliesLeft = 1 := by
      cases p with
      | decode => exact absurd rfl h
      | _ => rfl
    rw [ended, left]
    exact Nat.one_pos

/-- One turn of a command that waits. -/
def takeTurn (s : Session) (p : Pending) (t : Turn) : Session × Progress :=
  (t.beside.foldl interlude s).resume p t.reply

/-- Serve a command to its end, one turn for each of its requests. -/
def conduct : Session × Progress → List Turn → Session × Except Failure Answer
  | (s, .ended result), _ => (s, result)
  | (s, .waiting _ p), turns => conduct (s.takeTurn p (turns.headD .exhausted)) turns.tail
termination_by o => o.2.repliesLeft
decreasing_by exact repliesLeft_resume_lt _ _ p _

theorem conduct_ended (s : Session) (result : Except Failure Answer) (turns : List Turn) :
    conduct (s, .ended result) turns = (s, result) := by
  rw [conduct]

theorem conduct_waiting (s : Session) (r : Request) (p : Pending) (turns : List Turn) :
    conduct (s, .waiting r p) turns =
      conduct (s.takeTurn p (turns.headD .exhausted)) turns.tail := by
  rw [conduct]

/-- Interludes leave a command in flight, and the services, as they are. -/
theorem beside_interludes {s : Session} (h : s.busy = true) (is : List Interlude) :
    Beside s (is.foldl interlude s) := by
  induction is generalizing s with
  | nil => exact ⟨h, rfl, rfl, id⟩
  | cons i rest ih =>
    have first := beside_interlude h i
    have others := ih first.busy
    exact ⟨others.busy, others.services.trans first.services,
      others.compiled.trans first.compiled, fun clear => others.clear (first.clear clear)⟩

end Session
end Topograph
