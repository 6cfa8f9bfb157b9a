import Topograph.Proofs.Snippet.Errands
import Topograph.Proofs.Snippet.Sorting

/-!
# A listing stays newest first

The calls of a listing patch it in different ways: a list from the store is sorted, a new snippet
goes to the front, and a deleted one is taken out. Whatever the store answers, the listing is in the
order of time after each call, as long as nothing new is older than what is shown. A call that fails
changes nothing.
-/
namespace Topograph

namespace Errand

/-- What an errand brings. -/
def Result : Errand → Type
  | .save _ _ _ => Snippet
  | .list => List Snippet
  | .delete _ => Unit

/-- What a reply leaves of the listing, and what it brings. -/
def taken (c : Client) (l : Listing) (reply : Reply) : (e : Errand) → Outcome Listing e.Result
  | .save _ _ _ => l.saved c reply
  | .list => l.listed c reply
  | .delete id => l.deleted c id reply

/-- Run an errand, to which the store replies this if it is asked at all. -/
def perform (c : Client) (l : Listing) (reply : Reply) (e : Errand) : Outcome Listing e.Result :=
  match e.request c with
  | .error f => (l, .error f)
  | .ok _ => e.taken c l reply

end Errand

namespace Listing

/-! ## One call -/

section
variable {c : Client} {l : Listing} {reply : Reply}

theorem saved_eq_ok {s : Snippet} (h : (l.saved c reply).2 = .ok s) :
    (l.saved c reply).1 = s :: l := by
  unfold saved at h ⊢
  cases created : Store.readCreated c reply with
  | ok q =>
    rw [created] at h
    cases h
    rfl
  | error f =>
    rw [created] at h
    cases h

theorem listed_eq_ok {shown : List Snippet} (h : (l.listed c reply).2 = .ok shown) :
    (l.listed c reply).1 = shown ∧
      ∃ answer, Store.readList c reply = .ok answer ∧ Arranges answer shown := by
  unfold listed at h ⊢
  cases read : Store.readList c reply with
  | ok answer =>
    rw [read] at h
    cases h
    exact ⟨rfl, answer, rfl, arranges_newestFirst answer⟩
  | error f =>
    rw [read] at h
    cases h

theorem deleted_eq_ok {id : Int} (h : (l.deleted c id reply).2 = .ok ()) :
    (l.deleted c id reply).1 = l.filter fun s => s.id != id := by
  unfold deleted at h ⊢
  cases read : Store.readDeleted c reply with
  | ok _ => rfl
  | error f =>
    simp only [read] at h ⊢
    cases gone : isGone f with
    | true => rfl
    | false =>
      rw [gone] at h
      cases h

end
end Listing

namespace Errand
variable {c : Client} {l : Listing} {reply : Reply} {e : Errand}

/-- A reply that makes the call fail leaves the listing as it was. -/
theorem taken_eq_error {f : Failure} (h : (e.taken c l reply).2 = .error f) :
    (e.taken c l reply).1 = l := by
  cases e with
  | save title dsl t =>
    simp only [taken, Listing.saved] at h ⊢
    cases created : Store.readCreated c reply with
    | ok s =>
      rw [created] at h
      cases h
    | error f' => rfl
  | list =>
    simp only [taken, Listing.listed] at h ⊢
    cases read : Store.readList c reply with
    | ok answer =>
      rw [read] at h
      cases h
    | error f' => rfl
  | delete id =>
    simp only [taken, Listing.deleted] at h ⊢
    cases read : Store.readDeleted c reply with
    | ok _ =>
      rw [read] at h
      cases h
    | error f' =>
      simp only [read] at h ⊢
      cases gone : Listing.isGone f' with
      | true =>
        rw [gone] at h
        cases h
      | false => rfl

/-- A call that fails leaves the listing as it was, whether anything was sent or not. -/
theorem perform_eq_error {f : Failure} (h : (e.perform c l reply).2 = .error f) :
    (e.perform c l reply).1 = l := by
  unfold perform at h ⊢
  cases made : e.request c with
  | error f' => rfl
  | ok r =>
    rw [made] at h
    exact taken_eq_error h

/-- A call that brings something was sent, and goes by the reply. -/
theorem perform_of_ok {result : e.Result} (h : (e.perform c l reply).2 = .ok result) :
    e.perform c l reply = e.taken c l reply := by
  unfold perform at h ⊢
  cases made : e.request c with
  | error f =>
    rw [made] at h
    cases h
  | ok r => rfl

/-- What is created is not earlier than anything in the listing. -/
def IsTimely (c : Client) (l : Listing) (reply : Reply) : Errand → Prop
  | .save title dsl t => ∀ s : Snippet, ((Errand.save title dsl t).perform c l reply).2 = .ok s →
    ∀ q ∈ l, q.createdAt.instant ≤ s.createdAt.instant
  | .list | .delete _ => True

/-- One call keeps the order of time. -/
theorem isNewestFirst_perform (h : l.IsNewestFirst) (timely : e.IsTimely c l reply) :
    (e.perform c l reply).1.IsNewestFirst := by
  cases ended : (e.perform c l reply).2 with
  | error f =>
    rw [perform_eq_error ended]
    exact h
  | ok result =>
    have taken := perform_of_ok ended
    rw [taken] at ended ⊢
    cases e with
    | save title dsl t =>
      have front : ((Errand.save title dsl t).taken c l reply).1 = result :: l :=
        Listing.saved_eq_ok ended
      rw [front]
      exact List.Pairwise.cons (timely result (taken ▸ ended)) h
    | list =>
      obtain ⟨shown, answer, -, arranged⟩ := Listing.listed_eq_ok ended
      have whole : (Errand.list.taken c l reply).1 = result := shown
      rw [whole]
      exact arranged.newest
    | delete id =>
      have rest : ((Errand.delete id).taken c l reply).1 = l.filter fun s => s.id != id :=
        Listing.deleted_eq_ok ended
      rw [rest]
      exact h.filter _

end Errand

/-! ## Every call in turn -/

namespace Listing

/-- The listings that calls lead to, one after the other, when nothing that is created is earlier
than what the listing shows. -/
inductive Reachable (c : Client) : Listing → Prop where
  | empty : Reachable c []
  | call {l : Listing} (e : Errand) (reply : Reply) : Reachable c l → e.IsTimely c l reply →
    Reachable c (e.perform c l reply).1

theorem isNewestFirst_of_reachable {c : Client} {l : Listing} (h : Reachable c l) :
    l.IsNewestFirst := by
  induction h with
  | empty => exact List.Pairwise.nil
  | call e reply _ timely ih => exact Errand.isNewestFirst_perform ih timely

/-- Against any store the listing stays in the order of time. A list that is fetched takes its
place, in that order and otherwise in the store's; a deletion takes out what has the key and nothing
else; and a call that fails leaves it as it was. -/
theorem stays_newest_first {c : Client} {l : Listing} (h : Reachable c l) :
    l.IsNewestFirst ∧
      (∀ reply shown, (Errand.list.perform c l reply).2 = .ok shown →
        (Errand.list.perform c l reply).1 = shown ∧
          ∃ answer, Store.readList c reply = .ok answer ∧ Arranges answer shown) ∧
      (∀ id reply, ((Errand.delete id).perform c l reply).2 = .ok () →
        ((Errand.delete id).perform c l reply).1 = l.filter fun s => s.id != id) ∧
      ∀ (e : Errand) (reply : Reply) (f : Failure), (e.perform c l reply).2 = .error f →
        (e.perform c l reply).1 = l := by
  refine ⟨isNewestFirst_of_reachable h, ?_, ?_, fun e reply f => Errand.perform_eq_error⟩
  · intro reply shown ended
    have taken := Errand.perform_of_ok ended
    rw [taken] at ended ⊢
    exact listed_eq_ok ended
  · intro id reply ended
    have taken := Errand.perform_of_ok ended
    rw [taken] at ended ⊢
    exact deleted_eq_ok ended

/-- The body of a snippet that was created then. -/
def bodyAt (id createdAt : String) : Bytes := Text.Utf8.encode
  ("\x7b\"id\":" ++ id ++ ",\"title\":\"lab\",\"content\":\"\",\"created_at\":\"" ++ createdAt ++
    "\"\x7d")

/-- Two hours later on the clock, and as much ahead of universal time: the same instant. -/
def labAbroad : Snippet :=
  { Snippet.lab with
    id := 8
    createdAt := { Snippet.lab.createdAt with clock := Timestamp.noon.clock, offset := some 120 } }

/-- Of two snippets that are saved, the first one is told without an offset. -/
theorem stays_newest_first_saved : Reachable .depot [labAbroad, .lab] ∧
    IsNewestFirst [labAbroad, .lab] := by
  let save : Errand := .save "lab" "router r1" {}
  obtain ⟨r, sent⟩ : ∃ r, save.request .depot = .ok r := by
    cases made : save.request .depot with
    | ok r => exact ⟨r, rfl⟩
    | error f =>
      have fine : (save.request .depot).isOk = true := by decide +kernel
      rw [made] at fine
      cases fine
  have perform (l : Listing) (s : Snippet) (body : Bytes)
      (read : Store.readCreated .depot (.answered 201 body) = .ok s) :
      save.perform .depot l (.answered 201 body) = (s :: l, .ok s) := by
    simp only [Errand.perform, sent, Errand.taken, save, saved, read]
    rfl
  have first := perform [] .lab (bodyAt "7" "2024-05-01T10:00:00") (by decide +kernel)
  have second := perform [.lab] labAbroad (bodyAt "8" "2024-05-01T12:00:00+02:00")
    (by decide +kernel)
  have one : Reachable .depot [.lab] := by
    have reached := Reachable.call save (.answered 201 (bodyAt "7" "2024-05-01T10:00:00"))
      (.empty (c := .depot)) fun _ _ _ hq => absurd hq List.not_mem_nil
    rwa [first] at reached
  have two : Reachable .depot [labAbroad, .lab] := by
    have reached := one.call save (.answered 201 (bodyAt "8" "2024-05-01T12:00:00+02:00"))
    rw [second] at reached
    refine reached fun s created q hq => ?_
    rw [second] at created
    cases created
    rw [List.mem_singleton.mp hq]
    decide
  exact ⟨two, (stays_newest_first two).1⟩

end Listing
end Topograph
