import Mathlib.Logic.Function.Basic
import Topograph.Proofs.Snippet.Deeds
import Topograph.Proofs.Snippet.Mirror

/-!
# Listings of a shared archive

Several desks share one archive. Each keeps a listing of its own and has at most one call under
way: its request is sent, then served by the archive at some time, and then its reply is delivered.
In between, calls of the other desks may be served.

What a listing shows was stored, what a desk has deleted does not come back to it, and once all
calls have ended a new listing shows what was stored and not deleted since.
-/
namespace Topograph

/-- How far the call of a desk has come. -/
inductive Transit where
  | idle
  | sent (e : Errand) (r : Request)
  | served (e : Errand) (reply : Reply)
  deriving DecidableEq

structure Desk where
  listing : Listing := []
  transit : Transit := .idle

/-- An archive, the desks that it serves, and its deeds in order, which no desk sees. -/
structure Office (ι : Type) where
  archive : Archive := .fresh
  desks : ι → Desk := fun _ => {}
  deeds : List Deed := []

namespace Office

inductive Act (ι : Type) where
  /-- a desk makes a request, unless it waits for a reply -/
  | send (i : ι) (e : Errand)
  /-- the archive serves the request of a desk at a time -/
  | serve (i : ι) (t : Timestamp)
  /-- the reply reaches the desk -/
  | deliver (i : ι)

/-- Only keys that a table can have are deleted. -/
def Act.IsInRange {ι : Type} : Act ι → Prop
  | .send _ e => e.IsInRange
  | .serve _ _ | .deliver _ => True

section
variable {ι : Type} [DecidableEq ι]

/-- The office with one desk at another point. -/
def put (o : Office ι) (i : ι) (d : Desk) : Office ι :=
  { o with desks := Function.update o.desks i d }

def step (c : ι → Client) (o : Office ι) : Act ι → Office ι
  | .send i e =>
    match (o.desks i).transit, e.request (c i) with
    | .idle, .ok r => o.put i { o.desks i with transit := .sent e r }
    | _, _ => o
  | .serve i t =>
    match (o.desks i).transit with
    | .sent e r =>
      let answered := o.archive.reply t.stamp r
      { o.put i { o.desks i with transit := .served e answered.2 } with
        archive := answered.1, deeds := o.deeds ++ e.deeds o.archive answered.1 }
    | _ => o
  | .deliver i =>
    match (o.desks i).transit with
    | .served e reply => o.put i { listing := e.take (c i) (o.desks i).listing reply }
    | _ => o

def run (c : ι → Client) (acts : List (Act ι)) : Office ι := acts.foldl (step c) {}

theorem run_append (c : ι → Client) (before after : List (Act ι)) :
    run c (before ++ after) = after.foldl (step c) (run c before) := List.foldl_append

/-! ## One act -/

/-- What one act makes of an office whose archive keeps these records. -/
inductive Turns (c : ι → Client) (o : Office ι) (records : List Archive.Record) (last : Int) :
    Act ι → Office ι → List Archive.Record → Int → Prop where
  | unsent {i : ι} {e : Errand} : (o.desks i).transit ≠ .idle ∨ (∀ r, e.request (c i) ≠ .ok r) →
    Turns c o records last (.send i e) o records last
  | sent {i : ι} {e : Errand} {r : Request} : (o.desks i).transit = .idle →
    e.request (c i) = .ok r →
    Turns c o records last (.send i e) (o.put i { o.desks i with transit := .sent e r }) records
      last
  | unserved {i : ι} {t : Timestamp} : (∀ e r, (o.desks i).transit ≠ .sent e r) →
    Turns c o records last (.serve i t) o records last
  | served {i : ι} {t : Timestamp} {e : Errand} {r : Request} {archive : Archive} {reply : Reply}
    {p : Patch} {records' : List Archive.Record} {last' : Int} :
    (o.desks i).transit = .sent e r → (∀ l, e.take (c i) l reply = p.apply l) →
    Archive.Runs t records last e p records' last' → archive.Keeps records' last' →
    Turns c o records last (.serve i t)
      { o.put i { o.desks i with transit := .served e reply } with
        archive, deeds := o.deeds ++ p.deeds } records' last'
  | undelivered {i : ι} : (∀ e reply, (o.desks i).transit ≠ .served e reply) →
    Turns c o records last (.deliver i) o records last
  | delivered {i : ι} {e : Errand} {reply : Reply} : (o.desks i).transit = .served e reply →
    Turns c o records last (.deliver i)
      (o.put i { listing := e.take (c i) (o.desks i).listing reply }) records last

/-- What a desk shows and what is on its way to it was stored, and what is on its way to the archive
is a request of the desk. -/
structure IsSoundDesk (c : Client) (deeds : List Deed) (d : Desk) : Prop where
  listed : ∀ s ∈ d.listing, .stored s ∈ deeds
  sent : ∀ e r, d.transit = .sent e r → e.request c = .ok r ∧ e.IsInRange
  served : ∀ e reply, d.transit = .served e reply → ∃ p : Patch,
    (∀ l, e.take c l reply = p.apply l) ∧ ∀ s ∈ p.brings, .stored s ∈ deeds

structure IsSound (c : ι → Client) (o : Office ι) (records : List Archive.Record) (last : Int) :
    Prop where
  keeps : o.archive.Keeps records last
  booked : Archive.IsBooked records last o.deeds
  desks : ∀ i, IsSoundDesk (c i) o.deeds (o.desks i)

omit [DecidableEq ι] in
theorem isSound_fresh (c : ι → Client) : IsSound c {} [] 0 where
  keeps := Archive.keeps_fresh
  booked := Archive.isBooked_nil
  desks i := ⟨by simp, by simp, by simp⟩

theorem IsSoundDesk.mono {c : Client} {deeds deeds' : List Deed} {d : Desk}
    (h : IsSoundDesk c deeds d) (subset : ∀ s, .stored s ∈ deeds → .stored s ∈ deeds') :
    IsSoundDesk c deeds' d where
  listed s hs := subset s (h.listed s hs)
  sent := h.sent
  served e reply on := by
    obtain ⟨p, taken, stored⟩ := h.served e reply on
    exact ⟨p, taken, fun s hs => subset s (stored s hs)⟩

/-- One desk is at another point, and all others are where they were. -/
theorem forall_put {o : Office ι} {i : ι} {d : Desk} {P : ι → Desk → Prop} (this : P i d)
    (others : ∀ j, P j (o.desks j)) : ∀ j, P j ((o.put i d).desks j) :=
  (Function.forall_update_iff o.desks P).mpr ⟨this, fun j _ => others j⟩

/-- A sound office turns in one of these ways. -/
theorem IsSound.turns {c : ι → Client} (root : ∀ i, (c i).IsAtRoot) {o : Office ι}
    {records : List Archive.Record} {last : Int} (h : IsSound c o records last)
    (next : Number.IsWritable (last + 1)) (act : Act ι) :
    ∃ records' last', Turns c o records last act (o.step c act) records' last' := by
  cases act with
  | send i e =>
    refine ⟨records, last, ?_⟩
    rw [step]
    split
    · exact .sent ‹_› ‹_›
    · rename_i unsent
      refine .unsent (or_iff_not_imp_left.mpr fun idle r made => ?_)
      exact unsent r (not_not.mp idle) made
  | serve i t =>
    rw [step]
    split
    · rename_i e r on
      obtain ⟨made, inRange⟩ := (h.desks i).sent e r on
      obtain ⟨b, reply, p, records', last', replied, taken, runs, keeps⟩ :=
        h.keeps.runs h.booked.writable next (root i) inRange made t
      simp only [replied, runs.deeds_eq h.keeps keeps]
      exact ⟨records', last', .served on taken runs keeps⟩
    · rename_i unserved
      exact ⟨records, last, .unserved unserved⟩
  | deliver i =>
    refine ⟨records, last, ?_⟩
    rw [step]
    split
    · exact .delivered ‹_›
    · rename_i undelivered
      exact .undelivered undelivered

/-- At most one key is given out. -/
theorem Turns.last_le {c : ι → Client} {o o' : Office ι} {records records' : List Archive.Record}
    {last last' : Int} {act : Act ι} (turns : Turns c o records last act o' records' last') :
    last' ≤ last + 1 := by
  cases turns with
  | served _ _ runs => cases runs <;> omega
  | _ => omega

theorem IsSound.turned {c : ι → Client} {o o' : Office ι} {records records' : List Archive.Record}
    {last last' : Int} (h : IsSound c o records last) (next : Number.IsWritable (last + 1))
    {act : Act ι} (inRange : act.IsInRange) (turns : Turns c o records last act o' records' last') :
    IsSound c o' records' last' := by
  cases turns with
  | unsent | unserved | undelivered => exact h
  | @sent i e r _ made =>
    refine ⟨h.keeps, h.booked, forall_put ⟨(h.desks i).listed, ?_, by simp⟩ h.desks⟩
    rintro _ _ ⟨⟩
    exact ⟨made, inRange⟩
  | @served i t e r archive reply p _ _ on taken runs keeps =>
    have grown : ∀ s, .stored s ∈ o.deeds → .stored s ∈ o.deeds ++ p.deeds :=
      fun s hs => List.mem_append_left _ hs
    refine ⟨keeps, h.booked.runs next runs, forall_put ?_ fun j => (h.desks j).mono grown⟩
    refine ⟨fun s hs => grown s ((h.desks i).listed s hs), by simp, ?_⟩
    rintro _ _ ⟨⟩
    exact ⟨p, taken, fun s hs => h.booked.stored_of_brings runs hs⟩
  | @delivered i e reply on =>
    obtain ⟨p, taken, stored⟩ := (h.desks i).served e reply on
    refine ⟨h.keeps, h.booked, forall_put ⟨?_, by simp, by simp⟩ h.desks⟩
    intro s hs
    rw [taken] at hs
    exact (Patch.mem_or_brings hs).elim ((h.desks i).listed s) (stored s)

/-! ## Runs -/

/-- What holds of a sound office and is kept by every turn from there on holds after all acts. -/
theorem run_induction {c : ι → Client} (root : ∀ i, (c i).IsAtRoot)
    {P : List (Act ι) → Office ι → List Archive.Record → Int → Prop} {o : Office ι}
    {records : List Archive.Record} {last : Int} (sound : IsSound c o records last)
    (start : P [] o records last) {acts : List (Act ι)} (inRange : ∀ act ∈ acts, act.IsInRange)
    (writable : Number.IsWritable (last + acts.length))
    (turn : ∀ {done act o records last o' records' last'}, act ∈ acts →
      IsSound c o records last → Turns c o records last act o' records' last' →
      P done o records last → P (done ++ [act]) o' records' last') :
    ∃ records' last', IsSound c (acts.foldl (step c) o) records' last' ∧
      P acts (acts.foldl (step c) o) records' last' ∧ last' ≤ last + acts.length := by
  induction acts using List.reverseRecOn with
  | nil => exact ⟨records, last, sound, start, by simp⟩
  | append_singleton acts act ih =>
    rw [List.length_append, List.length_singleton] at *
    have started := sound.booked.started
    obtain ⟨records', last', sound', holds, bounded⟩ :=
      ih (fun act hact => inRange act (by simp [hact])) (writable.of_le (by omega))
        fun hact => turn (by simp [hact])
    have started' := sound'.booked.started
    have next : Number.IsWritable (last' + 1) := writable.of_le (by omega)
    obtain ⟨records'', last'', turns⟩ := sound'.turns root next act
    have grown := turns.last_le
    rw [List.foldl_append]
    exact ⟨records'', last'', sound'.turned next (inRange act (by simp)) turns,
      turn (by simp) sound' turns holds, by push_cast; omega⟩

theorem isSound_run {c : ι → Client} (root : ∀ i, (c i).IsAtRoot) {acts : List (Act ι)}
    (inRange : ∀ act ∈ acts, act.IsInRange) (writable : Number.IsWritable acts.length) :
    ∃ records last, IsSound c (run c acts) records last ∧ last ≤ acts.length := by
  obtain ⟨records, last, sound, -, bounded⟩ :=
    run_induction (P := fun _ _ _ _ => True) root (isSound_fresh c) trivial inRange
      (by simpa using writable) fun _ _ _ _ => trivial
  exact ⟨records, last, sound, by simpa using bounded⟩

/-! ## Deleted snippets -/

/-- The key was given out, and its record is gone. -/
structure IsGone (id : Int) (records : List Archive.Record) (last : Int) : Prop where
  absent : ∀ r ∈ records, r.id ≠ id
  old : id ≤ last

/-- What is gone stays gone, and no reply brings it back. -/
theorem IsGone.runs {id : Int} {records records' : List Archive.Record} {last last' : Int}
    (h : IsGone id records last) {t : Timestamp} {e : Errand} {p : Patch}
    (runs : Archive.Runs t records last e p records' last') :
    IsGone id records' last' ∧ ∀ s ∈ p.brings, s.id ≠ id := by
  cases runs with
  | refused => exact ⟨h, by simp [Patch.brings]⟩
  | @stored _ _ _ r key =>
    have other : r.id ≠ id := by
      have old := h.old
      omega
    refine ⟨⟨?_, Int.le_add_one h.old⟩, ?_⟩
    · intro q hq
      rcases List.mem_append.mp hq with hq | hq
      · exact h.absent q hq
      · rwa [List.mem_singleton.mp hq]
    · intro s hs
      rwa [List.mem_singleton.mp hs]
  | listed =>
    refine ⟨h, fun s hs => ?_⟩
    obtain ⟨r, hr, rfl⟩ := Archive.mem_shelf.mp (Listing.mem_newestFirst.mp hs)
    exact h.absent r hr
  | deleted =>
    refine ⟨⟨fun r hr => h.absent r (List.mem_of_mem_filter hr), h.old⟩, by simp [Patch.brings]⟩

/-- The desk does not show the snippet under the key, and no reply on its way brings it. -/
structure IsRid (c : Client) (id : Int) (d : Desk) : Prop where
  listed : ∀ s ∈ d.listing, s.id ≠ id
  served : ∀ e reply, d.transit = .served e reply → ∃ p : Patch,
    (∀ l, e.take c l reply = p.apply l) ∧ ∀ s ∈ p.brings, s.id ≠ id

/-- The deletion has been served, and its reply is on the way. -/
def AwaitsDeletion (c : Client) (id : Int) (d : Desk) : Prop :=
  ∃ reply, d.transit = .served (.delete id) reply ∧
    ∀ l, (Errand.delete id).take c l reply = Patch.apply l (.without id)

theorem put_desks (o : Office ι) (i j : ι) (d : Desk) :
    (o.put j d).desks i = if i = j then d else o.desks i := Function.update_apply ..

theorem IsGone.turns {c : ι → Client} {o o' : Office ι} {id : Int}
    {records records' : List Archive.Record} {last last' : Int} {act : Act ι}
    (h : IsGone id records last) (turns : Turns c o records last act o' records' last') :
    IsGone id records' last' := by
  cases turns with
  | served _ _ runs => exact (h.runs runs).1
  | _ => exact h

/-- The reply to a deletion stays on its way until it is delivered. -/
theorem AwaitsDeletion.turns {c : ι → Client} {o o' : Office ι} {i : ι} {id : Int}
    {records records' : List Archive.Record} {last last' : Int} {act : Act ι}
    (h : AwaitsDeletion (c i) id (o.desks i))
    (turns : Turns c o records last act o' records' last') :
    act ≠ .deliver i ∧ AwaitsDeletion (c i) id (o'.desks i) ∨ IsRid (c i) id (o'.desks i) := by
  obtain ⟨reply, on, taken⟩ := h
  have here : AwaitsDeletion (c i) id (o.desks i) := ⟨reply, on, taken⟩
  cases turns with
  | unsent => exact .inl ⟨by simp, here⟩
  | unserved => exact .inl ⟨by simp, here⟩
  | @undelivered j undelivered =>
    refine .inl ⟨?_, here⟩
    rintro ⟨⟩
    exact undelivered _ _ on
  | @sent j e r idle =>
    have other : i ≠ j := by
      rintro rfl
      simp [on] at idle
    rw [put_desks, if_neg other]
    exact .inl ⟨by simp, here⟩
  | @served j t e r archive reply' p _ _ on' =>
    have other : i ≠ j := by
      rintro rfl
      simp [on] at on'
    refine .inl ⟨by simp, ?_⟩
    change AwaitsDeletion (c i) id ((o.put j _).desks i)
    rw [put_desks, if_neg other]
    exact here
  | @delivered j e reply' on' =>
    rw [put_desks]
    split
    · subst_vars
      obtain ⟨rfl, rfl⟩ := Transit.served.inj (on.symm.trans on')
      refine .inr ⟨fun s hs => ?_, by simp⟩
      rw [taken] at hs
      exact bne_iff_ne.mp (List.mem_filter.mp hs).2
    · rename_i other
      exact .inl ⟨fun same => other (Act.deliver.inj same).symm, here⟩

theorem IsRid.turns {c : ι → Client} {o o' : Office ι} {i : ι} {id : Int}
    {records records' : List Archive.Record} {last last' : Int} {act : Act ι}
    (h : IsRid (c i) id (o.desks i)) (gone : IsGone id records last)
    (turns : Turns c o records last act o' records' last') : IsRid (c i) id (o'.desks i) := by
  cases turns with
  | unsent | unserved | undelivered => exact h
  | sent =>
    rw [put_desks]
    split
    · subst_vars
      exact ⟨h.listed, by simp⟩
    · exact h
  | @served j t e r archive reply p _ _ on taken runs =>
    change IsRid (c i) id ((o.put j _).desks i)
    rw [put_desks]
    split
    · subst_vars
      refine ⟨h.listed, ?_⟩
      rintro _ _ ⟨⟩
      exact ⟨p, taken, (gone.runs runs).2⟩
    · exact h
  | @delivered j e reply on =>
    rw [put_desks]
    split
    · subst_vars
      obtain ⟨p, taken, brings⟩ := h.served e reply on
      refine ⟨fun s hs => ?_, by simp⟩
      rw [taken] at hs
      exact (Patch.mem_or_brings hs).elim (h.listed s) (brings s)
    · exact h

/-- The archive serves the request to delete a key that it gave out before. -/
theorem IsSound.awaitsDeletion {c : ι → Client} {o o' : Office ι}
    {records records' : List Archive.Record} {last last' : Int} (h : IsSound c o records last)
    {i : ι} {t : Timestamp} {id : Int} {r : Request}
    (on : (o.desks i).transit = .sent (.delete id) r) {s : Snippet} (stored : .stored s ∈ o.deeds)
    (key : s.id = id) (turns : Turns c o records last (.serve i t) o' records' last') :
    IsGone id records' last' ∧ AwaitsDeletion (c i) id (o'.desks i) := by
  cases turns with
  | unserved unserved => exact absurd on (unserved _ _)
  | @served _ _ e r' archive reply p _ _ on' taken runs =>
    obtain ⟨rfl, rfl⟩ := Transit.sent.inj (on.symm.trans on')
    cases runs with
    | deleted =>
      refine ⟨⟨?_, key ▸ h.booked.assigned s stored⟩, ?_⟩
      · exact fun q hq => bne_iff_ne.mp (List.mem_filter.mp hq).2
      · change AwaitsDeletion (c i) id ((o.put i _).desks i)
        rw [put_desks, if_pos rfl]
        exact ⟨reply, rfl, taken⟩

/-- Once the reply to a deletion has been delivered, the key never shows again. -/
theorem IsSound.isRid_of_deleted {c : ι → Client} (root : ∀ i, (c i).IsAtRoot) {o : Office ι}
    {records : List Archive.Record} {last : Int} (h : IsSound c o records last) {i : ι}
    {t : Timestamp} {id : Int} {r : Request} (on : (o.desks i).transit = .sent (.delete id) r)
    {s : Snippet} (stored : .stored s ∈ o.deeds) (key : s.id = id) {after : List (Act ι)}
    (inRange : ∀ act ∈ after, act.IsInRange)
    (writable : Number.IsWritable (last + 1 + after.length)) (delivered : .deliver i ∈ after) :
    IsRid (c i) id (((Act.serve i t :: after).foldl (step c) o).desks i) := by
  have started := h.booked.started
  have next : Number.IsWritable (last + 1) := writable.of_le (by omega)
  obtain ⟨records₁, last₁, turns₁⟩ := h.turns root next (.serve i t)
  have sound₁ := h.turned next (show (Act.serve i t).IsInRange from trivial) turns₁
  have bounded := turns₁.last_le
  have started₁ := sound₁.booked.started
  obtain ⟨gone₁, awaits₁⟩ := h.awaitsDeletion on stored key turns₁
  -- Until the delivery the desk waits for the reply, and from then on it is rid of the key.
  obtain ⟨records', last', -, ⟨-, awaits | rid⟩, -⟩ := run_induction root sound₁
    (P := fun done o records last => IsGone id records last ∧
      (.deliver i ∉ done ∧ AwaitsDeletion (c i) id (o.desks i) ∨ IsRid (c i) id (o.desks i)))
    ⟨gone₁, .inl ⟨by simp, awaits₁⟩⟩ inRange (writable.of_le (by omega)) (by
      rintro done act o records last o' records' last' - - turns ⟨gone, ⟨undelivered, awaits⟩ | rid⟩
      · refine ⟨gone.turns turns, ?_⟩
        rcases awaits.turns turns with ⟨other, awaits⟩ | rid
        · exact .inl ⟨by simp [undelivered, Ne.symm other], awaits⟩
        · exact .inr rid
      · exact ⟨gone.turns turns, .inr (rid.turns gone turns)⟩)
  · exact absurd delivered awaits.1
  · exact rid

/-! ## Closing time -/

/-- A desk that has nothing but a list on its way. Once it has been asked for one and has the reply,
it shows this listing. -/
def IsClosing (c : Client) (shown : Listing) (asked : Prop) (d : Desk) : Prop :=
  match d.transit with
  | .idle => asked → d.listing = shown
  | .sent e _ => e = .list
  | .served e reply => e = .list ∧ ∀ l, e.take c l reply = shown

theorem IsClosing.congr {c : Client} {shown : Listing} {asked asked' : Prop} {d : Desk}
    (h : IsClosing c shown asked d) (imp : d.transit = .idle → asked' → asked) :
    IsClosing c shown asked' d := by
  unfold IsClosing at h ⊢
  split
  · rename_i idle
    rw [idle] at h
    exact fun asks => h (imp idle asks)
  · rename_i on
    rwa [on] at h
  · rename_i on
    rwa [on] at h

/-- Every desk has nothing but a list on its way, so that the records and the deeds stay as they
are. -/
structure Closing (c : ι → Client) (records : List Archive.Record) (deeds : List Deed)
    (done : List (Act ι)) (o : Office ι) (kept : List Archive.Record) : Prop where
  kept : kept = records
  deeds : o.deeds = deeds
  desks : ∀ i, IsClosing (c i) (Listing.newestFirst (Archive.shelf records)) (.send i .list ∈ done)
    (o.desks i)

theorem Closing.turns {c : ι → Client} (root : ∀ i, (c i).IsAtRoot)
    {records kept kept' : List Archive.Record} {deeds : List Deed} {done : List (Act ι)}
    {o o' : Office ι} {last last' : Int} {act : Act ι} (h : Closing c records deeds done o kept)
    (only : ∀ i e, act = .send i e → e = .list)
    (turns : Turns c o kept last act o' kept' last') :
    Closing c records deeds (done ++ [act]) o' kept' := by
  obtain rfl := h.kept
  have others {i : ι} (other : (o.desks i).transit = .idle → act ≠ .send i .list) :
      IsClosing (c i) (Listing.newestFirst (Archive.shelf kept)) (.send i .list ∈ done ++ [act])
        (o.desks i) := by
    refine (h.desks i).congr fun idle asked => ?_
    rcases List.mem_append.mp asked with asked | now
    · exact asked
    · exact absurd (List.mem_singleton.mp now).symm (other idle)
  cases turns with
  | @unsent j e unsent =>
    refine ⟨h.kept, h.deeds, fun i => others fun idle => ?_⟩
    rintro ⟨⟩
    obtain ⟨r, made, -⟩ := Archive.exists_listRequest (root j)
    exact unsent.elim (fun busy => busy idle) fun unmade => unmade r made
  | @sent j e r idle made =>
    refine ⟨h.kept, h.deeds, fun i => ?_⟩
    rw [put_desks]
    split
    · exact only j e rfl
    · rename_i other
      refine others fun _ same => other ?_
      cases same
      rfl
  | unserved | undelivered => exact ⟨h.kept, h.deeds, fun i => others fun _ => by simp⟩
  | @served j t e r archive reply p _ _ on taken runs =>
    have closing := h.desks j
    rw [IsClosing, on] at closing
    obtain rfl : e = .list := closing
    cases runs with
    | listed =>
      refine ⟨h.kept, by rw [Patch.deeds, List.append_nil, h.deeds], fun i => ?_⟩
      change IsClosing _ _ _ ((o.put j _).desks i)
      rw [put_desks]
      split
      · subst_vars
        exact ⟨rfl, taken⟩
      · exact others fun _ => by simp
  | @delivered j e reply on =>
    have closing := h.desks j
    rw [IsClosing, on] at closing
    obtain ⟨rfl, taken⟩ := closing
    refine ⟨h.kept, h.deeds, fun i => ?_⟩
    rw [put_desks]
    split
    · subst_vars
      exact fun _ => taken _
    · exact others fun _ => by simp

/-- Once all calls have ended, every desk that asks for a list shows the snippets that survive. -/
theorem IsSound.closing {c : ι → Client} (root : ∀ i, (c i).IsAtRoot) {o : Office ι}
    {records : List Archive.Record} {last : Int} (h : IsSound c o records last)
    (idle : ∀ i, (o.desks i).transit = .idle) {after : List (Act ι)}
    (only : ∀ i e, .send i e ∈ after → e = .list)
    (writable : Number.IsWritable (last + after.length)) :
    Closing c records o.deeds after (after.foldl (step c) o) records := by
  have inRange : ∀ act ∈ after, act.IsInRange := by
    intro act hact
    cases act with
    | send i e =>
      rw [only i e hact]
      trivial
    | _ => trivial
  have start : Closing c records o.deeds [] o records := by
    refine ⟨rfl, rfl, fun i => ?_⟩
    rw [IsClosing, idle]
    simp
  obtain ⟨records', last', -, closing, -⟩ := run_induction root h
    (P := fun done u kept _ => Closing c records o.deeds done u kept) start inRange writable
    fun hact _ turns closing => closing.turns root (fun i e same => only i e (same ▸ hact)) turns
  obtain rfl := closing.kept
  exact closing

/-! ## Main result -/

theorem nodup_newestFirst_shelf {a : Archive} {records : List Archive.Record} {last : Int}
    (h : a.Keeps records last) : (Listing.newestFirst (Archive.shelf records)).Nodup := by
  have keys : ((records.map Archive.Record.snippet).map Snippet.id).Nodup := by
    rw [List.map_map]
    exact h.nodup
  have snippets : (Archive.shelf records).Perm (records.map Archive.Record.snippet) :=
    (List.mergeSort_perm records _).map _
  exact ((List.mergeSort_perm _ _).trans snippets).nodup_iff.mpr keys.of_map

/-- However the calls of the desks cross, and whatever the times are at which they are served: what
a desk shows was stored, a snippet that was stored and whose deletion a desk has seen through never
shows there again, and once all calls have ended, the desks that ask for a list show one and the
same, which holds each snippet that was stored and not deleted since, once. The number of acts
bounds the keys, which are signed words. -/
theorem shows_what_survives {c : ι → Client} (root : ∀ i, (c i).IsAtRoot) {acts : List (Act ι)}
    (inRange : ∀ act ∈ acts, act.IsInRange) (few : Number.IsWord acts.length) :
    (∀ i, ∀ s ∈ ((run c acts).desks i).listing, .stored s ∈ (run c acts).deeds) ∧
    (∀ before i t after id r s, acts = before ++ .serve i t :: after →
      ((run c before).desks i).transit = .sent (.delete id) r →
      .stored s ∈ (run c before).deeds → s.id = id → .deliver i ∈ after →
      ∀ q ∈ ((run c acts).desks i).listing, q.id ≠ id) ∧
    ∀ before after, acts = before ++ after → (∀ i, ((run c before).desks i).transit = .idle) →
      (∀ i e, .send i e ∈ after → e = .list) →
      ∃ shown, shown.Nodup ∧ (∀ s, s ∈ shown ↔ Survives (run c acts).deeds s) ∧
        ∀ i, .send i .list ∈ after → ((run c acts).desks i).transit = .idle →
          ((run c acts).desks i).listing = shown := by
  have writable := Number.isWritable_of_isWord few
  refine ⟨?_, ?_, ?_⟩
  · obtain ⟨records, last, sound, -⟩ := isSound_run root inRange writable
    exact fun i => (sound.desks i).listed
  · rintro before i t after id r s rfl on stored key delivered
    rw [List.length_append, List.length_cons] at writable
    have inRange' : ∀ act ∈ before, act.IsInRange := fun act hact => inRange act (by simp [hact])
    obtain ⟨records, last, sound, bounded⟩ :=
      isSound_run root inRange' (writable.of_le (by omega))
    rw [run_append]
    refine (sound.isRid_of_deleted root on stored key (fun act hact => inRange act (by simp [hact]))
      (writable.of_le ?_) delivered).listed
    have started := sound.booked.started
    omega
  · rintro before after rfl idle only
    rw [List.length_append] at writable
    have inRange' : ∀ act ∈ before, act.IsInRange := fun act hact => inRange act (by simp [hact])
    obtain ⟨records, last, sound, bounded⟩ :=
      isSound_run root inRange' (writable.of_le (by omega))
    have started := sound.booked.started
    have closing := sound.closing root idle only (writable.of_le (by omega))
    rw [run_append]
    refine ⟨_, nodup_newestFirst_shelf sound.keeps, fun s => ?_, fun i asked ended => ?_⟩
    · rw [closing.deeds, ← sound.booked.survives s, Listing.mem_newestFirst, Archive.mem_shelf]
    · have shown := closing.desks i
      rw [IsClosing, ended] at shown
      exact shown asked

end

/-- A desk deletes what the other one has saved and not yet seen. -/
def crossed : List (Act Bool) :=
  [.send true (.save "lab" "router r1" {}), .serve true .noon, .send false (.delete 1),
    .serve false .noon, .deliver false, .deliver true]

/-- Both desks ask for a list. -/
def closing : List (Act Bool) :=
  [.send true .list, .send false .list, .serve false .noon, .serve true .noon, .deliver true,
    .deliver false]

theorem shows_what_survives_crossed :
    ∃ shown, (∀ s, s ∈ shown ↔
        Survives (run (fun _ => Mirror.shop) (crossed ++ closing)).deeds s) ∧
      ((run (fun _ => Mirror.shop) (crossed ++ closing)).desks true).listing = shown ∧
      ((run (fun _ => Mirror.shop) (crossed ++ closing)).desks false).listing = shown := by
  have inRange : ∀ act ∈ crossed ++ closing, act.IsInRange := by
    simp [crossed, closing, Act.IsInRange, Errand.IsInRange, Number.IsWord]
  have few : Number.IsWord (crossed ++ closing).length := by decide
  obtain ⟨-, -, closes⟩ := shows_what_survives (c := fun _ => Mirror.shop)
    (fun _ => Mirror.isAtRoot_shop) inRange few
  obtain ⟨shown, -, survives, lists⟩ := closes crossed closing rfl (by decide +kernel)
    (by simp [closing])
  have idle : ∀ i, ((run (fun _ => Mirror.shop) (crossed ++ closing)).desks i).transit = .idle := by
    decide +kernel
  refine ⟨shown, survives, lists true ?_ (idle true), lists false ?_ (idle false)⟩
  · simp [closing]
  · simp [closing]

end Office
end Topograph
