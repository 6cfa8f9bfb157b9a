import Topograph.Proofs.Snippet.Mirror

/-!
# Keys without a row

To get or to delete a snippet under a key that no row has changes nothing, and is answered with 404
as long as the key fits a signed word. No row can have a longer key, but the archive fails to look
for one. So a listing deletes what the archive lacks as often as it is asked to, or never.
-/
namespace Topograph
open Number

namespace Archive

/-- The table has been created and has no row under this key. -/
def Lacks (a : Archive) (id : Int) : Prop := ∃ t, a.table = some t ∧ ∀ r ∈ t.rows, r.id ≠ id

/-- The inquiry is to get or to delete the snippet under this key, whatever its size. -/
structure Inquiry.Seeks (q : Inquiry) (id : Int) : Prop where
  method : q.method = some .get ∨ q.method = some .delete
  key : ∃ name, Route.ofPath? q.path = some (.snippet name) ∧ Validation.int (.string name) = .ok id

theorem Lacks.get {a : Archive} {id : Int} (h : a.Lacks id) :
    a.get id = if IsWord id then .ok none else .error .keyOutOfRange := by
  obtain ⟨t, table, absent⟩ := h
  have none : t.row? id = none := by
    rw [Table.row?, List.find?_eq_none]
    exact fun r hr => by simp [absent r hr]
  have opened : a.opened = .ok t := by rw [Archive.opened, table]
  by_cases word : IsWord id
  · rw [Archive.get, openedFor, opened, if_pos word]
    simp only [Except.bind, if_pos word, bind, none]
    rfl
  · rw [Archive.get, openedFor, opened, if_neg word]
    simp only [Except.bind, if_neg word, bind]

theorem Lacks.answer {a : Archive} {id : Int} (h : a.Lacks id) {q : Inquiry} (seeks : q.Seeks id)
    (now : RawText) : a.answer now q =
      (a, if IsWord id then .ok (.noSnippet id) else .error .keyOutOfRange) := by
  obtain ⟨method, name, route, key⟩ := seeks
  have document : q.method ≠ some .head := by
    rcases method with get | delete
    · rw [get]
      decide
    · rw [delete]
      decide
  rw [answer_of_route route document]
  -- A deletion gets the snippet first, and ends there.
  rcases method with get | delete
  · simp only [get, answerRoute, key, answerGet, h.get]
    split <;> rfl
  · simp only [delete, answerRoute, key, answerDelete, h.get]
    by_cases word : IsWord id
    · simp only [if_pos word]
    · simp only [if_neg word]

end Archive

namespace Mirror

/-- Delete the snippet under a key at a time, and patch the listing by what the archive replies. -/
def delete (c : Client) (id : Int) (m : Mirror) (now : RawText) : Outcome Mirror Unit :=
  match Store.deleteRequest c id with
  | .error f => (m, .error f)
  | .ok r =>
    let (archive, reply) := m.archive.reply now r
    let (listing, ended) := m.listing.deleted c id reply
    ({ archive, listing }, ended)

/-- Delete the snippet at each of these times, and note how every deletion ended. -/
def deletions (c : Client) (id : Int) (m : Mirror) :
    List RawText → Mirror × List (Except Failure Unit)
  | [] => (m, [])
  | now :: later =>
    let (m, ended) := m.delete c id now
    let (m, others) := deletions c id m later
    (m, ended :: others)

section
variable {c : Client} {id : Int} {a : Archive} (lacks : a.Lacks id)
include lacks

theorem delete_of_isWord (root : c.IsAtRoot) (word : IsWord id) (l : Listing) (now : RawText) :
    delete c id ⟨a, l⟩ now = (⟨a, l.filter fun s => s.id != id⟩, .ok ()) := by
  obtain ⟨r, made, method, key⟩ := Archive.exists_keyRequest root (isWritable_of_isWord word)
  have replied : a.reply now r = (a, .answered 404 (Archive.Response.noSnippet id).body) := by
    rw [Archive.reply, lacks.answer ⟨.inr method, key⟩, if_pos word]
    rfl
  unfold delete
  rw [made]
  have fits := Archive.Response.not_overflows_noSnippet c id
  simp only [replied, Listing.deleted_notFound l id root.acceptable.namesHost fits]

theorem delete_of_not_isWord (root : c.IsAtRoot) (long : ¬ IsWord id) (writable : IsWritable id)
    (l : Listing) (now : RawText) :
    delete c id ⟨a, l⟩ now = (⟨a, l⟩, .error .keyOutOfRange) := by
  obtain ⟨r, made, method, key⟩ := Archive.exists_keyRequest root writable
  have replied : a.reply now r = (a, .broken .keyOutOfRange) := by
    rw [Archive.reply, lacks.answer ⟨.inr method, key⟩, if_neg long]
  unfold delete
  rw [made]
  simp only [replied]
  rfl

omit lacks in
theorem delete_of_overlong (overlong : ¬ IsWritable id) (m : Mirror) (now : RawText) :
    delete c id m now = (m, .error .unwritable) := by
  have unmade : Store.deleteRequest c id = .error .unwritable := by
    unfold Store.deleteRequest Failure.integerText
    rw [integerText?_of_overlong overlong]
    rfl
  unfold delete
  rw [unmade]

end

/-- Deletions that all end alike, and of which the first one leaves a listing as the others would
leave it again. -/
theorem deletions_of_settled {c : Client} {id : Int} {a : Archive} {f : Listing → Listing}
    {ended : Except Failure Unit} (step : ∀ l now, delete c id ⟨a, l⟩ now = (⟨a, f l⟩, ended))
    (settled : ∀ l, f (f l) = f l) (l : Listing) (now : RawText) (later : List RawText) :
    deletions c id ⟨a, l⟩ (now :: later) = (⟨a, f l⟩, (now :: later).map fun _ => ended) := by
  induction later generalizing l now with
  | nil =>
    unfold deletions
    rw [step]
    rfl
  | cons next later ih =>
    unfold deletions
    rw [step]
    simp only [ih (f l) next, settled]
    rfl

end Mirror

namespace Archive

/-- To get or to delete a snippet that the archive lacks is answered with 404 if its key is a signed
word, and fails if the key is any longer. The archive stays as it is. In the one case every deletion
by a listing succeeds, however often it is repeated, and in the other case none does. -/
theorem lacking_answered_by_word {a : Archive} {id : Int} (lacks : a.Lacks id) :
    (∀ (q : Inquiry) (now : RawText), q.Seeks id → a.answer now q = (a,
      if IsWord id then .ok (.detail 404 ("Snippet not found: " ++ integerText id))
      else .error .keyOutOfRange)) ∧
    ∀ (c : Client) (l : Listing) (now : RawText) (later : List RawText), c.IsAtRoot →
      (IsWord id → Mirror.deletions c id ⟨a, l⟩ (now :: later) =
        (⟨a, l.filter fun s => s.id != id⟩, (now :: later).map fun _ => .ok ())) ∧
      (¬ IsWord id → IsWritable id → Mirror.deletions c id ⟨a, l⟩ (now :: later) =
        (⟨a, l⟩, (now :: later).map fun _ => .error .keyOutOfRange)) ∧
      (¬ IsWritable id → Mirror.deletions c id ⟨a, l⟩ (now :: later) =
        (⟨a, l⟩, (now :: later).map fun _ => .error .unwritable)) := by
  refine ⟨fun q now seeks => lacks.answer seeks now, fun c l now later root => ⟨?_, ?_, ?_⟩⟩
  · intro word
    have settled (l : Listing) : ((l.filter fun s => s.id != id).filter fun s => s.id != id) =
        l.filter fun s => s.id != id := by simp
    exact Mirror.deletions_of_settled (Mirror.delete_of_isWord lacks root word) settled l now later
  · intro long writable
    have step := Mirror.delete_of_not_isWord lacks root long writable
    exact Mirror.deletions_of_settled step (fun _ => rfl) l now later
  · intro overlong
    have step (l : Listing) := Mirror.delete_of_overlong (c := c) overlong ⟨a, l⟩
    exact Mirror.deletions_of_settled step (fun _ => rfl) l now later

/-- The first key that is no signed word. -/
def firstLong : Int := 9223372036854775808

/-- In an archive without any row the key before the first long one is answered with 404 and deleted
twice, and the first long one is not. -/
theorem lacking_answered_by_word_fresh : fresh.Lacks firstLong ∧ fresh.Lacks (firstLong - 1) ∧
    fresh.answer "" { method := some .get, path := "/snippets/9223372036854775807", body := [] } =
      (fresh, .ok (.detail 404 "Snippet not found: 9223372036854775807")) ∧
    fresh.answer "" { method := some .get, path := "/snippets/9223372036854775808", body := [] } =
      (fresh, .error .keyOutOfRange) ∧
    Mirror.deletions Mirror.shop (firstLong - 1) ⟨fresh, []⟩ ["", ""] =
      (⟨fresh, []⟩, [.ok (), .ok ()]) ∧
    Mirror.deletions Mirror.shop firstLong ⟨fresh, []⟩ ["", ""] =
      (⟨fresh, []⟩, [.error .keyOutOfRange, .error .keyOutOfRange]) := by
  have lacks (id : Int) : fresh.Lacks id := ⟨{}, rfl, nofun⟩
  have short : IsWord (firstLong - 1) := by decide
  have long : ¬ IsWord firstLong := by decide
  have writable : IsWritable firstLong := by decide +kernel
  have seeks : Inquiry.Seeks
      { method := some .get, path := "/snippets/9223372036854775808", body := [] } firstLong :=
    ⟨.inl rfl, "9223372036854775808", by decide +kernel, by decide +kernel⟩
  have seeksBefore : Inquiry.Seeks
      { method := some .get, path := "/snippets/9223372036854775807", body := [] }
      (firstLong - 1) :=
    ⟨.inl rfl, "9223372036854775807", by decide +kernel, by decide +kernel⟩
  obtain ⟨before, deletesBefore⟩ := lacking_answered_by_word (lacks (firstLong - 1))
  obtain ⟨answers, deletes⟩ := lacking_answered_by_word (lacks firstLong)
  refine ⟨lacks _, lacks _, ?_, ?_, ?_, ?_⟩
  · rw [before _ _ seeksBefore, if_pos short]
    have text : "Snippet not found: " ++ integerText (firstLong - 1) =
        "Snippet not found: 9223372036854775807" := by decide +kernel
    rw [text]
  · rw [answers _ _ seeks, if_neg long]
  · exact (deletesBefore Mirror.shop [] "" [""] Mirror.isAtRoot_shop).1 short
  · exact (deletes Mirror.shop [] "" [""] Mirror.isAtRoot_shop).2.1 long writable

end Archive
end Topograph
