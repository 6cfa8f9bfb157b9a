import Topograph.Proofs.Archive.Handled
import Topograph.Proofs.Archive.Requests
import Topograph.Proofs.Service.Refusals
import Topograph.Proofs.Snippet.SnippetText

/-!
# Errands to an archive

What a listing sends to an archive, what the archive makes of it, and what the reply does to the
listing. Whatever the listing shows by the time the reply arrives, the reply changes it in one of
four ways: not at all, at its front, as a whole, or by taking out what has a key.
-/
namespace Topograph

/-- What a listing can be asked for. -/
inductive Errand where
  | save (title dsl : RawText) (t : Topology)
  | list
  | delete (id : Int)
  deriving DecidableEq

namespace Errand

def request (c : Client) : Errand → Except Failure Request
  | .save title dsl t => Listing.saveRequest c title dsl t
  | .list => Store.listRequest c
  | .delete id => Store.deleteRequest c id

/-- The listing after the reply. -/
def take (c : Client) (l : Listing) (reply : Reply) : Errand → Listing
  | .save _ _ _ => (l.saved c reply).1
  | .list => (l.listed c reply).1
  | .delete id => (l.deleted c id reply).1

/-- Only identifiers that a table can have are deleted. -/
def IsInRange : Errand → Prop
  | .delete id => Number.IsWord id
  | _ => True

/-- What an archive is asked on an errand. -/
inductive Means : Errand → Archive.Ask → Prop where
  | save {title dsl : RawText} {t : Topology} (d : Draft) : Means (.save title dsl t) (.create d)
  | list : Means .list .list
  | delete {id : Int} : Means (.delete id) (.delete id)

end Errand

theorem draft_of_saveRequest {c : Client} {title dsl : RawText} {t : Topology} {r : Request}
    (h : Listing.saveRequest c title dsl t = .ok r) : ∃ d, Store.createRequest c d = .ok r ∧
      d.title.isOrdinary = true ∧ d.content.isOrdinary = true := by
  unfold Listing.saveRequest at h
  cases drafted : Listing.draft title dsl t with
  | error f =>
    rw [drafted] at h
    cases h
  | ok d =>
    rw [drafted] at h
    obtain ⟨-, -, ordinary⟩ := Client.payload_of_request h
    simp only [Payload.isOrdinary, Draft.toJson, Json.isOrdinary, Json.fieldsAreOrdinary,
      Bool.and_eq_true] at ordinary
    exact ⟨d, h, ordinary.1.2, ordinary.2.1.2⟩

/-- The request of an errand is one that the archive understands. -/
theorem Errand.exists_ask {c : Client} (root : c.IsAtRoot) {e : Errand} (inRange : e.IsInRange)
    {r : Request} (made : e.request c = .ok r) :
    ∃ ask, e.Means ask ∧ (Archive.Inquiry.ofRequest r).Asks ask := by
  cases e with
  | save title dsl t =>
    obtain ⟨d, created, title, content⟩ := draft_of_saveRequest made
    obtain ⟨r', made', asks⟩ := Archive.exists_createRequest root title content
    obtain rfl := Except.ok.inj (made'.symm.trans created)
    exact ⟨_, .save d, asks⟩
  | list =>
    obtain ⟨r', made', asks⟩ := Archive.exists_listRequest root
    obtain rfl := Except.ok.inj (made'.symm.trans made)
    exact ⟨_, .list, asks⟩
  | delete id =>
    obtain ⟨r', made', asks⟩ := Archive.exists_deleteRequest root inRange
    obtain rfl := Except.ok.inj (made'.symm.trans made)
    exact ⟨_, .delete, asks⟩

theorem Listing.mem_newestFirst {snippets : List Snippet} {s : Snippet} :
    s ∈ newestFirst snippets ↔ s ∈ snippets := (List.mergeSort_perm snippets _).mem_iff

/-- What a reply does to a listing. -/
inductive Patch where
  | kept
  | front (s : Snippet)
  | whole (l : Listing)
  | without (id : Int)

namespace Patch

def apply (l : Listing) : Patch → Listing
  | .kept => l
  | .front s => s :: l
  | .whole l' => l'
  | .without id => l.filter fun s => s.id != id

/-- The snippets that come with a reply. -/
def brings : Patch → List Snippet
  | .kept | .without _ => []
  | .front s => [s]
  | .whole l => l

/-- What a listing shows afterwards was there before or came with the reply. -/
theorem mem_or_brings {l : Listing} {p : Patch} {s : Snippet} (h : s ∈ p.apply l) :
    s ∈ l ∨ s ∈ p.brings := by
  cases p with
  | kept => exact .inl h
  | front q =>
    rcases List.mem_cons.mp h with rfl | h
    · exact .inr List.mem_cons_self
    · exact .inl h
  | whole l' => exact .inr h
  | without id => exact .inl (List.mem_of_mem_filter h)

end Patch

namespace Archive

/-- What an errand makes of some records with this last key, and what its reply does to a
listing. -/
inductive Runs (t : Timestamp) (records : List Record) (last : Int) :
    Errand → Patch → List Record → Int → Prop where
  | refused {title dsl : RawText} {topology : Topology} :
    Runs t records last (.save title dsl topology) .kept records last
  | stored {title dsl : RawText} {topology : Topology} {r : Record} : r.id = last + 1 →
    r.time = t →
    Runs t records last (.save title dsl topology) (.front r.snippet) (records ++ [r]) (last + 1)
  | listed : Runs t records last .list (.whole (Listing.newestFirst (shelf records))) records last
  | deleted {id : Int} :
    Runs t records last (.delete id) (.without id) (records.filter fun r => r.id != id) last

theorem Record.isStorable_snippet {r : Record} (h : Number.IsWritable r.id) :
    r.snippet.IsStorable where
  id := h
  title := RawText.isOrdinary_ofString _
  content := RawText.isOrdinary_ofString _
  createdAt := rfl

theorem isStorable_of_mem_shelf {records : List Record}
    (writable : ∀ r ∈ records, Number.IsWritable r.id) {s : Snippet} (h : s ∈ shelf records) :
    s.IsStorable := by
  obtain ⟨r, hr, rfl⟩ := mem_shelf.mp h
  exact Record.isStorable_snippet (writable r hr)

theorem Response.not_overflows_noSnippet (c : Client) (id : Int) :
    ¬ c.Overflows (noSnippet id).body :=
  c.not_overflows_encode ⟨trivial, trivial⟩ (by simp [Json.depth, Json.depthOfFields])

/-- The records after an errand, and the reply to it as a patch of any listing. -/
theorem Keeps.runs {a : Archive} {records : List Record} {last : Int} (h : a.Keeps records last)
    (writable : ∀ r ∈ records, Number.IsWritable r.id) (next : Number.IsWritable (last + 1))
    {c : Client} (root : c.IsAtRoot) {e : Errand} (inRange : e.IsInRange) {q : Request}
    (made : e.request c = .ok q) (t : Timestamp) :
    ∃ b reply patch records' last', a.reply t.stamp q = (b, reply) ∧
      (∀ l, e.take c l reply = patch.apply l) ∧ Runs t records last e patch records' last' ∧
      b.Keeps records' last' := by
  obtain ⟨ask, means, asks⟩ := e.exists_ask root inRange made
  obtain ⟨b, response, records', last', answered, handles, keeps⟩ := h.handles asks t
  have replied : a.reply t.stamp q = (b, .answered response.status response.body) := by
    simp only [reply, answered]
  have acceptable := root.acceptable
  refine ⟨b, .answered response.status response.body, ?_⟩
  cases means with
  | save d =>
    cases handles with
    | blank =>
      refine ⟨.kept, records, last, replied, fun l => ?_, .refused, keeps⟩
      exact Listing.saved_refused acceptable l (show Reply.isRefusal 400 = true by decide) _
    | @created _ r _ key time =>
      refine ⟨.front r.snippet, _, _, replied, fun l => ?_, .stored key time, keeps⟩
      exact Listing.saved_granted acceptable l (Record.isStorable_snippet (key ▸ next))
  | list =>
    cases handles with
    | listed =>
      refine ⟨.whole (Listing.newestFirst (shelf records)), _, _, replied, fun l => ?_, .listed,
        keeps⟩
      exact Listing.listed_granted acceptable l fun s hs => isStorable_of_mem_shelf writable hs
  | @delete id =>
    cases handles with
    | deleted =>
      refine ⟨.without _, _, _, replied, fun l => ?_, .deleted, keeps⟩
      have granted : (200 : Int) < 400 := by decide
      exact Listing.deleted_answered l _ acceptable.namesHost (.inr (.inl granted))
    | gone absent =>
      have kept : records.filter (fun r => r.id != id) = records := by
        rw [List.filter_eq_self]
        exact fun r hr => bne_iff_ne.mpr (absent r hr)
      refine ⟨.without id, _, last, replied, fun l => ?_, .deleted, kept.symm ▸ keeps⟩
      have fits := Response.not_overflows_noSnippet c id
      exact Listing.deleted_answered l id acceptable.namesHost (.inl ⟨rfl, fits⟩)

end Archive
end Topograph
