import Topograph.Service.Store
import Topograph.Snippet.Envelope

/-!
# The listing of saved topologies

The snippets as last listed by the store, newest first, and patched in place when one is saved or
deleted. Timestamps without an offset count as universal time, and snippets of one instant keep the
store's order. A snippet that the store no longer has counts as deleted.
-/
namespace Topograph

abbrev Listing := List Snippet

namespace Listing

/-- Newest first. -/
def newestFirst (snippets : List Snippet) : Listing :=
  snippets.mergeSort fun a b => b.createdAt.instant ≤ a.createdAt.instant

/-- What is sent to the store to save a topology. The title and the description must not be
blank. -/
def draft (title dsl : RawText) (t : Topology) : Except Failure Draft :=
  if title.isAllBlank then .error (.problem (.rejected .noTitle))
  else if dsl.isAllBlank then .error (.problem (.rejected .nothingToSave))
  else (Envelope.encode dsl t).map fun content => { title := title.trim, content }

/-- The request to save a topology. -/
def saveRequest (c : Client) (title dsl : RawText) (t : Topology) : Except Failure Request := do
  Store.createRequest c (← draft title dsl t)

/-- A saved snippet goes to the front. -/
def saved (l : Listing) (c : Client) (reply : Reply) : Outcome Listing Snippet :=
  match Store.readCreated c reply with
  | .ok s => (s :: l, .ok s)
  | .error f => (l, .error f)

/-- A new list replaces the old one. -/
def listed (l : Listing) (c : Client) (reply : Reply) : Outcome Listing (List Snippet) :=
  match Store.readList c reply with
  | .ok snippets => (newestFirst snippets, .ok (newestFirst snippets))
  | .error f => (l, .error f)

/-- The store answered that it has no such snippet. -/
def isGone : Failure → Bool
  | .problem (.refused _ 404 _) => true
  | _ => false

/-- A deleted snippet, or one that was already gone, leaves the listing. -/
def deleted (l : Listing) (c : Client) (id : Int) (reply : Reply) : Outcome Listing Unit :=
  let rest := l.filter fun s => s.id != id
  match Store.readDeleted c reply with
  | .ok () => (rest, .ok ())
  | .error f => if isGone f then (rest, .ok ()) else (l, .error f)

end Listing
end Topograph
