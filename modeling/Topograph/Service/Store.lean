import Topograph.Service.Exchange
import Topograph.Snippet.Basic

/-!
# The snippet store

Snippets are listed, created and deleted by requests to the store. What comes back is checked by
the strict rules.
-/
namespace Topograph.Store

/-- The message of a refusal: a text under `msg` or `detail`, the body, or the status. -/
def refusal (c : Client) (status : Int) (body : Bytes) : Except Failure RawText :=
  (c.document? body).map fun document =>
    let told := ["msg", "detail"].findSome? fun (key : String) =>
      (((document.getD .null).get? key).bind Json.string?).filter fun s => !s.isEmpty
    told.getD (.ofString (orElseText (Text.Utf8.decode body)
      ("Snippet store request failed: " ++ Number.integerText status)))

/-- A document of a body read by the strict rules. -/
def checked {α : Type} (what : Unusable) (rule : Json → Validation.Checked α) (body : Bytes) :
    Except Failure α :=
  match (Json.readBodyStrict? body).map rule with
  | some (.ok a) => .ok a
  | _ => .error (.problem (.unusable what))

def listRequest (c : Client) : Except Failure Request := c.request .get "/snippets" .none

def readList (c : Client) (reply : Reply) : Except Failure (List Snippet) :=
  (reply.granted c (refusal c)).bind
    (checked .snippetList (Validation.Checked.list (Validation.snippet .document)))

def createRequest (c : Client) (d : Draft) : Except Failure Request :=
  c.request .post "/snippets" (.json d.toJson)

def readCreated (c : Client) (reply : Reply) : Except Failure Snippet :=
  (reply.granted c (refusal c)).bind (checked .snippet (Validation.snippet .document))

/-- The request to delete a snippet, whose identifier is part of the path. -/
def deleteRequest (c : Client) (id : Int) : Except Failure Request := do
  c.request .delete ("/snippets/" ++ (← Failure.integerText id)) .none

def readDeleted (c : Client) (reply : Reply) : Except Failure Unit :=
  (reply.granted c (refusal c)).map fun _ => ()

end Topograph.Store
