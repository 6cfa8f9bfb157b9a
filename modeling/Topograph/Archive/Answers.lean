import Topograph.Archive.Route
import Topograph.Archive.Table
import Topograph.Json.Body
import Topograph.Json.Writer
import Topograph.Service.Exchange

/-!
# How an archive answers

Each request is answered with a status and, unless it is sent elsewhere, a document. Snippets are
listed, created, read and deleted, never changed. What a request gives is checked first: a body
that is no draft and a name that is no key leave issues, and a blank title is refused. A row that
cannot be read back, a key too long for the table, and an issue whose value cannot be shown, for its
nesting as well, end the request with a failure.
-/
namespace Topograph.Archive
open Validation

/-- A status and a document. -/
structure Response where
  status : Int
  document : Option Json
  deriving DecidableEq, Repr

namespace Response

def ofJson (status : Int) (v : Json) : Response := { status, document := some v }

/-- A refusal, told in words. -/
def detail (status : Int) (text : String) : Response :=
  ofJson status (.object [("detail", .string text)])

def notFound : Response := detail 404 "Not Found"

def notAllowed : Response := detail 405 "Method Not Allowed"

/-- The path with a slash too many leads to the one without. -/
def redirect : Response := { status := 307, document := none }

/-- There is no snippet under this key. -/
def noSnippet (id : Int) : Response :=
  detail 404 ("Snippet not found: " ++ Number.integerText id)

def step : Step → Json
  | .field name => .string name
  | .index i => .int i

def issue (i : Issue) : Json :=
  .object [("type", .string i.fault.word), ("loc", .array (i.path.map step))]

/-- The issues of a part of the request. -/
def invalid (part : String) (issues : List Issue) : Response :=
  ofJson 422 (.object [("detail",
    .array (issues.map fun i => issue { i with path := .field part :: i.path }))])

/-- The response to a request for the status alone. -/
def withoutDocument (r : Response) : Response := { r with document := none }

/-- The octets of the document. -/
def body (r : Response) : Bytes :=
  match r.document with
  | some v => Text.Utf8.encode v.write
  | none => []

end Response

/-- What an archive is asked: a method, which may be none that it knows, a path without escapes, and
a body. There is some headroom to read the body, and some to show what is wrong with it. -/
structure Inquiry where
  method : Option Method
  path : String
  body : Bytes
  reading : Json.Headroom := .usual
  showing : Json.Headroom := .usual
  deriving DecidableEq, Repr

namespace Inquiry

/-- The inquiry at a location of the archive. -/
def ofLocation (method : Option Method) (location body : RawText) : Except Failure Inquiry := do
  let address ← Address.ofText location
  match Text.Utf8.encode? body with
  | some body => return { method, path := Route.path address.pathAtHost, body }
  | none => .error .unpaired

/-- The inquiry of a client that is part of the same program. -/
def ofRequest (r : Request) : Inquiry where
  method := some r.method
  path := Route.path r.address.path
  body := match r.payload with
    | .json document => Text.Utf8.encode document.write
    | .upload _ | .none => []

end Inquiry

/-! ## Drafts in bodies -/

/-- The value at the end of a path. -/
def valueAt (v : Json) : List Step → Json
  | [] => v
  | .field name :: rest => valueAt ((v.get? name).getD .null) rest
  | .index i :: rest => valueAt (v.items[i]?.getD .null) rest

/-- The value that an issue shows: the one that is wrong, or the object in which one is missing. -/
def shownBy (v : Json) (i : Issue) : Json :=
  valueAt v (if i.fault = .missing then i.path.dropLast else i.path)

/-- A field that is not shown, at any depth. -/
def isPrivate (name : RawText) : Bool :=
  [.char '_', .char 's', .char 'a'].isPrefixOf name.letters

/-- The response that shows issues together with the values they are about. -/
def showIssues (headroom : Json.Headroom) (v : Json) (issues : List Issue) :
    Except Failure Response :=
  let shown := (Json.array (issues.map (shownBy v))).dropFields isPrivate
  if headroom.levels < shown.depth then .error .tooDeep
  else if !shown.isFinite then .error .notFinite
  else if !shown.isOrdinary then .error .unpaired
  else .ok (.invalid "body" issues)

/-- The draft in the body of an inquiry, or the response that refuses it. -/
def readDraft (q : Inquiry) : Except Failure (Except Response Draft) :=
  if q.body.isEmpty then .ok (.error (.invalid "body" [{ fault := .missing }]))
  else match Json.readBody? q.reading q.body with
    | some (.ok v) => match draft .modelAttributesType v with
      | .ok d => .ok (.ok d)
      | .error issues => (showIssues q.showing v issues).map .error
    | some (.error (.malformed offset)) =>
      .ok (.error (.invalid "body" [{ fault := .jsonInvalid, path := [.index offset] }]))
    | _ => .ok (.error (.detail 400 "There was an error parsing the body"))

/-- The draft to be stored, whose title is trimmed and must not be blank. -/
def acceptDraft (q : Inquiry) : Except Failure (Except Response Draft) :=
  (readDraft q).map fun result => result.bind fun d =>
    if d.title.trim.isEmpty then .error (.detail 400 "Title must not be empty")
    else .ok { d with title := d.title.trim }

/-- The inquiry stores a snippet, so that its time matters. -/
def Inquiry.isTimed (q : Inquiry) : Bool :=
  match Route.ofPath? q.path, q.method, acceptDraft q with
  | some .snippets, some .post, .ok (.ok _) => true
  | _, _, _ => false

/-! ## Answers -/

/-- The root tells what it serves. -/
def welcome : Response := .ofJson 200 (.object [
  ("status", .string "ok"), ("service", .string "cabinet"), ("snippets", .string "/snippets")])

def answerList (a : Archive) : Except Failure Response :=
  a.list.map fun snippets => .ofJson 200 (.array (snippets.map Snippet.toJson))

/-- Create the snippet of a draft. -/
def answerCreate (a : Archive) (now : RawText) (q : Inquiry) : Outcome Archive Response :=
  match acceptDraft q with
  | .error f => (a, .error f)
  | .ok (.error response) => (a, .ok response)
  | .ok (.ok d) =>
    let (a, created) := a.insert d now
    (a, created.map fun s => .ofJson 201 s.toJson)

def answerGet (a : Archive) (id : Int) : Except Failure Response :=
  (a.get id).map fun
    | some s => .ofJson 200 s.toJson
    | none => .noSnippet id

/-- Delete a snippet, which is read first. -/
def answerDelete (a : Archive) (id : Int) : Outcome Archive Response :=
  match a.get id with
  | .error f => (a, .error f)
  | .ok none => (a, .ok (.noSnippet id))
  | .ok (some _) =>
    let (a, deleted) := a.delete id
    (a, deleted.map fun _ => .ofJson 200 (.object [("deleted", .int id)]))

/-- Answer a request about a resource. No other method than these is allowed. -/
def answerRoute (a : Archive) (now : RawText) (q : Inquiry) (route : Route) :
    Outcome Archive Response :=
  match route, q.method with
  | .root, some .get => (a, .ok welcome)
  | .manual, some .get | .manual, some .head => (a, .ok { status := 200, document := none })
  | .snippets, some .get => (a, a.answerList)
  | .snippets, some .post => a.answerCreate now q
  | .snippet name, some .get => match int (.string name) with
    | .ok id => (a, a.answerGet id)
    | .error issues => (a, .ok (namedInvalid issues))
  | .snippet name, some .delete => match int (.string name) with
    | .ok id => a.answerDelete id
    | .error issues => (a, .ok (namedInvalid issues))
  | _, _ => (a, .ok .notAllowed)
where
  namedInvalid (issues : List Issue) : Response :=
    .invalid "path" (issues.map fun i => { i with path := .field "snippet_id" :: i.path })

/-- Answer an inquiry at a time. One for the status alone gets no document. -/
def answer (a : Archive) (now : RawText) (q : Inquiry) : Outcome Archive Response :=
  let (a, result) : Outcome Archive Response := match Route.ofPath? q.path with
    | some route => a.answerRoute now q route
    | none => (a, .ok (if Route.isNearMiss q.path then .redirect else .notFound))
  (a, if q.method = some .head then result.map Response.withoutDocument else result)

/-- The reply to a request of a client, when the archive is part of the same program. -/
def reply (a : Archive) (now : RawText) (r : Request) : Archive × Reply :=
  match a.answer now (.ofRequest r) with
  | (a, .ok response) => (a, .answered response.status response.body)
  | (a, .error f) => (a, .broken f)

end Topograph.Archive
