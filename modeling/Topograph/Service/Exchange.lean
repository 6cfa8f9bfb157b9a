import Topograph.Address.Basic
import Topograph.Json.Body
import Topograph.Json.Message
import Topograph.Problem

/-!
# Exchanges with services

An exchange is a request and the reading of its reply. A service may be out of reach, and it may be
part of the same program and break down; otherwise it answers with a status and a body. Statuses
from 400 to 599 refuse the request and any other grants it. The answer to a request whose address
names no host cannot be taken, whatever it is.
-/
namespace Topograph

inductive Method where
  | get
  | head
  | post
  | delete
  deriving DecidableEq, Repr, Inhabited

def Method.word : Method → String
  | .get => "GET"
  | .head => "HEAD"
  | .post => "POST"
  | .delete => "DELETE"

/-- The method of a word in either case. -/
def Method.ofWord? (word : String) : Option Method :=
  [.get, .head, .post, .delete].find? fun m => m.word == word.toUpper

/-- One file of an upload. -/
structure Upload where
  disposition : String
  contentType : String
  content : Bytes
  deriving DecidableEq, Repr

/-- What a request carries. -/
inductive Payload where
  | none
  | json (document : Json)
  | upload (file : Upload)
  deriving DecidableEq, Repr

/-- Every text of the payload can be written as octets. -/
def Payload.isOrdinary : Payload → Bool
  | .json document => document.isOrdinary
  | .none | .upload _ => true

structure Request where
  service : Service
  method : Method
  address : Address
  authorization : Option String := none
  payload : Payload := .none
  deriving DecidableEq, Repr

/-- What comes back for a request. -/
inductive Reply where
  | answered (status : Int) (body : Bytes)
  | unreachable (reason : RawText)
  | broken (f : Failure)
  deriving DecidableEq, Repr

/-- The address that a text names. A half of a pair that stands alone cannot be written in it. -/
def Address.ofText (s : RawText) : Except Failure Address :=
  match Address.read? s.shown with
  | none => .error .badAddress
  | some address => if s.isOrdinary then .ok address else .error .unpaired

/-- A service at an address, with the token that its requests carry if there is one, and the
headroom for the documents that it answers. -/
structure Client where
  service : Service
  address : RawText
  token : Option String := none
  headroom : Json.Headroom := .usual
  deriving DecidableEq, Repr

namespace Client

/-- An address does not end in slashes. -/
def ofAddress (service : Service) (address : RawText) (token : Option String) : Client where
  service
  address := ⟨(address.letters.reverse.dropWhile (· == .char '/')).reverse⟩
  token

/-- The header of the token; an empty token counts as none. -/
def tokenHeader (c : Client) : Except Failure (Option String) :=
  match c.token with
  | none => .ok none
  | some token =>
    if token.isEmpty then .ok none
    else if token.toList.all fun ch => ch.toNat < 0x80 then .ok (some ("Bearer " ++ token))
    else .error .tokenNotAscii

/-- The header of a user's name and password. -/
def userHeader (user : String × String) : String :=
  "Basic " ++ String.ofList
    (Codec.Base64.encode (Text.Utf8.encode (user.1 ++ ":" ++ user.2)))

/-- A request to a path of the service. A user in the address takes the place of the token. -/
def request (c : Client) (method : Method) (path : String) (payload : Payload) :
    Except Failure Request := do
  let token ← c.tokenHeader
  let address := (← Address.ofText (c.address ++ .ofString path)).forRequest
  if payload.isOrdinary then
    let authorization := (address.credentials?.map userHeader).orElse fun _ => token
    return { service := c.service, method, address, authorization, payload }
  else .error .unpaired

/-- The address of the service names a host. -/
def namesHost (c : Client) : Bool :=
  match Address.ofText c.address with
  | .ok address => address.isAbsolute
  | .error _ => false

/-- The document in the body of an answer, if the body is one. A document that nests too deep ends
the call. -/
def document? (c : Client) (body : Bytes) : Except Failure (Option Json) :=
  match Json.readBody? c.headroom body with
  | some (.ok v) => .ok (some v)
  | some (.error .tooDeep) => .error .tooDeep
  | _ => .ok none

end Client

namespace Reply

/-- The status refuses the request. -/
def isRefusal (status : Int) : Bool := 400 ≤ status && status ≤ 599

/-- The body of a reply that grants the request. For one that refuses it, `refusal` words the
message from the status and the body. -/
def granted (c : Client) (refusal : Int → Bytes → Except Failure RawText) :
    Reply → Except Failure Bytes
  | .answered status body =>
    if !c.namesHost then .error .noHost
    else if isRefusal status then
      match refusal status body with
      | .ok message => .error (.problem (.refused message status (Text.Utf8.decode body)))
      | .error f => .error f
    else .ok body
  | .unreachable reason => .error (.problem (.unreachable c.service c.address reason))
  | .broken f => .error f

end Reply

/-- A text, or another one if it is empty. -/
def orElseText (s t : String) : String := if s.isEmpty then t else s

end Topograph
