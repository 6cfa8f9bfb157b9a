import Topograph.Network.Topology
import Topograph.Service.Exchange

/-!
# The compiler service

Compiling turns a description into a graph; converting turns the decoded text of a binary file into
a description and a graph. The service does the work of both. Here only the shape of its answers
is checked, and every node and edge goes through the rules for untrusted records.
-/
namespace Topograph

/-- A description together with the topology that it describes. -/
structure Conversion where
  dsl : RawText
  topology : Topology
  deriving DecidableEq, Repr

namespace Compiler
open Number

/-- The status as a message tells it. -/
def withStatus (text : String) (status : Int) : String := text ++ integerText status

/-! ## Compiling -/

/-- The request to compile a description; a blank one is rejected. -/
def compileRequest (c : Client) (dsl : RawText) : Except Failure Request :=
  if dsl.isAllBlank then .error (.problem (.rejected .nothingToCompile))
  else c.request .post "/reactflow" (.json (.object [("dsl", .string dsl)]))

/-- The message of a refusal to compile: the body, if there is one. -/
def compileRefusal (status : Int) (body : Bytes) : RawText :=
  .ofString (orElseText (Text.Utf8.decode body) (withStatus "Compile failed: " status))

/-- The topology of a compilation. -/
def compiled (c : Client) (body : Bytes) : Except Failure Topology :=
  match c.document? body with
  | .error f => .error f
  | .ok none => .error (.problem (.unusable .compileJson))
  | .ok (some v) => match (v.get? "react_flow").bind Json.object? with
    | some graph => .ok (.ofGraph graph)
    | none => .error (.problem (.unusable .compileGraph))

/-- Read the reply to a request to compile. -/
def readCompiled (c : Client) (reply : Reply) : Except Failure Topology :=
  (reply.granted c fun status body => .ok (compileRefusal status body)).bind (compiled c)

/-! ## Converting -/

/-- The file that carries a decoded text to be converted. -/
def upload (content : Bytes) : Upload where
  disposition := "form-data; name=\"file\"; filename=\"input.xml\""
  contentType := "application/xml"
  content

/-- The request to convert a decoded text, which is written as octets first. -/
def convertRequest (c : Client) (xml : RawText) : Except Failure Request :=
  match Text.Utf8.encode? xml with
  | some content => c.request .post "/api/convert" (.upload (upload content))
  | none => .error .unpaired

/-- The message of a refusal to convert: the error that a document in the body tells of, the body
itself if it is no document, or the status. -/
def convertRefusal (c : Client) (status : Int) (body : Bytes) : Except Failure RawText :=
  (c.document? body).map fun
    | none =>
      .ofString (orElseText (Text.Utf8.decode body) "Conversion failed without specific error.")
    | some v => match (v.get? "error").filter Json.isSubstantial with
      | some error => error.message
      | none => .ofString (withStatus "Conversion failed: " status)

/-- The description and the topology of a conversion; both must be there, and the description not
empty. -/
def converted (c : Client) (body : Bytes) : Except Failure Conversion :=
  match c.document? body with
  | .error f => .error f
  | .ok none => .error (.problem (.unusable .conversionJson))
  | .ok (some v) =>
    match (v.get? "dsl").bind Json.string?, (v.get? "react_flow").bind Json.object? with
    | some dsl, some graph =>
      if dsl.isEmpty then .error (.problem (.unusable .conversionData))
      else .ok ⟨dsl, .ofGraph graph⟩
    | _, _ => .error (.problem (.unusable .conversionData))

/-- Read the reply to a request to convert. -/
def readConverted (c : Client) (reply : Reply) : Except Failure Conversion :=
  (reply.granted c (convertRefusal c)).bind (converted c)

end Compiler
end Topograph
