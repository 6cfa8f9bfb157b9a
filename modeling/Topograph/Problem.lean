import Topograph.Validation.Issue

/-!
# Problems and failures

A problem is something that the user is told about: a service out of reach, an answer that refuses
or cannot be used, an input rejected before anything is sent, an action that has to wait, or a
device that is not there. Each has one message. A failure ends a call; apart from problems it may
be a value that a model rejects, or that a text, a table, a header, a document or an address cannot
take, or a document that nests too deep to be read or shown.
-/
namespace Topograph

/-- The services that the workbench talks to. -/
inductive Service where
  | compiler
  | decoder
  | store
  deriving DecidableEq, Repr, Inhabited

/-- How messages call a service. -/
def Service.title : Service → String
  | .compiler => "compiler"
  | .decoder => "decode service"
  | .store => "snippet store"

/-- What made an answer or a stored content unusable. -/
inductive Unusable where
  | compileJson
  | compileGraph
  | conversionJson
  | conversionData
  | encodedPayload
  | compressedPayload
  | snippet
  | snippetList
  | contentJson
  | contentData
  deriving DecidableEq, Repr

def Unusable.message : Unusable → String
  | .compileJson => "Compile service returned invalid JSON."
  | .compileGraph => "Compile result is missing expected data (react_flow)."
  | .conversionJson => "Conversion service returned invalid JSON."
  | .conversionData => "Conversion result is missing expected data (dsl or react_flow)."
  | .encodedPayload => "Decode service returned invalid data."
  | .compressedPayload => "Decode service returned data that is not valid compressed XML."
  | .snippet => "Snippet store returned an invalid snippet."
  | .snippetList => "Snippet store returned an invalid snippet list."
  | .contentJson => "Failed to parse topology data."
  | .contentData => "Selected topology data is corrupted or in an incompatible format."

/-- Why an input was rejected before anything was sent. -/
inductive Rejection where
  | nothingToCompile
  | noTitle
  | nothingToSave
  deriving DecidableEq, Repr

def Rejection.message : Rejection → String
  | .nothingToCompile => "Nothing to compile: DSL text is empty."
  | .noTitle => "Please enter a title before saving."
  | .nothingToSave => "Nothing to save: DSL text is empty."

/-- The actions that have to wait while another one is in flight. -/
inductive Action where
  | decode
  | compile
  | save
  | list
  | delete
  | load
  | selectFile
  deriving DecidableEq, Repr

def Action.phrase : Action → String
  | .decode => "decode"
  | .compile => "compile"
  | .save => "save"
  | .list => "list saved topologies"
  | .delete => "delete"
  | .load => "load"
  | .selectFile => "select a file"

/-- What the user is told about. -/
inductive Problem where
  /-- The service at this address could not be reached. -/
  | unreachable (service : Service) (address reason : RawText)
  /-- The service answered with a status of failure. -/
  | refused (message : RawText) (status : Int) (body : String)
  | unusable (what : Unusable)
  | rejected (why : Rejection)
  | busy (action : Action)
  | noDevice (id : Int)
  deriving DecidableEq, Repr

def Problem.message : Problem → RawText
  | .unreachable service address reason =>
    .ofString ("Failed to connect to " ++ service.title ++ " at ") ++ address ++ .ofString ": "
      ++ reason
  | .refused message _ _ => message
  | .unusable what => .ofString what.message
  | .rejected why => .ofString why.message
  | .busy action =>
    .ofString ("Cannot " ++ action.phrase ++ " while another operation is in progress.")
  | .noDevice id => .ofString ("Device not found: " ++ Number.integerText id)

/-- Why a call ended without a result. -/
inductive Failure where
  | problem (p : Problem)
  /-- A model does not accept its values. -/
  | invalid (issues : List Validation.Issue)
  /-- An integer past the digit limit has no text. -/
  | unwritable
  /-- An identifier does not fit the 64 bits of a table key. -/
  | keyOutOfRange
  /-- The table has not been created. -/
  | noTable
  /-- A header cannot carry a token with a character that is not ASCII. -/
  | tokenNotAscii
  /-- A text with half of a pair that stands alone has no octets. -/
  | unpaired
  /-- A content cannot hold such a text. -/
  | unstorable
  /-- A response cannot show a number that is not finite. -/
  | notFinite
  /-- A document nests deeper than there is headroom for. -/
  | tooDeep
  /-- The address of a request is none. -/
  | badAddress
  /-- The address of a request names no host. -/
  | noHost
  deriving DecidableEq, Repr

/-- What a call leaves behind, and how it ended. -/
abbrev Outcome (σ α : Type) := σ × Except Failure α

/-- The text of an integer that has to be written. -/
def Failure.integerText (n : Int) : Except Failure String :=
  match Number.integerText? n with
  | some s => .ok s
  | none => .error .unwritable

end Topograph
