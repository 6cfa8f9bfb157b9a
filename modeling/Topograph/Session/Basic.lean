import Topograph.Canvas.Editor
import Topograph.Service.Compiler
import Topograph.Service.Decoder
import Topograph.Snippet.Listing

/-!
# The editing session

A session owns the description, the live graph, the topology as last compiled, decoded or opened,
the listing of saved topologies, one busy flag and one error message. Compiling replaces the graph,
but editing the graph never touches the description or the compiled topology.

This module holds the actions that end at once. Only choosing a file looks at the busy flag: text
and graph may be edited while a command is in flight.
-/
namespace Topograph

/-- A file that has been chosen to be decoded. -/
structure ChosenFile where
  name : String
  content : Bytes
  deriving DecidableEq, Repr

/-- The services of a session. -/
structure Services where
  compiler : Client
  decoder : Client
  store : Client
  deriving DecidableEq, Repr

/-- The services at their addresses. The decode service is open to all, so only the compiler and
the store get the token. -/
def Services.ofAddresses (compiler decoder store : RawText) (token : Option String) :
    Services where
  compiler := .ofAddress .compiler compiler token
  decoder := .ofAddress .decoder decoder none
  store := .ofAddress .store store token

structure Session where
  services : Services
  editor : Editor := {}
  dsl : RawText := ""
  /-- The topology as last compiled, decoded or opened. -/
  compiled : Option Topology := none
  title : RawText := ""
  file : Option ChosenFile := none
  listing : Listing := []
  busy : Bool := false
  error : Option RawText := none
  deriving DecidableEq, Repr

namespace Session

/-- The name of the chosen file, or the empty text. -/
def fileName (s : Session) : String := (s.file.map (·.name)).getD ""

/-- Take over a description and its topology, in place of whatever was there. -/
def install (s : Session) (dsl : RawText) (t : Topology) : Outcome Session Unit :=
  let (editor, ended) := s.editor.replace t
  ({ s with dsl, compiled := some t, editor }, ended)

/-- Drop the graph and the compiled topology. -/
def clearGraph (s : Session) : Session := { s with compiled := none, editor := .clear }

/-- Drop the description, the graph and the compiled topology. -/
def clear (s : Session) : Session := { s.clearGraph with dsl := "" }

/-! ## Text and file -/

/-- Replace the description. The graph stays until the next compilation. -/
def editDsl (s : Session) (text : RawText) : Session := { s with dsl := text }

def setTitle (s : Session) (title : RawText) : Session := { s with title }

def dismissError (s : Session) : Session := { s with error := none }

/-- Choose the file to decode, unless a command is in flight. -/
def chooseFile (s : Session) (file : ChosenFile) : Outcome Session Unit :=
  if s.busy then (s, .error (.problem (.busy .selectFile)))
  else ({ s with file := some file, error := none }, .ok ())

/-! ## Edits of the graph -/

/-- An edit of the graph leaves the rest of the session alone. -/
def afterEdit {α : Type} (s : Session) (edit : Outcome Editor α) : Outcome Session α :=
  ({ s with editor := edit.1 }, edit.2)

def selectDevice (s : Session) (id : Int) : Outcome Session Device :=
  s.afterEdit (s.editor.select id)

def dismissDevice (s : Session) : Session := { s with editor := s.editor.dismiss }

def deleteDevice (s : Session) (id : Int) (confirm : Option (Device → Bool)) :
    Outcome Session Bool :=
  s.afterEdit (s.editor.delete id confirm)

def moveDevice (s : Session) (id : Int) (x y : Json) : Outcome Session Device :=
  s.afterEdit (s.editor.move id x y)

end Session
end Topograph
