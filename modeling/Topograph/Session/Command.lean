import Topograph.Session.Basic
import Topograph.Service.Store

/-!
# The commands of a session

A command may need services. It starts, and either ends at once or waits for the reply to one
request; each reply resumes it, until it ends. In between, the actions that end at once may change
the session. One busy flag keeps any second command out: it is set when a command starts its work
and released on every way out. A problem ends a command with a message in the session; any other
failure ends it with that failure.
-/
namespace Topograph

/-- What a user can ask for that takes the busy flag. -/
inductive Command where
  | decode
  | compile
  | save (title : Option RawText)
  | refresh
  | deleteSnippet (id : Int)
  | openSnippet (snippet : Snippet)
  deriving DecidableEq, Repr

/-- The name of a command in messages. -/
def Command.action : Command → Action
  | .decode => .decode
  | .compile => .compile
  | .save _ => .save
  | .refresh => .list
  | .deleteSnippet _ => .delete
  | .openSnippet _ => .load

/-- What a command answers. -/
inductive Answer where
  | done (success : Bool)
  | saved (snippet : Option Snippet)
  | listed (snippets : List Snippet)
  deriving DecidableEq, Repr

/-- What a command in flight waits for. -/
inductive Pending where
  /-- the decoded text of the chosen file -/
  | decode
  /-- the conversion of a decoded text -/
  | convert
  | compile
  | save
  | refresh
  | deleteSnippet (id : Int)
  deriving DecidableEq, Repr

/-- A command has ended, or it waits for the reply to a request. -/
inductive Progress where
  | ended (result : Except Failure Answer)
  | waiting (request : Request) (pending : Pending)
  deriving Repr

namespace Session

/-- Set the busy flag and drop the last message. -/
def occupy (s : Session) : Session := { s with busy := true, error := none }

/-- Release the busy flag and end. -/
def finish (s : Session) (result : Except Failure Answer) : Session × Progress :=
  ({ s with busy := false }, .ended result)

/-- End with a failure: a problem is reported and the command answers; anything else goes to the
caller. -/
def fail (s : Session) (f : Failure) (fallback : Session → Session) (answer : Answer) :
    Session × Progress :=
  match f with
  | .problem p => (fallback { s with error := some p.message }).finish (.ok answer)
  | f => s.finish (.error f)

/-- Wait for the reply to a request that could be made. -/
def await (s : Session) (request : Except Failure Request) (pending : Pending)
    (fallback : Session → Session) (answer : Answer) : Session × Progress :=
  match request with
  | .ok r => (s, .waiting r pending)
  | .error f => s.fail f fallback answer

/-- Install what a command has brought, and answer that it succeeded. -/
def finishInstall (o : Outcome Session Unit) : Session × Progress :=
  o.1.finish (o.2.map fun _ => .done true)

/-! ## Starting -/

/-- Start decoding: the description and the graph are cleared first and stay so if a step fails. -/
def startDecode (s : Session) (file : ChosenFile) : Session × Progress :=
  s.clear.await (Decoder.request s.services.decoder file.content) .decode clear (.done false)

def startCompile (s : Session) : Session × Progress :=
  s.await (Compiler.compileRequest s.services.compiler s.dsl) .compile clearGraph (.done false)

/-- Start saving the description with the topology as last compiled, or the empty topology. -/
def startSave (s : Session) : Session × Progress :=
  s.await (Listing.saveRequest s.services.store s.title s.dsl (s.compiled.getD {})) .save id
    (.saved none)

def startRefresh (s : Session) : Session × Progress :=
  s.await (Store.listRequest s.services.store) .refresh id (.listed s.listing)

def startDelete (s : Session) (snippet : Int) : Session × Progress :=
  s.await (Store.deleteRequest s.services.store snippet) (.deleteSnippet snippet) id (.done false)

/-- Open a snippet, which needs no service. A corrupt one leaves everything else as it was. Its
content has the headroom of the answers of the store. -/
def openSnippet (s : Session) (snippet : Snippet) : Session × Progress :=
  match Envelope.parse s.services.store.headroom snippet.content with
  | .error f => s.fail f id (.done false)
  | .ok (dsl, t) =>
    match s.install dsl t with
    | (s, .ok ()) => { s with title := snippet.title }.finish (.ok (.done true))
    | (s, .error f) => s.finish (.error f)

/-- The session in which a command is judged: a title given to save is set in any case. -/
def prepare (s : Session) : Command → Session
  | .save (some title) => s.setTitle title
  | _ => s

/-- A command that has nothing to work on: no chosen file, or a blank description. -/
def isIdle (s : Session) : Command → Bool
  | .decode => s.file.isNone
  | .compile => s.dsl.isAllBlank
  | _ => false

/-- The work of a command, under the busy flag. -/
def work (s : Session) : Command → Session × Progress
  | .decode => match s.file with
    | some file => s.startDecode file
    | none => s.finish (.ok (.done false))
  | .compile => s.startCompile
  | .save _ => s.startSave
  | .refresh => s.startRefresh
  | .deleteSnippet id => s.startDelete id
  | .openSnippet snippet => s.openSnippet snippet

/-- Start a command. One with nothing to work on ends before the busy flag is looked at; any other
is turned away while another command is in flight. -/
def start (s : Session) (c : Command) : Session × Progress :=
  let s := s.prepare c
  if s.isIdle c then (s, .ended (.ok (.done false)))
  else if s.busy then (s, .ended (.error (.problem (.busy c.action))))
  else s.occupy.work c

/-! ## Resuming -/

/-- End with what an exchange with the store has made of the listing. -/
def finishListing {α : Type} (s : Session) (o : Outcome Listing α) (good : α → Answer)
    (bad : Answer) : Session × Progress :=
  let s := { s with listing := o.1 }
  match o.2 with
  | .ok a => s.finish (.ok (good a))
  | .error f => s.fail f id bad

/-- Resume a command with the reply to its request. -/
def resume (s : Session) (pending : Pending) (reply : Reply) : Session × Progress :=
  match pending with
  | .decode =>
    match Decoder.readDecoded s.services.decoder reply with
    | .ok xml =>
      s.await (Compiler.convertRequest s.services.compiler xml) .convert clear (.done false)
    | .error f => s.fail f clear (.done false)
  | .convert =>
    match Compiler.readConverted s.services.compiler reply with
    | .ok conversion => finishInstall (s.install conversion.dsl conversion.topology)
    | .error f => s.fail f clear (.done false)
  | .compile =>
    match Compiler.readCompiled s.services.compiler reply with
    | .ok t => finishInstall (s.install s.dsl t)
    | .error f => s.fail f clearGraph (.done false)
  | .save => s.finishListing (s.listing.saved s.services.store reply) (fun s => .saved (some s))
      (.saved none)
  | .refresh => s.finishListing (s.listing.listed s.services.store reply) .listed
      (.listed s.listing)
  | .deleteSnippet id => s.finishListing (s.listing.deleted s.services.store id reply)
      (fun _ => .done true) (.done false)

end Session
end Topograph
