import Topograph.Json.Reader
import Topograph.Json.Writer
import Topograph.Network.Topology
import Topograph.Problem

/-!
# The content of a snippet

A snippet's content holds the description and the compiled graph together, so that opening it
never compiles again. A graph is written only if its identifiers have texts and all its texts are
ordinary. Content that is no document, or a document without both parts, is unusable.
-/
namespace Topograph.Envelope

/-- The document of a description and its graph. -/
def document (dsl : RawText) (graph : Json) : Json :=
  .object [("dsl", .string dsl), ("reactFlow", graph)]

/-- The content for a description and a topology. -/
def encode (dsl : RawText) (t : Topology) : Except Failure String :=
  match t.toGraph? with
  | none => .error .unwritable
  | some graph => match (document dsl graph).write? with
    | some content => .ok content
    | none => .error .unstorable

/-- The description and the topology in a document. -/
def ofJson? (v : Json) : Option (RawText × Topology) := do
  let dsl ← (v.get? "dsl").bind Json.string?
  let graph ← (v.get? "reactFlow").bind Json.object?
  return (dsl, .ofGraph graph)

/-- The description and the topology in a content. -/
def parse (headroom : Json.Headroom) (content : RawText) : Except Failure (RawText × Topology) :=
  match Json.read headroom content with
  | .error .tooDeep => .error .tooDeep
  | .error _ => .error (.problem (.unusable .contentJson))
  | .ok v => match ofJson? v with
    | some r => .ok r
    | none => .error (.problem (.unusable .contentData))

end Topograph.Envelope
