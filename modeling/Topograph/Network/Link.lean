import Topograph.Network.Identifier

/-!
# Links

A link joins two devices by their identifiers. It is an ordered pair, drawn without a direction;
an endpoint that cannot be read is zero, which may belong to no device.
-/
namespace Topograph

structure Link where
  source : Int
  target : Int
  deriving DecidableEq, Repr, Inhabited

namespace Link

/-- The link of a graph edge record. -/
def ofRecord (record : Json) : Link where
  source := Identifier.read ((record.get? "source").getD .null) 0
  target := Identifier.read ((record.get? "target").getD .null) 0

/-- The graph edge record of a link; an endpoint past the digit limit has none. -/
def toRecord? (l : Link) : Option Json := do
  let source ← Number.integerText? l.source
  let target ← Number.integerText? l.target
  return .object [("source", .string source), ("target", .string target)]

/-- The device is an endpoint of the link. -/
def touches (l : Link) (id : Int) : Bool := l.source == id || l.target == id

end Link
end Topograph
