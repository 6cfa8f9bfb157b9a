import Topograph.Address.Basic

/-!
# The routes of an archive

A request names its resource by a path, in which percent escapes stand for the octets of UTF-8: the
root, all snippets, one snippet, or a page of the manual. The path of a fixed resource may end in
one line feed.
-/
namespace Topograph.Archive

/-- A resource that requests can be about. -/
inductive Route where
  | root
  | snippets
  /-- one snippet, named by the text of a segment -/
  | snippet (name : String)
  /-- a page about the archive itself -/
  | manual
  deriving DecidableEq, Repr

namespace Route

/-- A path without its escapes; the empty path is the root. -/
def path (escaped : String) : String := Address.unescaped (if escaped = "" then "/" else escaped)

/-- The resources whose paths are fixed. -/
def fixedPaths : List (String × Route) :=
  [("/", .root), ("/snippets", .snippets), ("/openapi.json", .manual), ("/docs", .manual),
    ("/docs/oauth2-redirect", .manual), ("/redoc", .manual)]

/-- The path without a line feed at its end. -/
def dropLineEnd (path : String) : String :=
  match path.toList.getLast? with
  | some '\n' => String.ofList path.toList.dropLast
  | _ => path

/-- The name of a snippet in a path. -/
def snippetName? (path : String) : Option String :=
  match path.toList.splitOn '/' with
  | [[], stem, name] =>
    if stem = "snippets".toList ∧ name ≠ [] then some (String.ofList name) else none
  | _ => none

/-- The resource of a path. -/
def ofPath? (path : String) : Option Route :=
  (fixedPaths.lookup (dropLineEnd path)).orElse fun _ => (snippetName? path).map .snippet

/-- The path names a resource once the slashes at its end are dropped. -/
def isNearMiss (path : String) : Bool :=
  let cs := path.toList.reverse
  cs.head? == some '/' && (ofPath? (String.ofList (cs.dropWhile (· == '/')).reverse)).isSome

end Route
end Topograph.Archive
