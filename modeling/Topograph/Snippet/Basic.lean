import Topograph.Time.Reader

/-!
# Snippets

A snippet is a saved topology: a title, an opaque content, and the identifier and the timestamp
that the store assigned. A draft is what is sent to the store to be saved.
-/
namespace Topograph

structure Snippet where
  id : Int
  title : RawText
  content : RawText
  createdAt : Timestamp
  deriving DecidableEq, Repr

/-- A snippet that the store has not yet assigned an identifier to. -/
structure Draft where
  title : RawText
  content : RawText
  deriving DecidableEq, Repr, Inhabited

namespace Snippet

/-- The document of a snippet, as stores write it. -/
def toJson (s : Snippet) : Json :=
  .object [("id", .int s.id), ("title", .string s.title), ("content", .string s.content),
    ("created_at", .string s.createdAt.text)]

end Snippet

def Draft.toJson (d : Draft) : Json :=
  .object [("title", .string d.title), ("content", .string d.content)]

namespace Validation
open Checked

def snippet (o : Origin) : Json → Checked Snippet :=
  record .modelType fun v =>
    (((join (.ok Snippet.mk) (required v "id" int)).join
      (required v "title" text)).join
      (required v "content" text)).join
      (required v "created_at" (Timestamp.check o))

/-- A draft; what is no object has the given fault. -/
def draft (fault : Fault) : Json → Checked Draft :=
  record fault fun v =>
    (join (.ok Draft.mk) (required v "title" text)).join (required v "content" text)

end Validation
end Topograph
