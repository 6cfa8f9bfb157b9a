import Topograph.Problem
import Topograph.Snippet.Basic

/-!
# The table of an archive

Rows of saved snippets, each under a key that is never used again: the table remembers the last key
it has given out, also when that row is deleted. A row is kept before it is read back as a snippet,
so a row with a timestamp that is none stays in the table and fails every reading of it. Rows hold
ordinary texts only.
-/
namespace Topograph

/-- A stored snippet; its timestamp is any text. -/
structure Row where
  id : Int
  title : String
  content : String
  createdAt : String
  deriving DecidableEq, Repr

structure Table where
  rows : List Row := []
  lastId : Int := 0
  deriving DecidableEq, Repr, Inhabited

/-- An archive, whose table may not have been created. -/
structure Archive where
  table : Option Table := none
  deriving DecidableEq, Repr, Inhabited

namespace Row

/-- The snippet in a row, if the timestamp is one. -/
def snippet (r : Row) : Except Failure Snippet :=
  (Validation.snippet .held (.object [("id", .int r.id), ("title", .string r.title),
    ("content", .string r.content), ("created_at", .string r.createdAt)])).mapError .invalid

/-- The order of a listing: the text of the timestamp, the greatest first, and then the key, the
greatest first. -/
def isListedBefore (r q : Row) : Bool :=
  q.createdAt < r.createdAt || (q.createdAt == r.createdAt && q.id ≤ r.id)

end Row

namespace Table

/-- The row of a draft under the next key, if all its texts are ordinary. -/
def nextRow? (t : Table) (d : Draft) (createdAt : RawText) : Option Row := do
  return {
    id := t.lastId + 1
    title := ← d.title.toString?
    content := ← d.content.toString?
    createdAt := ← createdAt.toString? }

/-- Add a row, whose key is the last one from now on. -/
def add (t : Table) (r : Row) : Table := { rows := t.rows ++ [r], lastId := r.id }

def row? (t : Table) (id : Int) : Option Row := t.rows.find? fun r => r.id == id

/-- The rows in the order of a listing. -/
def listed (t : Table) : List Row := t.rows.mergeSort Row.isListedBefore

def erase (t : Table) (id : Int) : Table := { t with rows := t.rows.filter fun r => r.id != id }

end Table

namespace Archive

/-- Create the table if there is none. -/
def create (a : Archive) : Archive := { table := some (a.table.getD {}) }

/-- The archive with an empty table. -/
def fresh : Archive := create {}

/-- The table, which must have been created. -/
def opened (a : Archive) : Except Failure Table :=
  match a.table with
  | some t => .ok t
  | none => .error .noTable

/-- The table for a statement about one key, which is a signed word. -/
def openedFor (a : Archive) (id : Int) : Except Failure Table :=
  a.opened.bind fun t => if Number.IsWord id then .ok t else .error .keyOutOfRange

/-- Store a draft. -/
def insert (a : Archive) (d : Draft) (createdAt : RawText) : Outcome Archive Snippet :=
  match a.opened with
  | .error f => (a, .error f)
  | .ok t => match t.nextRow? d createdAt with
    | none => (a, .error .unpaired)
    | some row => ({ table := some (t.add row) }, row.snippet)

/-- The snippet under a key. -/
def get (a : Archive) (id : Int) : Except Failure (Option Snippet) := do
  match (← a.openedFor id).row? id with
  | some row => return some (← row.snippet)
  | none => return none

/-- Every snippet, in the order of a listing. -/
def list (a : Archive) : Except Failure (List Snippet) := do
  (← a.opened).listed.mapM Row.snippet

/-- Drop the row under a key, if there is one. -/
def delete (a : Archive) (id : Int) : Outcome Archive Unit :=
  match a.openedFor id with
  | .error f => (a, .error f)
  | .ok t => ({ table := some (t.erase id) }, .ok ())

end Archive
end Topograph
