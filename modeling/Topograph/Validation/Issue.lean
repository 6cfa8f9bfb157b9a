import Topograph.Json.Basic

/-!
# Issues of a value

Strict models are read from a document field by field. Each field that does not fit leaves an
issue, with the path to it; the issues of all fields are gathered in the order in which the model
declares them, and the model is there only if there are none.
-/
namespace Topograph.Validation

/-- What is wrong with a value. -/
inductive Fault where
  | missing
  | modelType
  | modelAttributesType
  | listType
  | stringType
  | stringUnicode
  | boolType
  | boolParsing
  | intType
  | intParsing
  | intParsingSize
  | intFromFloat
  | finiteNumber
  | floatType
  | floatParsing
  | datetimeType
  | datetimeParsing
  | datetimeFromDateParsing
  | jsonInvalid
  deriving DecidableEq, Repr

/-- The word for a fault in an answer. -/
def Fault.word : Fault → String
  | .missing => "missing"
  | .modelType => "model_type"
  | .modelAttributesType => "model_attributes_type"
  | .listType => "list_type"
  | .stringType => "string_type"
  | .stringUnicode => "string_unicode"
  | .boolType => "bool_type"
  | .boolParsing => "bool_parsing"
  | .intType => "int_type"
  | .intParsing => "int_parsing"
  | .intParsingSize => "int_parsing_size"
  | .intFromFloat => "int_from_float"
  | .finiteNumber => "finite_number"
  | .floatType => "float_type"
  | .floatParsing => "float_parsing"
  | .datetimeType => "datetime_type"
  | .datetimeParsing => "datetime_parsing"
  | .datetimeFromDateParsing => "datetime_from_date_parsing"
  | .jsonInvalid => "json_invalid"

/-- One step of the path to a value: a field, an element, or a character of a text. -/
inductive Step where
  | field (name : String)
  | index (i : Nat)
  deriving DecidableEq, Repr

structure Issue where
  fault : Fault
  path : List Step := []
  deriving DecidableEq, Repr

/-- A value, or the issues that stand against it. -/
abbrev Checked (α : Type) := Except (List Issue) α

/-- How a value reaches a model: straight from the text of a document, or held by the program. The
rules differ for integers that do not fit a word. -/
inductive Origin where
  | document
  | held
  deriving DecidableEq, Repr

namespace Checked

/-- The value has this fault, at its own place. -/
def fail {α : Type} (fault : Fault) : Checked α := .error [{ fault }]

/-- The issues of a part are issues of the whole, one step further down. -/
def below {α : Type} (step : Step) : Checked α → Checked α
  | .ok a => .ok a
  | .error issues => .error (issues.map fun i => { i with path := step :: i.path })

/-- Join two parts; the issues of both count, those of the first one first. -/
def join {α β : Type} (f : Checked (α → β)) (a : Checked α) : Checked β :=
  match f, a with
  | .ok f, .ok a => .ok (f a)
  | .error e, .ok _ => .error e
  | .ok _, .error e => .error e
  | .error e, .error e' => .error (e ++ e')

/-- Check the elements of a list from the index `i` on, each by its own rule and below its index. -/
def elements {α : Type} (rule : Nat → Json → Checked α) (i : Nat) : List Json → Checked (List α)
  | [] => .ok []
  | v :: rest =>
    join (match below (.index i) (rule i v) with
      | .ok a => .ok (a :: ·)
      | .error e => .error e) (elements rule (i + 1) rest)

/-- Check a list; what is no list has that fault. -/
def listAt {α : Type} (rule : Nat → Json → Checked α) : Json → Checked (List α)
  | .array items => elements rule 0 items
  | _ => fail .listType

/-- Check a list all of whose elements have the same rule. -/
def list {α : Type} (rule : Json → Checked α) : Json → Checked (List α) := listAt fun _ => rule

/-- Check a field that may be absent. -/
def optional {α : Type} (record : Json) (name : String) (rule : Json → Checked α) (default : α) :
    Checked α :=
  match record.get? name with
  | some v => below (.field name) (rule v)
  | none => .ok default

/-- Check a field that must be there. -/
def required {α : Type} (record : Json) (name : String) (rule : Json → Checked α) : Checked α :=
  match record.get? name with
  | some v => below (.field name) (rule v)
  | none => below (.field name) (fail .missing)

/-- Check an object; anything else has the given fault. -/
def record {α : Type} (fault : Fault) (rule : Json → Checked α) : Json → Checked α
  | .object fields => rule (.object fields)
  | _ => fail fault

end Checked
end Topograph.Validation
