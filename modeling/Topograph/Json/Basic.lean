import Topograph.Number.Basic
import Topograph.Text.Raw

/-!
# JSON documents

A document as a tree. An object keeps its keys in order of first arrival and holds each at most
once; a key that arrives again takes the new value at its old place. Numbers keep their kind,
integer or binary. Strings and keys are raw texts, since escapes can spell halves of surrogate
pairs; a document without them is ordinary.
-/
namespace Topograph

inductive Json where
  | null
  | bool (b : Bool)
  | number (n : Number)
  | string (s : RawText)
  | array (items : List Json)
  | object (fields : List (RawText × Json))
  deriving Inhabited, Repr

namespace Json

/-! ## Equality -/

mutual

/-- The two documents are equal, with their keys in the same order. -/
def same : Json → Json → Bool
  | .null, .null => true
  | .bool a, .bool b => a == b
  | .number m, .number n => decide (m = n)
  | .string s, .string t => s == t
  | .array vs, .array ws => sameItems vs ws
  | .object vs, .object ws => sameFields vs ws
  | _, _ => false

/-- The elements are equal, one by one. -/
def sameItems : List Json → List Json → Bool
  | [], [] => true
  | v :: vs, w :: ws => same v w && sameItems vs ws
  | _, _ => false

/-- The fields are equal, one by one. -/
def sameFields : List (RawText × Json) → List (RawText × Json) → Bool
  | [], [] => true
  | f :: vs, g :: ws => f.1 == g.1 && same f.2 g.2 && sameFields vs ws
  | _, _ => false

end

mutual

theorem eq_of_same : ∀ v w : Json, same v w = true → v = w
  | .null, w, h => by cases w <;> simp_all [same]
  | .bool _, w, h => by cases w <;> simp_all [same]
  | .number _, w, h => by cases w <;> simp_all [same]
  | .string _, w, h => by cases w <;> simp_all [same]
  | .array vs, w, h => by
    cases w with
    | array ws => rw [eq_of_sameItems vs ws (by simpa [same] using h)]
    | _ => simp [same] at h
  | .object vs, w, h => by
    cases w with
    | object ws => rw [eq_of_sameFields vs ws (by simpa [same] using h)]
    | _ => simp [same] at h

theorem eq_of_sameItems : ∀ vs ws : List Json, sameItems vs ws = true → vs = ws
  | [], ws, h => by cases ws <;> simp_all [sameItems]
  | v :: vs, ws, h => by
    cases ws with
    | nil => simp [sameItems] at h
    | cons w ws =>
      rw [sameItems, Bool.and_eq_true] at h
      rw [eq_of_same v w h.1, eq_of_sameItems vs ws h.2]

theorem eq_of_sameFields : ∀ vs ws : List (RawText × Json), sameFields vs ws = true → vs = ws
  | [], ws, h => by cases ws <;> simp_all [sameFields]
  | (key, v) :: vs, ws, h => by
    cases ws with
    | nil => simp [sameFields] at h
    | cons g ws =>
      rw [sameFields, Bool.and_eq_true, Bool.and_eq_true, beq_iff_eq] at h
      obtain ⟨⟨hkey, hvalue⟩, hrest⟩ := h
      rw [eq_of_sameFields vs ws hrest, Prod.ext hkey (eq_of_same v g.2 hvalue)]

end

mutual

theorem same_self : ∀ v : Json, same v v = true
  | .null | .bool _ | .number _ | .string _ => by simp [same]
  | .array vs => by rw [same, sameItems_self vs]
  | .object vs => by rw [same, sameFields_self vs]

theorem sameItems_self : ∀ vs : List Json, sameItems vs vs = true
  | [] => rfl
  | v :: vs => by rw [sameItems, same_self v, sameItems_self vs]; rfl

theorem sameFields_self : ∀ vs : List (RawText × Json), sameFields vs vs = true
  | [] => rfl
  | (key, v) :: vs => by
    rw [sameFields, same_self v, sameFields_self vs, beq_self_eq_true]; rfl

end

theorem same_iff_eq {v w : Json} : same v w = true ↔ v = w :=
  ⟨eq_of_same v w, fun h => h ▸ same_self v⟩

instance : DecidableEq Json := fun _ _ => decidable_of_iff _ same_iff_eq

/-! ## Parts of a document -/

/-- The value under a key, if the document is an object that has it. -/
def get? (key : RawText) : Json → Option Json
  | .object fields => fields.lookup key
  | _ => none

/-- The fields of an object; any other document has none. -/
def fields : Json → List (RawText × Json)
  | .object fields => fields
  | _ => []

/-- Write a value under a key: in place if the key is there, else at the end. -/
def setField (key : RawText) (value : Json) : List (RawText × Json) → List (RawText × Json)
  | [] => [(key, value)]
  | (k, v) :: rest => if k = key then (k, value) :: rest else (k, v) :: setField key value rest

/-- The object that results from the fields arriving in this order. -/
def ofArrivals (arrivals : List (RawText × Json)) : Json :=
  .object (arrivals.foldl (fun fields f => setField f.1 f.2 fields) [])

def string? : Json → Option RawText
  | .string s => some s
  | _ => none

def bool? : Json → Option Bool
  | .bool b => some b
  | _ => none

/-- An object, as such. -/
def object? : Json → Option Json
  | .object fields => some (.object fields)
  | _ => none

/-- The elements of an array; any other document has none. -/
def items : Json → List Json
  | .array items => items
  | _ => []

/-- An integer as a document. -/
def int (n : Int) : Json := .number (.int n)

/-! ## Truth -/

/-- The value carries something: null, false, zero, and what is empty do not. -/
def isSubstantial : Json → Bool
  | .null => false
  | .bool b => b
  | .number (.int n) => n != 0
  | .number (.float x) => !x.isZero
  | .string s => !s.isEmpty
  | .array items => !items.isEmpty
  | .object fields => !fields.isEmpty

/-! ## Ordinary documents -/

mutual

/-- No text of the document has a half that stands alone. -/
def isOrdinary : Json → Bool
  | .string s => s.isOrdinary
  | .array items => areOrdinary items
  | .object fields => fieldsAreOrdinary fields
  | _ => true

def areOrdinary : List Json → Bool
  | [] => true
  | v :: rest => isOrdinary v && areOrdinary rest

def fieldsAreOrdinary : List (RawText × Json) → Bool
  | [] => true
  | f :: rest => f.1.isOrdinary && isOrdinary f.2 && fieldsAreOrdinary rest

end

mutual

/-- Every number of the document is finite. -/
def isFinite : Json → Bool
  | .number (.float x) => x.isFinite
  | .array items => areFinite items
  | .object fields => fieldsAreFinite fields
  | _ => true

def areFinite : List Json → Bool
  | [] => true
  | v :: rest => isFinite v && areFinite rest

def fieldsAreFinite : List (RawText × Json) → Bool
  | [] => true
  | f :: rest => isFinite f.2 && fieldsAreFinite rest

end

mutual

/-- The document without the fields of some names, at every depth. -/
def dropFields (drop : RawText → Bool) : Json → Json
  | .array items => .array (dropFieldsItems drop items)
  | .object fields => .object (dropFieldsFields drop fields)
  | v => v

def dropFieldsItems (drop : RawText → Bool) : List Json → List Json
  | [] => []
  | v :: rest => dropFields drop v :: dropFieldsItems drop rest

def dropFieldsFields (drop : RawText → Bool) : List (RawText × Json) → List (RawText × Json)
  | [] => []
  | f :: rest =>
    if drop f.1 then dropFieldsFields drop rest
    else (f.1, dropFields drop f.2) :: dropFieldsFields drop rest

end

mutual

/-- How many arrays and objects are open at once where the document nests deepest. -/
def depth : Json → Nat
  | .array items => depthOfItems items + 1
  | .object fields => depthOfFields fields + 1
  | _ => 0

def depthOfItems : List Json → Nat
  | [] => 0
  | v :: rest => max (depth v) (depthOfItems rest)

def depthOfFields : List (RawText × Json) → Nat
  | [] => 0
  | f :: rest => max (depth f.2) (depthOfFields rest)

end

/-! ## Laws -/

theorem setField_of_not_mem {key : RawText} {value : Json} {fields : List (RawText × Json)}
    (h : key ∉ fields.map Prod.fst) : setField key value fields = fields ++ [(key, value)] := by
  induction fields with
  | nil => rfl
  | cons f rest ih =>
    simp only [List.map_cons, List.mem_cons, not_or] at h
    rw [setField, if_neg (Ne.symm h.1), ih h.2, List.cons_append]

end Json
end Topograph
