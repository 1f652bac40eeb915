/-
JSON values whose objects keep the order of insertion.

The operations are those of a JSON library that throws: `field`, `valueOr` and
the conversions fail with the text of the library's exception.  Numbers are kept
as the library keeps them, signed or unsigned machine integers or floating point
numbers, of which only the kind is recorded.

* `put` — sets a field, at its old place or at the end;
* `lookup_put` — what is found after that.
-/
import Mathlib

namespace OrderedJson

/-- JSON values. -/
inductive Json where
  | null
  | boolean (value : Bool)
  | integer (value : Int64)
  | unsigned (value : UInt64)
  | floating
  | string (value : String)
  | array (items : List Json)
  | object (fields : List (String × Json))

namespace Json

/-- The name of the kind of a value, as exceptions give it. -/
def typeName : Json → String
  | null => "null"
  | boolean _ => "boolean"
  | string _ => "string"
  | array _ => "array"
  | object _ => "object"
  | _ => "number"

/-- The value of a field, if the value is an object that has it. -/
def lookup (json : Json) (key : String) : Option Json :=
  match json with
  | object fields => fields.lookup key
  | _ => none

def contains (json : Json) (key : String) : Bool := (json.lookup key).isSome

/-- Is the value an object? -/
def isObject : Json → Bool
  | object _ => true
  | _ => false

/-- `at`. -/
def field (json : Json) (key : String) : Except String Json :=
  match json with
  | object fields =>
    match fields.lookup key with
    | some value => .ok value
    | none => .error ("[json.exception.out_of_range.403] key '" ++ key ++ "' not found")
  | _ => .error ("[json.exception.type_error.304] cannot use at() with " ++ json.typeName)

/-- The exception of a conversion. -/
def typeMismatch (expected : String) (json : Json) : String :=
  "[json.exception.type_error.302] type must be " ++ expected ++ ", but is " ++ json.typeName

/-- Conversion to a text. -/
def getString : Json → Except String String
  | string value => .ok value
  | json => .error (typeMismatch "string" json)

/-- Conversion to a truth value. -/
def getBool : Json → Except String Bool
  | boolean value => .ok value
  | json => .error (typeMismatch "boolean" json)

/-- Conversion to an array. -/
def getArray : Json → Except String (List Json)
  | array items => .ok items
  | json => .error (typeMismatch "array" json)

/-- Conversion of an integer to an unsigned one, which wraps. -/
def getUnsigned : Json → Except String UInt64
  | unsigned value => .ok value
  | integer value => .ok value.toUInt64
  | json => .error (typeMismatch "number" json)

/-- The integer a number stands for. -/
def toInt? : Json → Option Int
  | integer value => some value.toInt
  | unsigned value => some value.toNat
  | _ => none

/-- `value`: a text field or a default. -/
def valueOr (json : Json) (key default : String) : Except String String :=
  match json with
  | object fields =>
    match fields.lookup key with
    | some value => value.getString
    | none => .ok default
  | _ => .error ("[json.exception.type_error.306] cannot use value() with " ++ json.typeName)

end Json

/-! ### Setting fields -/

/-- Set a field. -/
def put (key : String) (value : Json) : List (String × Json) → List (String × Json)
  | [] => [(key, value)]
  | (other, old) :: fields =>
    if other = key then (key, value) :: fields else (other, old) :: put key value fields

theorem lookup_field (key key' : String) (value : Json) (fields : List (String × Json)) :
    ((key, value) :: fields).lookup key' =
      if key' = key then some value else fields.lookup key' := by
  by_cases h : key' = key
  · rw [if_pos h, h, List.lookup_cons_self]
  · have hne : (key' == key) = false := beq_false_of_ne h
    rw [if_neg h, List.lookup_cons, hne]

theorem lookup_put (key key' : String) (value : Json) (fields : List (String × Json)) :
    (put key value fields).lookup key' = if key' = key then some value else fields.lookup key' := by
  induction fields with
  | nil => exact lookup_field key key' value []
  | cons entry fields ih =>
    obtain ⟨other, old⟩ := entry
    by_cases hother : other = key
    · subst hother
      rw [put, if_pos rfl, lookup_field, lookup_field]
      by_cases h : key' = other <;> simp [h]
    · rw [put, if_neg hother, lookup_field, lookup_field, ih]
      by_cases h : key' = other
      · have hne : key' ≠ key := fun heq => hother (h.symm.trans heq)
        rw [if_pos h, if_neg hne, if_pos h]
      · rw [if_neg h, if_neg h]

namespace Json

@[simp] theorem field_object_put (key : String) (value : Json) (fields : List (String × Json)) :
    (object (put key value fields)).field key = .ok value := by
  simp [field, lookup_put]

theorem field_object_put_ne {key key' : String} (h : key' ≠ key) (value : Json)
    (fields : List (String × Json)) :
    (object (put key value fields)).field key' = (object fields).field key' := by
  simp [field, lookup_put, h]

end Json

end OrderedJson
