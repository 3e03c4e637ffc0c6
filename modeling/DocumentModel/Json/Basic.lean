import DocumentModel.Number.Binary64

/-!
# JSON values

A number is an integer or a binary fraction, and the two never compare equal: `1` and `1.0` are
different values. The fields of an object are kept sorted by key with every key once, so that two
objects with the same fields are the same list; `insertField` keeps that order.
-/

namespace DocumentModel

/-- A number of a JSON value: a 64-bit integer, or a finite binary fraction. -/
inductive JsonNumber
  | integer (value : Int)
  | fraction (value : Binary64)
  deriving DecidableEq, Repr

/-- Numbers of different kinds differ, and fractions are compared as numbers. -/
def JsonNumber.same : JsonNumber → JsonNumber → Bool
  | .integer a, .integer b => a == b
  | .fraction a, .fraction b => a.same b
  | _, _ => false

/-- The nearest binary fraction. -/
def JsonNumber.toBinary64 : JsonNumber → Binary64
  | .integer value => Binary64.ofInt value
  | .fraction value => value

inductive Json
  | null
  | bool (value : Bool)
  | number (value : JsonNumber)
  | string (value : String)
  | array (items : List Json)
  | object (fields : List (String × Json))
  deriving Repr

namespace Json

def ofInt (value : Int) : Json := .number (.integer value)

def ofNat (value : Nat) : Json := .number (.integer value)

/-! ## Objects -/

/-- Puts a field at its place in the order of keys, in place of one with the same key. -/
def insertField {α : Type} (key : String) (value : α) : List (String × α) → List (String × α)
  | [] => [(key, value)]
  | (k, v) :: rest =>
    if key < k then (key, value) :: (k, v) :: rest
    else if key = k then (key, value) :: rest
    else (k, v) :: insertField key value rest

/-- The fields in the order of their keys; of two with one key the later counts. -/
def sortFields {α : Type} (fields : List (String × α)) : List (String × α) :=
  fields.foldl (fun sorted field => insertField field.1 field.2 sorted) []

/-- The value of the first field with the key. -/
def findField? {α : Type} (key : String) : List (String × α) → Option α
  | [] => none
  | (k, v) :: rest => if k = key then some v else findField? key rest

/-- An object with the given fields, in the order of their keys. -/
def ofFields (fields : List (String × Json)) : Json := .object (sortFields fields)

/-! ## Equality -/

mutual

/-- Structural equality, with numbers compared by `JsonNumber.same`. -/
def same : Json → Json → Bool
  | .null, .null => true
  | .bool a, .bool b => a == b
  | .number a, .number b => a.same b
  | .string a, .string b => a == b
  | .array as, .array bs => sameItems as bs
  | .object as, .object bs => sameFields as bs
  | _, _ => false

def sameItems : List Json → List Json → Bool
  | [], [] => true
  | a :: as, b :: bs => same a b && sameItems as bs
  | _, _ => false

def sameFields : List (String × Json) → List (String × Json) → Bool
  | [], [] => true
  | (k, a) :: as, (l, b) :: bs => k == l && same a b && sameFields as bs
  | _, _ => false

end

/-- Whether a list holds a value, by `same`. -/
def isIn (value : Json) (values : List Json) : Bool := values.any (·.same value)

/-! ## Order of keys -/

mutual

/-- The same value with the fields of every object in the order of their keys. -/
def sorted : Json → Json
  | .array items => .array (sortedItems items)
  | .object fields => .object (sortFields (sortedFields fields))
  | .null => .null
  | .bool value => .bool value
  | .number value => .number value
  | .string value => .string value

def sortedItems : List Json → List Json
  | [] => []
  | item :: rest => sorted item :: sortedItems rest

def sortedFields : List (String × Json) → List (String × Json)
  | [] => []
  | (key, value) :: rest => (key, sorted value) :: sortedFields rest

end

/-! ## Views -/

def isNull : Json → Bool
  | .null => true
  | _ => false

def isBool : Json → Bool
  | .bool _ => true
  | _ => false

def isInteger : Json → Bool
  | .number (.integer _) => true
  | _ => false

def string? : Json → Option String
  | .string value => some value
  | _ => none

def number? : Json → Option JsonNumber
  | .number value => some value
  | _ => none

def array? : Json → Option (List Json)
  | .array items => some items
  | _ => none

def object? : Json → Option (List (String × Json))
  | .object fields => some fields
  | _ => none

/-- The value of a field of an object. -/
def field? (value : Json) (key : String) : Option Json :=
  match value with
  | .object fields => findField? key fields
  | _ => none

/-- The name of the type of a value. -/
def typeName : Json → String
  | .null => "null"
  | .bool _ => "boolean"
  | .number _ => "number"
  | .string _ => "string"
  | .array _ => "array"
  | .object _ => "object"

end Json

end DocumentModel
