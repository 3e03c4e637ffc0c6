import DocumentModel.Json.Basic

/-!
# Storage types

The names of the types a stored value can have, and one or several such types as alternatives.
-/

namespace DocumentModel

/-- The types of stored values. -/
inductive BsonType
  | array
  | binData
  | bool
  | date
  | decimal
  | double
  | int
  | javascript
  | javascriptWithScope
  | long
  | maxKey
  | minKey
  | null
  | number
  | object
  | objectId
  | regex
  | string
  | timestamp
  deriving DecidableEq, Repr

namespace BsonType

/-- All types, in the order of their names. -/
def all : List BsonType :=
  [.array, .binData, .bool, .date, .decimal, .double, .int, .javascript, .javascriptWithScope,
   .long, .maxKey, .minKey, .null, .number, .object, .objectId, .regex, .string, .timestamp]

def name : BsonType → String
  | .array => "array"
  | .binData => "binData"
  | .bool => "bool"
  | .date => "date"
  | .decimal => "decimal"
  | .double => "double"
  | .int => "int"
  | .javascript => "javascript"
  | .javascriptWithScope => "javascriptWithScope"
  | .long => "long"
  | .maxKey => "maxKey"
  | .minKey => "minKey"
  | .null => "null"
  | .number => "number"
  | .object => "object"
  | .objectId => "objectId"
  | .regex => "regex"
  | .string => "string"
  | .timestamp => "timestamp"

/-- The list of types leaves none out. -/
theorem mem_all (t : BsonType) : t ∈ all := by cases t <;> decide

def ofName? (name : String) : Option BsonType := all.find? fun t => t.name == name

end BsonType

/-- One type, or a list of alternatives. -/
inductive BsonTypes
  | one (type : BsonType)
  | many (types : List BsonType)
  deriving DecidableEq, Repr

namespace BsonTypes

/-- A list with one entry is that one type. -/
def ofList : List BsonType → BsonTypes
  | [type] => .one type
  | types => .many types

def toList : BsonTypes → List BsonType
  | .one type => [type]
  | .many types => types

theorem toList_ofList (types : List BsonType) : (ofList types).toList = types := by
  unfold ofList; split <;> rfl

def toJson : BsonTypes → Json
  | .one type => .string type.name
  | .many types => .array (types.map fun t => .string t.name)

end BsonTypes

end DocumentModel
