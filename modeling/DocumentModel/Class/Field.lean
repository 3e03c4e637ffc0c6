import DocumentModel.Class.Id
import DocumentModel.Document.BsonType
import DocumentModel.Index.Description
import DocumentModel.Schema.Node

/-!
# Field declarations

A field has a tag, which chooses how its node is made, with options for it; details that wrap the
node; and perhaps an index. All of them may be given one after the other, and nothing is checked
before the class is compiled.
-/

namespace DocumentModel

/-! ## Types -/

inductive TypeTag
  | any
  | raw
  | bool
  | string
  | number
  | bigInt
  | date
  | enumeration
  | nativeEnum
  | object
  | array
  | set
  | map
  deriving DecidableEq, Repr

namespace TypeTag

def all : List TypeTag :=
  [.any, .raw, .bool, .string, .number, .bigInt, .date, .enumeration, .nativeEnum, .object, .array,
   .set, .map]

def name : TypeTag → String
  | .any => "Any"
  | .raw => "Raw"
  | .bool => "Bool"
  | .string => "String"
  | .number => "Number"
  | .bigInt => "BigInt"
  | .date => "Date"
  | .enumeration => "Enum"
  | .nativeEnum => "NativeEnum"
  | .object => "Object"
  | .array => "Array"
  | .set => "Set"
  | .map => "Map"

def ofName? (name : String) : Option TypeTag := all.find? fun t => t.name == name

/-- The tags whose fields refer to other classes. -/
def isContainer : TypeTag → Bool
  | .object | .array | .set | .map => true
  | _ => false

end TypeTag

/-- What a string must look like; the last three only name a storage type. -/
inductive StringFormat
  | email
  | url
  | uuid
  | cuid
  | objectId
  | binData
  | timestamp
  deriving DecidableEq, Repr

namespace StringFormat

def all : List StringFormat := [.email, .url, .uuid, .cuid, .objectId, .binData, .timestamp]

def name : StringFormat → String
  | .email => "email"
  | .url => "url"
  | .uuid => "uuid"
  | .cuid => "cuid"
  | .objectId => "objectId"
  | .binData => "binData"
  | .timestamp => "timestamp"

def ofName? (name : String) : Option StringFormat := all.find? fun f => f.name == name

end StringFormat

inductive NumericType
  | int
  | long
  | double
  | decimal
  deriving DecidableEq, Repr

namespace NumericType

def all : List NumericType := [.int, .long, .double, .decimal]

def name : NumericType → String
  | .int => "int"
  | .long => "long"
  | .double => "double"
  | .decimal => "decimal"

def ofName? (name : String) : Option NumericType := all.find? fun t => t.name == name

end NumericType

structure StringOptions where
  minLength : Option Nat := none
  maxLength : Option Nat := none
  pattern : Option Pattern := none
  format : Option StringFormat := none

structure NumberOptions where
  numericType : Option NumericType := none
  minimum : Option Binary64 := none
  maximum : Option Binary64 := none
  multipleOf : Option Binary64 := none
  exclusiveMinimum : Bool := false
  exclusiveMaximum : Bool := false

inductive TypeOptions
  | none
  | any (bsonType : Option BsonType)
  | raw (schema : Node)
  | string (options : StringOptions)
  | number (options : NumberOptions)
  | enumeration (values : List String)
  | nativeEnum (members : List EnumMember)
  | object (class? : Option ClassId)
  | array (items : Option ClassId) (bounds : Bounds)
  | set (items : Option ClassId) (bounds : Bounds)
  | map (keys values : Option ClassId)

namespace TypeOptions

def name : TypeOptions → String
  | .none => "no"
  | .any _ => "any"
  | .raw _ => "raw"
  | .string _ => "string"
  | .number _ => "number"
  | .enumeration _ => "enum"
  | .nativeEnum _ => "nativeEnum"
  | .object _ => "object"
  | .array .. => "array"
  | .set .. => "set"
  | .map .. => "map"

/-- The classes that a field refers to. -/
def references : TypeOptions → List ClassId
  | .object class? => class?.toList
  | .array items _ | .set items _ => items.toList
  | .map keys values => keys.toList ++ values.toList
  | _ => []

end TypeOptions

/-! ## Declarations -/

structure FieldDetails where
  optional : Bool := false
  nullable : Bool := false
  defaultValue : Option Json := none
  description : Option String := none

structure FieldDeclaration where
  name : String
  tag : Option TypeTag := none
  options : TypeOptions := .none
  details : Option FieldDetails := none
  index : Option IndexSpec := none

end DocumentModel
