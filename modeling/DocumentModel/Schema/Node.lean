import DocumentModel.Json.Basic
import DocumentModel.Pattern.Basic
import DocumentModel.Schema.Shape

/-!
# Schema nodes

A node describes the values that are accepted at one place of a document. It has a kind and perhaps
a description, which may end in a type marker. Optional, nullable, default and refined nodes wrap
the node they apply to.
-/

namespace DocumentModel

/-! ## Checks on strings and numbers -/

inductive StringCheck
  | min (length : Nat)
  | max (length : Nat)
  | regex (pattern : Pattern)
  | email
  | url
  | uuid
  | cuid
  | startsWith (text : String)
  | endsWith (text : String)
  /-- Later checks, and the result, see the string without the white space around it. -/
  | trim

inductive NumberCheck
  | int
  | min (bound : Binary64) (inclusive : Bool)
  | max (bound : Binary64) (inclusive : Bool)
  | multipleOf (step : Binary64)
  deriving DecidableEq, Repr

/-! ## Parts of nodes -/

inductive EnumValue
  | string (value : String)
  | number (value : Int)
  deriving DecidableEq, Repr

def EnumValue.toJson : EnumValue → Json
  | .string value => .string value
  | .number value => Json.ofInt value

structure EnumMember where
  name : String
  value : EnumValue
  deriving DecidableEq, Repr

/-- What happens to keys that an object does not declare. -/
inductive UnknownKeys
  | strip
  | strict
  | passthrough
  deriving DecidableEq, Repr

namespace UnknownKeys

def all : List UnknownKeys := [.strip, .strict, .passthrough]

def name : UnknownKeys → String
  | .strip => "strip"
  | .strict => "strict"
  | .passthrough => "passthrough"

def ofName? (name : String) : Option UnknownKeys := all.find? fun u => u.name == name

end UnknownKeys

/-- How many elements a list may have. -/
structure Bounds where
  least : Option Nat := none
  most : Option Nat := none
  deriving DecidableEq, Repr

/-- A predicate that a value must satisfy, with the message for values that do not. -/
structure Refinement where
  message : String
  holds : Json → Bool

/-! ## Nodes -/

/-- The kinds of nodes, over the nodes they are made of. -/
inductive NodeKind (α : Type)
  | any
  | unknown
  | undefined
  | void
  | never
  | nan
  | null
  | boolean
  | date
  | bigInt
  /-- 24 hexadecimal digits, or an object that holds them under `$oid`; may be absent. -/
  | objectId
  | string (checks : List StringCheck)
  | number (checks : List NumberCheck)
  | literal (value : Json)
  | enumeration (values : List String)
  | nativeEnum (members : List EnumMember)
  /-- A catch-all node applies to every key not declared and overrides `unknownKeys`. -/
  | object (shape : List (String × α)) (unknownKeys : UnknownKeys) (catchall : Option α)
  | record (key value : α)
  | array (element : α) (bounds : Bounds)
  | tuple (items : List α) (rest : Option α)
  | set (element : α) (bounds : Bounds)
  /-- A list of pairs of a key and a value. -/
  | map (key value : α)
  | union (branches : List α)
  | intersection (left right : α)
  | optional (inner : α)
  | nullable (inner : α)
  | withDefault (inner : α) (value : Json)
  | refined (inner : α) (refinement : Refinement)

structure Node where
  kind : NodeKind Node
  description : Option String

/-- The name of a kind. -/
def NodeKind.name {α : Type} : NodeKind α → String
  | .any => "any"
  | .unknown => "unknown"
  | .undefined => "undefined"
  | .void => "void"
  | .never => "never"
  | .nan => "nan"
  | .null => "null"
  | .boolean => "boolean"
  | .date => "date"
  | .bigInt => "bigint"
  | .objectId => "objectId"
  | .string _ => "string"
  | .number _ => "number"
  | .literal _ => "literal"
  | .enumeration _ => "enum"
  | .nativeEnum _ => "nativeEnum"
  | .object .. => "object"
  | .record .. => "record"
  | .array .. => "array"
  | .tuple .. => "tuple"
  | .set .. => "set"
  | .map .. => "map"
  | .union _ => "union"
  | .intersection .. => "intersection"
  | .optional _ => "optional"
  | .nullable _ => "nullable"
  | .withDefault .. => "default"
  | .refined .. => "refined"

namespace Node

/-- A node without description. -/
def ofKind (kind : NodeKind Node) : Node := ⟨kind, none⟩

def any : Node := ofKind .any

def string : Node := ofKind (.string [])

def number : Node := ofKind (.number [])

/-- An object with the given properties that drops all other keys. -/
def ofShape (shape : Shape Node) : Node := ofKind (.object shape .strip none)

/-- An object without properties that keeps every key. -/
def openObject : Node := ofKind (.object [] .passthrough none)

/-- A list of any number of elements. -/
def arrayOf (element : Node) : Node := ofKind (.array element {})

def setOf (element : Node) : Node := ofKind (.set element {})

def mapOf (key value : Node) : Node := ofKind (.map key value)

/-- The same node with another description. -/
def describe (node : Node) (description : String) : Node :=
  { node with description := some description }

/-- The properties of an object node. -/
def shape? (node : Node) : Option (Shape Node) :=
  match node.kind with
  | .object shape _ _ => some shape
  | _ => none

/-- Whether the checks of a number node ask for an integer. -/
def isInt (checks : List NumberCheck) : Bool := checks.any (· = .int)

mutual

/-- Whether a key may be absent that has this node. -/
def acceptsMissing : Node → Bool
  | ⟨.optional _, _⟩ | ⟨.withDefault .., _⟩ | ⟨.any, _⟩ | ⟨.unknown, _⟩ | ⟨.objectId, _⟩
  | ⟨.undefined, _⟩ | ⟨.void, _⟩ => true
  | ⟨.nullable inner, _⟩ => inner.acceptsMissing
  | ⟨.refined inner _, _⟩ => inner.acceptsMissing
  | ⟨.union branches, _⟩ => anyAcceptsMissing branches
  | ⟨.intersection left right, _⟩ => left.acceptsMissing && right.acceptsMissing
  | _ => false

def anyAcceptsMissing : List Node → Bool
  | [] => false
  | node :: rest => node.acceptsMissing || anyAcceptsMissing rest

end

end Node

end DocumentModel
