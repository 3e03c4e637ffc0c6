import DocumentModel.Document.BsonType
import DocumentModel.Json.Basic

/-!
# Validator documents

A document states rules on stored values: every rule that is present must hold, and a document
without rules accepts everything. `written` is the document as a JSON value with its rules in a
fixed order, and `toJson` the same with all keys sorted.
-/

namespace DocumentModel

/-- Rules for the items of a list: one document for every item, or one for each of the first. -/
inductive ItemRules (α : Type)
  | every (document : α)
  | each (documents : List α)

/-- What is allowed beyond the declared part: anything, nothing, or what a document accepts. -/
inductive Extra (α : Type)
  | allowed (value : Bool)
  | schema (document : α)

structure Document where
  title : Option String := none
  description : Option String := none
  bsonType : Option BsonTypes := none
  enumeration : Option (List Json) := none
  multipleOf : Option JsonNumber := none
  minimum : Option JsonNumber := none
  exclusiveMinimum : Option Bool := none
  maximum : Option JsonNumber := none
  exclusiveMaximum : Option Bool := none
  minLength : Option Nat := none
  maxLength : Option Nat := none
  pattern : Option String := none
  items : Option (ItemRules Document) := none
  additionalItems : Option (Extra Document) := none
  minItems : Option Nat := none
  maxItems : Option Nat := none
  uniqueItems : Option Bool := none
  required : Option (List String) := none
  /-- Sorted by key. -/
  properties : Option (List (String × Document)) := none
  additionalProperties : Option (Extra Document) := none
  allOf : Option (List Document) := none
  anyOf : Option (List Document) := none
  oneOf : Option (List Document) := none
  no : Option Document := none

namespace Document

/-- The document that asks for a type. -/
def typed (types : BsonTypes) : Document := { bsonType := some types }

def ofType (type : BsonType) : Document := typed (.one type)

/-- The document that accepts nothing. -/
def nothing : Document := { no := some {} }

/-- Whether a document has no rule at all. -/
def isEmpty : Document → Bool
  | ⟨none, none, none, none, none, none, none, none, none, none, none, none, none, none, none, none,
      none, none, none, none, none, none, none, none⟩ => true
  | _ => false

/-! ## Writing -/

/-- A field that is left out when its value is absent. -/
def field? (key : String) (value : Option Json) : List (String × Json) :=
  match value with
  | some v => [(key, v)]
  | none => []

mutual

/-- The document as an object with its rules in the order of the fields of `Document`. -/
def written : Document → Json
  | ⟨title, description, bsonType, enumeration, multipleOf, minimum, exclusiveMinimum, maximum,
      exclusiveMaximum, minLength, maxLength, pattern, items, additionalItems, minItems, maxItems,
      uniqueItems, required, properties, additionalProperties, allOf, anyOf, oneOf, no⟩ =>
    .object (
      field? "title" (title.map Json.string)
      ++ field? "description" (description.map Json.string)
      ++ field? "bsonType" (bsonType.map BsonTypes.toJson)
      ++ field? "enum" (enumeration.map Json.array)
      ++ field? "multipleOf" (multipleOf.map Json.number)
      ++ field? "minimum" (minimum.map Json.number)
      ++ field? "exclusiveMinimum" (exclusiveMinimum.map Json.bool)
      ++ field? "maximum" (maximum.map Json.number)
      ++ field? "exclusiveMaximum" (exclusiveMaximum.map Json.bool)
      ++ field? "minLength" (minLength.map Json.ofNat)
      ++ field? "maxLength" (maxLength.map Json.ofNat)
      ++ field? "pattern" (pattern.map Json.string)
      ++ field? "items" (writtenItems items)
      ++ field? "additionalItems" (writtenExtra additionalItems)
      ++ field? "minItems" (minItems.map Json.ofNat)
      ++ field? "maxItems" (maxItems.map Json.ofNat)
      ++ field? "uniqueItems" (uniqueItems.map Json.bool)
      ++ field? "required" (required.map fun keys => .array (keys.map Json.string))
      ++ field? "properties" (writtenProperties properties)
      ++ field? "additionalProperties" (writtenExtra additionalProperties)
      ++ field? "allOf" (writtenDocuments allOf)
      ++ field? "anyOf" (writtenDocuments anyOf)
      ++ field? "oneOf" (writtenDocuments oneOf)
      ++ field? "not" (writtenSome no))

def writtenItems : Option (ItemRules Document) → Option Json
  | none => none
  | some (.every d) => some d.written
  | some (.each ds) => some (.array (writtenList ds))

def writtenExtra : Option (Extra Document) → Option Json
  | none => none
  | some (.allowed b) => some (.bool b)
  | some (.schema d) => some d.written

def writtenProperties : Option (List (String × Document)) → Option Json
  | none => none
  | some ps => some (.object (writtenFields ps))

def writtenDocuments : Option (List Document) → Option Json
  | none => none
  | some ds => some (.array (writtenList ds))

def writtenSome : Option Document → Option Json
  | none => none
  | some d => some d.written

def writtenList : List Document → List Json
  | [] => []
  | d :: rest => d.written :: writtenList rest

def writtenFields : List (String × Document) → List (String × Json)
  | [] => []
  | (key, d) :: rest => (key, d.written) :: writtenFields rest

end

/-- The document as a value, with its keys sorted. -/
def toJson (d : Document) : Json := d.written.sorted

/-- The value that a collection is given as its validator. -/
def validator (d : Document) : Json := .object [("$jsonSchema", d.toJson)]

/-! ## Document ids -/

/-- Whether keys beyond the declared ones are refused. -/
def isClosed (d : Document) : Bool :=
  match d.additionalProperties with
  | some (.allowed false) => true
  | _ => false

/-- Declares and requires the key `_id` where undeclared keys are refused. -/
def withId (d : Document) : Document :=
  if d.isClosed then
    let properties := d.properties.getD []
    let required := d.required.getD []
    { d with
      properties := some (if (Json.findField? "_id" properties).isSome then properties
        else Json.insertField "_id" (ofType .objectId) properties)
      required := some (if required.contains "_id" then required else "_id" :: required) }
  else d

end Document

end DocumentModel
