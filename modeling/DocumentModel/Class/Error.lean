import DocumentModel.Class.Field
import DocumentModel.Schema.Issue

/-!
# Errors

What can go wrong while classes are declared, compiled, translated and used. Each error carries what
it is about, and `message` puts it into words.
-/

namespace DocumentModel

inductive SchemaError
  /-- A field has options or details but no tag. -/
  | typeMissing (path : String)
  /-- A tag and options that do not go together. -/
  | builderMissing (path : String) (tag : TypeTag) (options : TypeOptions)
  /-- A class that is needed to build itself. -/
  | circularReference (path : String)
  | invalidDirection (direction : DirectionSpec)
  /-- An ancestor that is no object. -/
  | unexpectedNodeShape (className kind : String)
  /-- A node without a validator document. -/
  | unsupportedType (kind : String)
  | unknownClass (id : ClassId)
  | unknownBase (base : ClassId) (name : String)
  | validation (issues : List Issue)

namespace SchemaError

/-- The words for an error, with the given words for a class. -/
def messageWith (classText : ClassId → String) : SchemaError → String
  | .typeMissing path => "no type declared at \"" ++ path ++ "\""
  | .builderMissing path tag options =>
    "no schema builder for " ++ tag.name ++ " with " ++ options.name ++ " options at \"" ++ path
      ++ "\""
  | .circularReference path => "circular reference detected at \"" ++ path ++ "\""
  | .invalidDirection direction => "invalid index direction: " ++ direction.text
  | .unexpectedNodeShape className kind =>
    "unexpected schema type for class " ++ className ++ ": " ++ kind
  | .unsupportedType kind => "no JSON schema translation for " ++ kind ++ " nodes"
  | .unknownClass id => "invalid class provided: class " ++ classText id ++ " is not registered"
  | .unknownBase base name =>
    "invalid class provided: unknown base class " ++ classText base ++ " for " ++ name
  | .validation _ => "validation failed"

def message (e : SchemaError) : String := e.messageWith ClassId.text

end SchemaError

end DocumentModel
