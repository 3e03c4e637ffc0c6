import DocumentModel.Compile.Indexes
import DocumentModel.Compile.Schema
import DocumentModel.Document.Translate
import DocumentModel.Schema.Check

/-!
# Models

A model is a class with its node and its indexes, from which the validator document of its
collection and the check of its documents come.
-/

namespace DocumentModel

structure Model where
  id : ClassId
  name : String
  node : Node
  indexes : List IndexDescription

namespace Model

/-- Compiles a class; a description replaces that of its node. -/
def build (r : Registry) (id : ClassId) (description : Option String) : Build Model := do
  let node ← buildNode r id
  let node := match description with
    | some text => node.describe text
    | none => node
  let indexes ← buildIndexes r id none
  pure ⟨id, r.displayName id, node, indexes⟩

/-- The document of a model, under a title if one is given. -/
def document? (m : Model) (title : Option String) : Except SchemaError Document :=
  match m.node.titledDocument? title with
  | .ok d => .ok d
  | .error e => .error (.unsupportedType e.kind)

/-- The validator for the collection of a model. -/
def validator? (m : Model) : Except SchemaError Json := Document.validator <$> m.document? none

/-- The conformed document, or what is wrong with it. -/
def parse (m : Model) (value : Json) : Except SchemaError Json :=
  match m.node.parse value with
  | .ok parsed => .ok parsed
  | .error issues => .error (.validation issues)

end Model

end DocumentModel
