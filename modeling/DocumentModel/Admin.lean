import DocumentModel.Compile.Model

/-!
# Applying models to a database

A database is what answers the six commands of `CollectionAdmin`, with a state of its own and errors
of its own. `ensureValidator` and `ensureIndexes` issue as few commands as will do, one after the
other, and the first error ends them.
-/

namespace DocumentModel

/-- A command on a database with state `σ` and errors `ε`. -/
abbrev Command (σ ε α : Type) := ExceptT ε (StateM σ) α

structure CollectionAdmin (σ ε : Type) where
  collectionExists : String → Command σ ε Bool
  /-- Creates a collection with a validator. -/
  createCollection : String → Json → Command σ ε Unit
  /-- The validator of a collection, if it has one. -/
  collectionValidator : String → Command σ ε (Option Json)
  modifyValidator : String → Json → Command σ ε Unit
  dropIndexes : String → Command σ ε Unit
  createIndexes : String → List IndexDescription → Command σ ε Unit

/-- What had to be done for a collection to have its validator. -/
inductive ValidatorAction
  | created
  | updated
  | unchanged
  deriving DecidableEq, Repr

namespace CollectionAdmin

variable {σ ε : Type}

/-- Makes sure that a collection exists and has exactly this validator. -/
def ensureValidator (db : CollectionAdmin σ ε) (collection : String) (validator : Json) :
    Command σ ε ValidatorAction := do
  if ← db.collectionExists collection then
    let current ← db.collectionValidator collection
    if current.any (·.same validator) then pure .unchanged
    else
      db.modifyValidator collection validator
      pure .updated
  else
    db.createCollection collection validator
    pure .created

/-- Creates indexes, after dropping those that exist if asked to. An empty list is not sent. -/
def ensureIndexes (db : CollectionAdmin σ ε) (collection : String) (indexes : List IndexDescription)
    (dropExisting : Bool) : Command σ ε Unit := do
  if dropExisting then db.dropIndexes collection
  if indexes.isEmpty then pure () else db.createIndexes collection indexes

/-- Applies the validator and the indexes of a model. A model without a document issues nothing. -/
def ensureModel (db : CollectionAdmin σ ε) (ofSchema : SchemaError → ε) (collection : String)
    (model : Model) (dropExisting : Bool) : Command σ ε ValidatorAction := do
  match model.validator? with
  | .error e => throw (ofSchema e)
  | .ok validator =>
    let action ← db.ensureValidator collection validator
    db.ensureIndexes collection model.indexes dropExisting
    pure action

end CollectionAdmin

end DocumentModel
