import DocumentModel.Class.Declaring
import DocumentModel.Compile.Model

/-!
# Bundled models

The models that the command line shows: users with embedded addresses, and posts, which share the
fields of every stored document.
-/

namespace DocumentModel

namespace Bundle

/-- The document types. -/
inductive DocumentType
  | entity
  | address
  | user
  | post
  deriving DecidableEq, Repr

namespace DocumentType

def all : List DocumentType := [.entity, .address, .user, .post]

def name : DocumentType → String
  | .entity => "Entity"
  | .address => "Address"
  | .user => "User"
  | .post => "Post"

def ofName? (name : String) : Option DocumentType := all.find? fun t => t.name == name

end DocumentType

/-- Declares fields one after the other. -/
def declare (owner : ClassId)
    (fields : List (String × List (FieldDeclarer → Registry → Registry))) : Declaring Unit :=
  Declaring.change fun r => fields.foldl
    (fun r f => f.2.foldl (fun r call => call ⟨owner, f.1⟩ r) r) r

/-! ## Types -/

/-- Fields of every stored document. -/
def entityClass : Declaring ClassId :=
  Declaring.resolve DocumentType.entity.name (pure none) fun id => declare id [
    ("createdAt", [(·.date), (·.index { direction := some (.number (-1)) })]),
    ("updatedAt", [(·.date), (·.details { optional := true })])]

def addressClass : Declaring ClassId :=
  Declaring.resolve DocumentType.address.name (pure none) fun id => declare id [
    ("street", [(·.string {}), (·.index { exclude := true })]),
    ("city", [(·.string {}), (·.index {})]),
    ("zip", [(·.string { minLength := some 5, maxLength := some 10 }),
      (·.details { optional := true })])]

def userClass : Declaring ClassId :=
  Declaring.resolve DocumentType.user.name (some <$> entityClass) fun id => do
    let embedded ← addressClass
    declare id [
      ("email", [(·.string { format := some .email }), (·.index { unique := true })]),
      ("name", [(·.string { minLength := some 1 })]),
      ("age", [(·.numeric .int { minimum := some Binary64.zero }),
        (·.details { optional := true })]),
      ("role", [(·.enumeration ["admin", "member", "guest"]),
        (·.details { defaultValue := some (.string "member") })]),
      ("address", [(·.object (some embedded)), (·.details { nullable := true }),
        (·.index { sparse := true, passthrough := true })]),
      ("tags", [(·.set (some (.builtin .string)) {})])]

def postClass : Declaring ClassId :=
  Declaring.resolve DocumentType.post.name (some <$> entityClass) fun id => declare id [
    ("title", [(·.string { maxLength := some 200 })]),
    ("author", [(·.objectId), (·.index {})]),
    ("body", [(·.string {}), (·.details { description := some "Markdown source" })]),
    ("published", [(·.bool), (·.details { defaultValue := some (.bool false) })]),
    ("expiresAt", [(·.date), (·.details { optional := true }),
      (·.index { expireAfterSeconds := some 0 })])]

/-- The class of a document type. -/
def DocumentType.resolve : DocumentType → Declaring ClassId
  | .entity => entityClass
  | .address => addressClass
  | .user => userClass
  | .post => postClass

/-! ## Registered models -/

/-- A document type with the collection it is stored in. -/
structure Registration where
  name : String
  collection : String
  type : DocumentType

/-- The registered models, sorted by name. -/
def registrations : List Registration :=
  [⟨"Post", "posts", .post⟩, ⟨"User", "users", .user⟩]

def byName? (name : String) : Option Registration := registrations.find? (·.name = name)

def byCollection? (collection : String) : Option Registration :=
  registrations.find? (·.collection = collection)

/-- Looks a model up by its name, then by its collection. -/
def find? (key : String) : Option Registration := byName? key <|> byCollection? key

/-- The model of a document type in a registry of its own. -/
def model (type : DocumentType) : Except SchemaError Model :=
  let (id, registry, _) := type.resolve.run ({}, {})
  ((Model.build registry id none).run.run {}).1

end Bundle

end DocumentModel
