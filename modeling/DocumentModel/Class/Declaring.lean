import DocumentModel.Class.Registry

/-!
# Declaring classes

Declarations change a registry and draw on the numbers for classes. A document type declares its
base and its fields the first time it is resolved in a registry, and is known there by its name from
then on. `FieldDeclarer` has a method for each way of giving a field its type.
-/

namespace DocumentModel

/-- A declaration: a step on a registry and the numbers for classes. -/
abbrev Declaring := StateM (Registry × ClassNumbers)

/-- Applies a change to the registry. -/
def Declaring.change (f : Registry → Registry) : Declaring Unit :=
  modify fun s => (f s.1, s.2)

/-! ## Document types -/

/-- Whether the class can be the base of one that is given this number: a declared class was given
its number before. -/
def ClassId.isOlder (number : Nat) : ClassId → Bool
  | .builtin _ => true
  | .declared n => n < number

/-- The entry of a class whose base is not looked up in the registry. A class has its number before
another can be given it as a base, so a base with a later number does not occur and is left out. -/
def ClassEntry.ofBase (number : Nat) (name : String) (base : Option ClassId) : ClassEntry where
  number := number
  name := name
  base := base.filter (·.isOlder number)
  base_lt n h := by
    have holder := (Option.filter_eq_some_iff.mp h).2
    simpa [ClassId.isOlder] using holder

/-- Records a class for a document type under the next number, whether or not this registry knows
its base. -/
def Declaring.addDocument (name : String) (base : Option ClassId) : Declaring ClassId := do
  let (registry, numbers) ← get
  let id := ClassId.declared numbers.next
  let classes := registry.classes ++ [.ofBase numbers.next name base]
  let documents := registry.documents ++ [(name, id)]
  set ({ registry with classes := classes, documents := documents },
    ({ next := numbers.next + 1 } : ClassNumbers))
  pure id

/-- The class of a document type, which is declared on first use; its number is recorded before its
fields are declared. Declaring the base may lead back to the type, which is then declared
already. -/
def Declaring.resolve (name : String) (base : Declaring (Option ClassId))
    (declareFields : ClassId → Declaring Unit) : Declaring ClassId := do
  match (← get).1.documents.lookup name with
  | some id => pure id
  | none =>
    let base ← base
    match (← get).1.documents.lookup name with
    | some id => pure id
    | none =>
      let id ← addDocument name base
      declareFields id
      pure id

/-! ## Fields -/

/-- A field being declared. -/
structure FieldDeclarer where
  owner : ClassId
  field : String

namespace FieldDeclarer

def typed (d : FieldDeclarer) (tag : TypeTag) (options : TypeOptions) (r : Registry) : Registry :=
  r.setType d.owner d.field tag options

def any (d : FieldDeclarer) : Registry → Registry := d.typed .any (.any none)

/-- Any value, stored with a type. -/
def anyOfType (d : FieldDeclarer) (type : BsonType) : Registry → Registry :=
  d.typed .any (.any (some type))

def objectId (d : FieldDeclarer) : Registry → Registry := d.anyOfType .objectId

def binData (d : FieldDeclarer) : Registry → Registry := d.anyOfType .binData

def timestamp (d : FieldDeclarer) : Registry → Registry := d.anyOfType .timestamp

def raw (d : FieldDeclarer) (schema : Node) : Registry → Registry := d.typed .raw (.raw schema)

def bool (d : FieldDeclarer) : Registry → Registry := d.typed .bool .none

def date (d : FieldDeclarer) : Registry → Registry := d.typed .date .none

def bigInt (d : FieldDeclarer) : Registry → Registry := d.typed .bigInt .none

def string (d : FieldDeclarer) (options : StringOptions) : Registry → Registry :=
  d.typed .string (.string options)

def number (d : FieldDeclarer) (options : NumberOptions) : Registry → Registry :=
  d.typed .number (.number options)

/-- A number of the given type, whatever the options say. -/
def numeric (d : FieldDeclarer) (type : NumericType) (options : NumberOptions) :
    Registry → Registry :=
  d.number { options with numericType := some type }

def enumeration (d : FieldDeclarer) (values : List String) : Registry → Registry :=
  d.typed .enumeration (.enumeration values)

def nativeEnum (d : FieldDeclarer) (members : List EnumMember) : Registry → Registry :=
  d.typed .nativeEnum (.nativeEnum members)

def object (d : FieldDeclarer) (class? : Option ClassId) : Registry → Registry :=
  d.typed .object (.object class?)

def array (d : FieldDeclarer) (items : Option ClassId) (bounds : Bounds) : Registry → Registry :=
  d.typed .array (.array items bounds)

def set (d : FieldDeclarer) (items : Option ClassId) (bounds : Bounds) : Registry → Registry :=
  d.typed .set (.set items bounds)

def map (d : FieldDeclarer) (keys values : Option ClassId) : Registry → Registry :=
  d.typed .map (.map keys values)

def details (d : FieldDeclarer) (details : FieldDetails) (r : Registry) : Registry :=
  r.setDetails d.owner d.field details

def index (d : FieldDeclarer) (index : IndexSpec) (r : Registry) : Registry :=
  r.setIndex d.owner d.field index

end FieldDeclarer

end DocumentModel
