import DocumentModel.Document.Translate
import DocumentModel.Proofs.Schema.Checking

/-!
# What a document accepts

A database reads a document as rules on a value: a rule that is absent asks for nothing, and a rule
about lists, objects, strings or numbers asks nothing of other values. `Reading.accepts` is that
reading. What the database itself decides is the content of a `Reading`: which values have a type,
where a pattern is found, and how numbers compare. A reading is `Reading.Standard` when the types
that nodes are translated to mean what the checks of the nodes mean.
-/

namespace DocumentModel

/-- The parts of reading a document that the database decides. -/
structure Reading where
  hasType : BsonType → Json → Bool
  finds : (pattern text : String) → Bool
  atMost : JsonNumber → JsonNumber → Bool
  isMultiple : (number step : JsonNumber) → Bool

/-- Whether no element equals another one. -/
def Json.allDistinct (values : List Json) : Bool :=
  decide (values.Pairwise fun v w => v.same w = false)

namespace Reading

variable (r : Reading)

/-! ## Rules without parts -/

/-- Bounds and steps. A bound that is exclusive is not met by a number that reaches it. -/
def numberRules (d : Document) (n : JsonNumber) : Bool :=
  d.minimum.all
    (fun bound => r.atMost bound n && !(d.exclusiveMinimum == some true && r.atMost n bound))
  && d.maximum.all
    (fun bound => r.atMost n bound && !(d.exclusiveMaximum == some true && r.atMost bound n))
  && d.multipleOf.all (r.isMultiple n)

/-- Lengths, which count characters, and the pattern. -/
def textRules (d : Document) (s : String) : Bool :=
  d.minLength.all (· ≤ s.length) && d.maxLength.all (s.length ≤ ·) && d.pattern.all (r.finds · s)

/-- Counts of elements, and whether elements may repeat. -/
def countRules (d : Document) (items : List Json) : Bool :=
  d.minItems.all (· ≤ items.length) && d.maxItems.all (items.length ≤ ·)
  && (d.uniqueItems != some true || Json.allDistinct items)

/-- The keys that must be there. -/
def keyRules (d : Document) (fields : List (String × Json)) : Bool :=
  d.required.all fun keys => keys.all fun key => (Json.findField? key fields).isSome

/-- The rules of a document that do not consist of documents. -/
def ownRules (d : Document) (v : Json) : Bool :=
  d.bsonType.all (fun types => types.toList.any (r.hasType · v))
  && d.enumeration.all (Json.isIn v)
  && v.number?.all (r.numberRules d)
  && v.string?.all (r.textRules d)
  && v.array?.all (countRules d)
  && v.object?.all (keyRules d)

/-! ## Reading -/

/-- The elements after those that have a document of their own. -/
def beyond : Option (ItemRules Document) → List Json → List Json
  | some (.each documents), elements => elements.drop documents.length
  | _, _ => []

mutual

/-- Whether a value meets every rule of a document. -/
def accepts : Document → Json → Bool
  | d@⟨_, _, _, _, _, _, _, _, _, _, _, _, items, additionalItems, _, _, _, _, properties,
      additionalProperties, allOf, anyOf, oneOf, no⟩, v =>
    r.ownRules d v
    && v.array?.all (fun elements => acceptsItems items elements
      && acceptsExtra additionalItems (beyond items elements))
    && v.object?.all (fun fields => acceptsProperties properties fields
      && acceptsExtra additionalProperties
        ((undeclared (properties.getD []) fields).map Prod.snd))
    && (verdicts? allOf v).all (·.all id)
    && (verdicts? anyOf v).all (·.any id)
    && (verdicts? oneOf v).all (·.count true == 1)
    && !(acceptsSome no v)

/-- Either all elements have to meet one document, or each of the first ones the document at its
place. -/
def acceptsItems : Option (ItemRules Document) → List Json → Bool
  | none, _ => true
  | some (.every d), elements => elements.all (accepts d)
  | some (.each documents), elements => acceptsEach documents elements

def acceptsEach : List Document → List Json → Bool
  | d :: documents, v :: elements => accepts d v && acceptsEach documents elements
  | _, _ => true

/-- What is allowed beyond the declared part. -/
def acceptsExtra : Option (Extra Document) → List Json → Bool
  | none, _ => true
  | some (.allowed b), others => b || others.isEmpty
  | some (.schema d), others => others.all (accepts d)

def acceptsProperties : Option (List (String × Document)) → List (String × Json) → Bool
  | none, _ => true
  | some declared, fields => acceptsFields declared fields

/-- Every declared key that is there has to meet its document. -/
def acceptsFields : List (String × Document) → List (String × Json) → Bool
  | [], _ => true
  | (key, d) :: rest, fields =>
    (Json.findField? key fields).all (accepts d) && acceptsFields rest fields

def acceptsSome : Option Document → Json → Bool
  | none, _ => false
  | some d, v => accepts d v

def verdicts? : Option (List Document) → Json → Option (List Bool)
  | none, _ => none
  | some documents, v => some (verdicts documents v)

/-- What each document says of the same value. -/
def verdicts : List Document → Json → List Bool
  | [], _ => []
  | d :: rest, v => accepts d v :: verdicts rest v

end

/-! ## Standard readings -/

/-- A reading by which the types of documents mean what the checks of nodes mean. -/
structure Standard : Prop where
  null (v : Json) : r.hasType .null v = v.isNull
  bool (v : Json) : r.hasType .bool v = v.isBool
  string (v : Json) : r.hasType .string v = v.string?.isSome
  object (v : Json) : r.hasType .object v = v.object?.isSome
  array (v : Json) : r.hasType .array v = v.array?.isSome
  number (v : Json) : r.hasType .number v = v.number?.isSome
  long (v : Json) : r.hasType .long v = v.isInteger
  date (v : Json) : r.hasType .date v = (checkDate v "").issues.isEmpty
  objectId (v : Json) : r.hasType .objectId v = (checkObjectId v "").issues.isEmpty

/-- A reading by which scalars have the types that literals are tagged with. -/
structure TypesScalars : Prop where
  null : r.hasType .null .null = true
  bool (b : Bool) : r.hasType .bool (.bool b) = true
  number (n : JsonNumber) : r.hasType .number (.number n) = true
  string (s : String) : r.hasType .string (.string s) = true

variable {r} in
theorem Standard.typesScalars (hr : r.Standard) : r.TypesScalars where
  null := hr.null .null
  bool b := hr.bool (.bool b)
  number n := hr.number (.number n)
  string s := hr.string (.string s)

/-- A reading of the types that values of their own kind, or of a checked form, have. -/
def plain : Reading where
  hasType
    | .null, v => v.isNull
    | .bool, v => v.isBool
    | .string, v => v.string?.isSome
    | .object, v => v.object?.isSome
    | .array, v => v.array?.isSome
    | .number, v => v.number?.isSome
    | .long, v => v.isInteger
    | .date, v => (checkDate v "").issues.isEmpty
    | .objectId, v => (checkObjectId v "").issues.isEmpty
    | _, _ => false
  finds _ _ := false
  atMost m n := m.toBinary64.atMost n.toBinary64
  isMultiple n step := isMultipleOf n.toBinary64 step.toBinary64

/-- **The plain reading is a standard one**, so what is said of these is said of something. -/
theorem plain_standard : plain.Standard where
  null _ := rfl
  bool _ := rfl
  string _ := rfl
  object _ := rfl
  array _ := rfl
  number _ := rfl
  long _ := rfl
  date _ := rfl
  objectId _ := rfl

end Reading

end DocumentModel
