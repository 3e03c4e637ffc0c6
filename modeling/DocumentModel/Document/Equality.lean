import DocumentModel.Document.Basic

/-!
# Equality of documents

Documents are compared rule by rule, the values and numbers in them by `Json.same` and
`JsonNumber.same`. So a bound of `0.0` is the bound `-0.0`, and differs from the bound `0`.
-/

namespace DocumentModel

/-- Whether two values are both absent, or correspond. -/
def sameOption {α : Type} (same : α → α → Bool) : Option α → Option α → Bool
  | none, none => true
  | some a, some b => same a b
  | _, _ => false

namespace Document

mutual

def same : Document → Document → Bool
  | ⟨title, description, bsonType, enumeration, multipleOf, minimum, exclusiveMinimum, maximum,
      exclusiveMaximum, minLength, maxLength, pattern, items, additionalItems, minItems, maxItems,
      uniqueItems, required, properties, additionalProperties, allOf, anyOf, oneOf, no⟩, other =>
    title == other.title
    && description == other.description
    && bsonType == other.bsonType
    && sameOption Json.sameItems enumeration other.enumeration
    && sameOption JsonNumber.same multipleOf other.multipleOf
    && sameOption JsonNumber.same minimum other.minimum
    && exclusiveMinimum == other.exclusiveMinimum
    && sameOption JsonNumber.same maximum other.maximum
    && exclusiveMaximum == other.exclusiveMaximum
    && minLength == other.minLength
    && maxLength == other.maxLength
    && pattern == other.pattern
    && sameItems items other.items
    && sameExtra additionalItems other.additionalItems
    && minItems == other.minItems
    && maxItems == other.maxItems
    && uniqueItems == other.uniqueItems
    && required == other.required
    && sameProperties properties other.properties
    && sameExtra additionalProperties other.additionalProperties
    && sameDocuments allOf other.allOf
    && sameDocuments anyOf other.anyOf
    && sameDocuments oneOf other.oneOf
    && sameSome no other.no
termination_by structural d => d

def sameItems : Option (ItemRules Document) → Option (ItemRules Document) → Bool
  | none, none => true
  | some (.every d), some (.every e) => same d e
  | some (.each ds), some (.each es) => sameList ds es
  | _, _ => false
termination_by structural x => x

def sameExtra : Option (Extra Document) → Option (Extra Document) → Bool
  | none, none => true
  | some (.allowed a), some (.allowed b) => a == b
  | some (.schema d), some (.schema e) => same d e
  | _, _ => false
termination_by structural x => x

def sameProperties :
    Option (List (String × Document)) → Option (List (String × Document)) → Bool
  | none, none => true
  | some ps, some qs => sameFields ps qs
  | _, _ => false
termination_by structural x => x

def sameDocuments : Option (List Document) → Option (List Document) → Bool
  | none, none => true
  | some ds, some es => sameList ds es
  | _, _ => false
termination_by structural x => x

def sameSome : Option Document → Option Document → Bool
  | none, none => true
  | some d, some e => same d e
  | _, _ => false
termination_by structural x => x

def sameList : List Document → List Document → Bool
  | [], [] => true
  | d :: ds, e :: es => same d e && sameList ds es
  | _, _ => false
termination_by structural x => x

def sameFields : List (String × Document) → List (String × Document) → Bool
  | [], [] => true
  | (k, d) :: ps, (l, e) :: qs => k == l && same d e && sameFields ps qs
  | _, _ => false
termination_by structural x => x

end

end Document

end DocumentModel
