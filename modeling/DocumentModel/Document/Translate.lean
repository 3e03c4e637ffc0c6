import DocumentModel.Document.Basic
import DocumentModel.Document.Marker
import DocumentModel.Schema.Node

/-!
# Validator documents of nodes

`Node.document?` translates a node into the document that a database checks stored values with. It
fails only at a refined node, whose predicate no document can state; the keys of a record are
strings whatever their node says, and are not looked at. A type marker in a description decides the
type.
-/

namespace DocumentModel

/-! ## Patterns of formats -/

namespace FormatPattern

def email : String :=
  "^(([^<>()[\\]\\.,;:\\s@\\\"]+(\\.[^<>()[\\]\\.,;:\\s@\\\"]+)*)|(\\\".+\\\"))@" ++
    "(([^<>()[\\]\\.,;:\\s@\\\"]+\\.)+[^<>()[\\]\\.,;:\\s@\\\"]\x7b2,\x7d)$"

def url : String :=
  "[-a-zA-Z0-9@:%._\\+~#=]\x7b1,256\x7d\\.[a-zA-Z0-9()]\x7b1,6\x7d\\b" ++
    "([-a-zA-Z0-9()@:%_\\+.~#?&//=]*)"

def uuid : String :=
  "^([a-f0-9]\x7b8\x7d-[a-f0-9]\x7b4\x7d-[1-5][a-f0-9]\x7b3\x7d" ++
    "-[a-f0-9]\x7b4\x7d-[a-f0-9]\x7b12\x7d|00000000-0000-0000-0000-000000000000)$"

def cuid : String := "^c[^\\s-]\x7b8,\x7d$"

/-- No white space at either end. -/
def trimmed : String := "^(?:\\S(?:[\\s\\S]*\\S)?)?$"

end FormatPattern

/-- The pattern a check asks for; lengths are rules of their own. -/
def StringCheck.pattern? : StringCheck → Option String
  | .min _ | .max _ => none
  | .regex pattern => some pattern.source
  | .email => some FormatPattern.email
  | .url => some FormatPattern.url
  | .uuid => some FormatPattern.uuid
  | .cuid => some FormatPattern.cuid
  | .startsWith text => some ("^" ++ Pattern.escape text)
  | .endsWith text => some (Pattern.escape text ++ "$")
  | .trim => some FormatPattern.trimmed

/-! ## Lists without repetition -/

/-- Appends an entry unless the list has it. -/
def pushUnique {α : Type} (same : α → α → Bool) (list : List α) (entry : α) : List α :=
  if list.any (same · entry) then list else list ++ [entry]

/-- The entries without later repetitions. -/
def uniqueBy {α : Type} (same : α → α → Bool) (list : List α) : List α :=
  list.foldl (pushUnique same) []

namespace Document

/-! ## Leaves -/

/-- A bound as a JSON number: an integer where it is one and not too large. -/
def bound? (value : Binary64) : Option JsonNumber :=
  let large := Binary64.ofInt 9000000000000000
  if value.isWhole && value.abs.less large then value.truncate?.map JsonNumber.integer
  else if value.isFinite then some (.fraction value)
  else none

/-- The length of a check is the last one given. -/
def withLength (d : Document) : StringCheck → Document
  | .min length => { d with minLength := some length }
  | .max length => { d with maxLength := some length }
  | _ => d

/-- One pattern is a rule of the document itself, and several are rules of documents under
`allOf`. -/
def withPatterns (d : Document) : List String → Document
  | [] => d
  | [pattern] => { d with pattern := some pattern }
  | patterns => { d with allOf := some (patterns.map fun p => { pattern := some p }) }

def ofStringChecks (checks : List StringCheck) : Document :=
  (checks.foldl withLength (ofType .string)).withPatterns
    (uniqueBy (· == ·) (checks.filterMap StringCheck.pattern?))

/-- A bound replaces the bound before it, with or without its exclusion. -/
def withNumberCheck (d : Document) : NumberCheck → Document
  | .int => { d with bsonType := some (.one .int) }
  | .min value inclusive =>
    { d with minimum := bound? value, exclusiveMinimum := if inclusive then none else some true }
  | .max value inclusive =>
    { d with maximum := bound? value, exclusiveMaximum := if inclusive then none else some true }
  | .multipleOf step => { d with multipleOf := bound? step }

def ofNumberChecks (checks : List NumberCheck) : Document :=
  checks.foldl withNumberCheck (ofType .number)

def ofEnumMembers (members : List EnumMember) : Document :=
  let isNumber := fun (m : EnumMember) => match m.value with
    | .number _ => true
    | .string _ => false
  let types := if !members.any isNumber then BsonTypes.one .string
    else if members.all isNumber then .one .number
    else .many [.string, .number]
  { typed types with enumeration := some (members.map (·.value.toJson)) }

/-! ## Markers -/

def withNull (types : List BsonType) : List BsonType := pushUnique (· == ·) types .null

/-- A marker decides the type; null stays allowed beside it. -/
def withMarker (d : Document) (type : BsonType) : Document :=
  let nullable := match d.bsonType with
    | some (.many types) => types.contains .null
    | _ => false
  { d with bsonType := some (if nullable && type != .null then .many [type, .null] else .one type) }

/-- The type and text of a description on top of the rules of a kind. -/
def annotate (description : Option String) (d : Document) : Document :=
  match description with
  | none => d
  | some text =>
    let (text, type) := Marker.split text
    let d := match type with
      | some t => d.withMarker t
      | none => d
    match text with
    | some t => { d with description := some t }
    | none => d

end Document

/-! ## Kinds with a type of their own -/

def NodeKind.primitive? {α : Type} : NodeKind α → Option BsonType
  | .string _ => some .string
  | .number _ => some .number
  | .bigInt => some .long
  | .objectId => some .objectId
  | .boolean => some .bool
  | .date => some .date
  | .null => some .null
  | _ => none

/-- The type of a primitive without checks, which a marker may replace. -/
def Node.plainType? (node : Node) : Option BsonType :=
  let unconstrained := match node.kind with
    | .string checks => checks.isEmpty
    | .number checks => checks.isEmpty
    | _ => true
  if unconstrained then
    node.kind.primitive?.map fun base => (Marker.ofDescription? node.description).getD base
  else none

/-- The type of a literal that is no list or object. -/
def Json.scalarType? : Json → Option BsonType
  | .string _ => some .string
  | .number _ => some .number
  | .bool _ => some .bool
  | .null => some .null
  | .array _ | .object _ => none

/-- The value of a scalar literal, with its type. -/
def Node.literal? (node : Node) : Option (Json × BsonType) :=
  match node.kind with
  | .literal value => value.scalarType?.map (value, ·)
  | _ => none

def Node.enumeration? (node : Node) : Option (List String) :=
  match node.kind with
  | .enumeration values => some values
  | _ => none

namespace Document

/-! ## Unions -/

/-- Alternatives that one document can state: plain types, scalar literals, or enumerations. -/
def collapse? (branches : List Node) : Option Document :=
  match branches.mapM Node.plainType? with
  | some types => some (typed (.ofList (uniqueBy (· == ·) types)))
  | none => match branches.mapM Node.literal? with
    | some literals =>
      some { typed (.ofList (uniqueBy (· == ·) (literals.map Prod.snd))) with
        enumeration := some (uniqueBy Json.same (literals.map Prod.fst)) }
    | none => match branches.mapM Node.enumeration? with
      | some values =>
        some { ofType .string with
          enumeration := some (uniqueBy Json.same (values.flatten.map Json.string)) }
      | none => none

/-! ## Composite kinds -/

/-- Rules for elements, unless every element is accepted. -/
def elements? (d : Document) : Option (ItemRules Document) :=
  if d.isEmpty then none else some (.every d)

def ofList (element : Document) (bounds : Bounds) : Document :=
  { ofType .array with
    items := elements? element, minItems := bounds.least, maxItems := bounds.most }

def ofTuple (items : List Document) (rest : Option Document) : Document :=
  let d := { ofType .array with items := some (.each items), minItems := some items.length }
  match rest with
  | some extra => { d with additionalItems := some (.schema extra) }
  | none => { d with additionalItems := some (.allowed false), maxItems := some items.length }

/-- A map is a list of pairs. -/
def ofMap (key value : Document) : Document :=
  let pair := { ofType .array with
    items := if key.isEmpty && value.isEmpty then none else some (.each [key, value])
    minItems := some 2, maxItems := some 2 }
  { ofType .array with items := some (.every pair) }

def ofRecord (value : Document) : Document :=
  { ofType .object with
    additionalProperties := some (if value.isEmpty then .allowed true else .schema value) }

/-- Keys are required whose nodes do not accept absence. -/
def ofObject (shape : Shape Node) (properties : List (String × Document))
    (unknownKeys : UnknownKeys) (catchall : Option Document) : Document :=
  let required := (shape.filter fun p => !p.2.acceptsMissing).map Prod.fst
  { ofType .object with
    properties := if properties.isEmpty then none else some (Json.sortFields properties)
    required := if required.isEmpty then none else some required
    additionalProperties := match catchall, unknownKeys with
      | some extra, _ => if extra.isEmpty then none else some (.schema extra)
      | none, .passthrough => none
      | none, .strict | none, .strip => some (.allowed false) }

/-- Null beside a primitive type is one more type; beside anything else it is an alternative. -/
def ofNullable (primitive : Bool) (inner : Document) : Document :=
  if primitive then
    let types := (inner.bsonType.map BsonTypes.toList).getD []
    { inner with bsonType := some (.ofList (withNull types)) }
  else { anyOf := some [inner, ofType .null] }

end Document

/-! ## Nodes -/

/-- A node of this kind has no document. -/
structure Untranslatable where
  kind : String
  deriving DecidableEq, Repr

namespace Node

mutual

/-- The document of a node. -/
def document? : Node → Except Untranslatable Document
  | ⟨kind, description⟩ => Document.annotate description <$> match kind with
    | .any | .unknown => .ok {}
    | .undefined | .void | .never | .nan => .ok .nothing
    | .null => .ok (.ofType .null)
    | .boolean => .ok (.ofType .bool)
    | .date => .ok (.ofType .date)
    | .bigInt => .ok (.ofType .long)
    | .objectId => .ok (.ofType .objectId)
    | .string checks => .ok (.ofStringChecks checks)
    | .number checks => .ok (.ofNumberChecks checks)
    | .literal value => .ok { enumeration := some [value] }
    | .enumeration values =>
      .ok { Document.ofType .string with enumeration := some (values.map Json.string) }
    | .nativeEnum members => .ok (.ofEnumMembers members)
    | .object shape unknownKeys none => do
      let properties ← properties? shape
      pure (.ofObject shape properties unknownKeys none)
    | .object shape unknownKeys (some catchall) => do
      let properties ← properties? shape
      let extra ← catchall.document?
      pure (.ofObject shape properties unknownKeys (some extra))
    | .record _ value => Document.ofRecord <$> value.document?
    | .array element bounds => (Document.ofList · bounds) <$> element.document?
    | .set element bounds =>
      (fun d => { Document.ofList d bounds with uniqueItems := some true }) <$> element.document?
    | .tuple items none => (Document.ofTuple · none) <$> documents? items
    | .tuple items (some rest) => do
      let documents ← documents? items
      let extra ← rest.document?
      pure (.ofTuple documents (some extra))
    | .map key value => do
      let ofKey ← key.document?
      let ofValue ← value.document?
      pure (.ofMap ofKey ofValue)
    | .union branches =>
      if branches.isEmpty then .ok .nothing
      else match Document.collapse? branches with
        | some d => .ok d
        | none => (fun ds => { anyOf := some ds }) <$> documents? branches
    | .intersection left right => do
      let ofLeft ← left.document?
      let ofRight ← right.document?
      pure { allOf := some [ofLeft, ofRight] }
    | .withDefault inner _ => inner.document?
    | .optional inner => (fun d => { anyOf := some [d, .nothing] }) <$> inner.document?
    | .nullable inner => Document.ofNullable inner.kind.primitive?.isSome <$> inner.document?
    | .refined _ _ => .error ⟨kind.name⟩

def documents? : List Node → Except Untranslatable (List Document)
  | [] => .ok []
  | node :: rest => do
    let first ← node.document?
    let more ← documents? rest
    pure (first :: more)

def properties? : List (String × Node) → Except Untranslatable (List (String × Document))
  | [] => .ok []
  | (key, node) :: rest => do
    let first ← node.document?
    let more ← properties? rest
    pure ((key, first) :: more)

end

/-- The document of a node under a title. -/
def titledDocument? (node : Node) (title : Option String) : Except Untranslatable Document :=
  (fun d => match title with
    | some text => { d with title := some text }
    | none => d) <$> node.document?

end Node

end DocumentModel
