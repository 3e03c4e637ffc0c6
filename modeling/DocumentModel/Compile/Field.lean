import DocumentModel.Class.Error
import DocumentModel.Compile.Builtin

/-!
# Nodes of fields

`fieldNode` makes the node of a declared field. The nodes of the classes that the field refers to
come from the function `classNode`, so that nothing here depends on how classes are compiled.
-/

namespace DocumentModel

/-! ## Leaves -/

/-- The check that a format adds. -/
def StringFormat.check? : StringFormat → Option StringCheck
  | .email => some .email
  | .url => some .url
  | .uuid => some .uuid
  | .cuid => some .cuid
  | .objectId | .binData | .timestamp => none

/-- The type that a format stores its strings with. -/
def StringFormat.bsonType? : StringFormat → Option BsonType
  | .objectId => some .objectId
  | .binData => some .binData
  | .timestamp => some .timestamp
  | .email | .url | .uuid | .cuid => none

def Node.markedIf (node : Node) : Option BsonType → Node
  | some type => node.marked type
  | none => node

def StringOptions.node (o : StringOptions) : Node :=
  let checks := (o.minLength.map StringCheck.min).toList ++ (o.maxLength.map StringCheck.max).toList
    ++ (o.pattern.map StringCheck.regex).toList ++ (o.format.bind StringFormat.check?).toList
  (Node.ofKind (.string checks)).markedIf (o.format.bind StringFormat.bsonType?)

/-- The type of a number; integers have a check instead. -/
def NumericType.bsonType? : NumericType → Option BsonType
  | .int => none
  | .long => some .long
  | .double => some .double
  | .decimal => some .decimal

def NumberOptions.node (o : NumberOptions) : Node :=
  let int := if o.numericType = some .int then [NumberCheck.int] else []
  let checks := int
    ++ (o.minimum.map fun b => NumberCheck.min b (!o.exclusiveMinimum)).toList
    ++ (o.maximum.map fun b => NumberCheck.max b (!o.exclusiveMaximum)).toList
    ++ (o.multipleOf.map NumberCheck.multipleOf).toList
  (Node.ofKind (.number checks)).markedIf (o.numericType.bind NumericType.bsonType?)

/-! ## Details -/

/-- Optional first, then nullable, then the default; the description goes to the outermost node, and
keeps the marker of the node it describes. -/
def FieldDetails.apply (d : FieldDetails) (node : Node) : Node :=
  let node := if d.optional then .ofKind (.optional node) else node
  let node := if d.nullable then .ofKind (.nullable node) else node
  let node := match d.defaultValue with
    | some value => .ofKind (.withDefault node value)
    | none => node
  match d.description with
  | none => node
  | some text => match Marker.ofDescription? node.description with
    | some type => node.describe (Marker.compose text type)
    | none => node.describe text

def applyDetails (details : Option FieldDetails) (node : Node) : Node :=
  match details with
  | some d => d.apply node
  | none => node

/-! ## Fields -/

section

variable {m : Type → Type} [Monad m] [MonadExceptOf SchemaError m]

/-- The node of a class if one is given, and else the node of any value. -/
def classNodeOrAny (classNode : ClassId → m Node) : Option ClassId → m Node
  | some id => classNode id
  | none => pure .any

/-- The node of a tag with its options. -/
def typeNode (classNode : ClassId → m Node) (path : String) : TypeTag → TypeOptions → m Node
  | .any, .none => pure .any
  | .any, .any type => pure ((type.map Node.stored).getD .any)
  | .raw, .raw schema => pure schema
  | .bool, .none => pure (.ofKind .boolean)
  | .date, .none => pure (.ofKind .date)
  | .bigInt, .none => pure (.ofKind .bigInt)
  | .string, .none => pure .string
  | .string, .string options => pure options.node
  | .number, .none => pure .number
  | .number, .number options => pure options.node
  | .enumeration, .enumeration values => pure (.ofKind (.enumeration values))
  | .nativeEnum, .nativeEnum members => pure (.ofKind (.nativeEnum members))
  | .object, .none => pure .openObject
  | .object, .object (some id) => classNode id
  | .object, .object none => pure .openObject
  | .array, .none => pure (.arrayOf .any)
  | .array, .array items bounds =>
    (fun element => .ofKind (.array element bounds)) <$> classNodeOrAny classNode items
  | .set, .none => pure (.setOf .any)
  | .set, .set items bounds =>
    (fun element => .ofKind (.set element bounds)) <$> classNodeOrAny classNode items
  | .map, .none => pure (.mapOf .any .any)
  | .map, .map keys values => do
    let key ← classNodeOrAny classNode keys
    let value ← classNodeOrAny classNode values
    pure (.mapOf key value)
  | tag, options => throw (.builderMissing path tag options)

/-- The node of a field of a class. A field that refers to its own class cannot be built. -/
def fieldNode (classNode : ClassId → m Node) (owner : ClassId) (path : String)
    (d : FieldDeclaration) : m Node := do
  match d.tag with
  | none => throw (.typeMissing path)
  | some tag =>
    if tag.isContainer && d.options.references.contains owner then throw (.circularReference path)
    else (applyDetails d.details) <$> typeNode classNode path tag d.options

end

end DocumentModel
