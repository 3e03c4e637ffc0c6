import DocumentModel.Class.Field
import DocumentModel.Document.Marker

/-!
# Nodes of built-in classes
-/

namespace DocumentModel

namespace Node

/-- The node with the marker of a type for its description. -/
def marked (node : Node) (type : BsonType) : Node := node.describe (Marker.text type)

/-- Any value stored with a type. Of these types only object ids have a check of their own. -/
def stored (type : BsonType) : Node :=
  match type with
  | .objectId => (ofKind .objectId).marked type
  | _ => any.marked type

end Node

/-- The node of a built-in class. -/
def BuiltinClass.node : BuiltinClass → Node
  | .boolean => .ofKind .boolean
  | .string => .string
  | .number => .number
  | .date => .ofKind .date
  | .object => .openObject
  | .array => .arrayOf .any
  | .set => .setOf .any
  | .map => .mapOf .any .any
  | .objectId => .stored .objectId
  | .binary => .stored .binData
  | .double => Node.number.marked .double
  | .decimal128 => Node.number.marked .decimal
  | .long => Node.number.marked .long

end DocumentModel
