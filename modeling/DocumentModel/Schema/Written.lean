import DocumentModel.Number.Digits
import DocumentModel.Schema.Node

/-!
# Nodes as JSON values

`Node.written` shows a node as an object: its kind, its description if it has one, and its parts.
Bounds of numbers are shown as text, because they need not be finite; a refinement is shown by its
message.
-/

namespace DocumentModel

/-! ## Parts -/

/-- A check with what it is about: its name, and an argument if it has one. -/
def StringCheck.written : StringCheck → Json
  | .min length => .array [.string "min", Json.ofNat length]
  | .max length => .array [.string "max", Json.ofNat length]
  | .regex pattern => .array [.string "regex", .string pattern.source]
  | .email => .array [.string "email"]
  | .url => .array [.string "url"]
  | .uuid => .array [.string "uuid"]
  | .cuid => .array [.string "cuid"]
  | .startsWith text => .array [.string "startsWith", .string text]
  | .endsWith text => .array [.string "endsWith", .string text]
  | .trim => .array [.string "trim"]

def NumberCheck.written : NumberCheck → Json
  | .int => .array [.string "int"]
  | .min bound true => .array [.string "gte", .string bound.plainText]
  | .min bound false => .array [.string "gt", .string bound.plainText]
  | .max bound true => .array [.string "lte", .string bound.plainText]
  | .max bound false => .array [.string "lt", .string bound.plainText]
  | .multipleOf step => .array [.string "multipleOf", .string step.plainText]

def EnumMember.written (m : EnumMember) : Json := .array [.string m.name, m.value.toJson]

def Bounds.written (b : Bounds) : List (String × Json) :=
  (b.least.map fun n => ("min", Json.ofNat n)).toList
    ++ (b.most.map fun n => ("max", Json.ofNat n)).toList

/-! ## Nodes -/

namespace Node

mutual

def written : Node → Json
  | ⟨kind, description⟩ =>
    Json.ofFields (("kind", .string kind.name)
      :: (description.map fun text => ("description", Json.string text)).toList
      ++ match kind with
        | .any | .unknown | .undefined | .void | .never | .nan | .null | .boolean | .date | .bigInt
        | .objectId => []
        | .string checks => [("checks", .array (checks.map StringCheck.written))]
        | .number checks => [("checks", .array (checks.map NumberCheck.written))]
        | .literal value => [("value", value)]
        | .enumeration values => [("values", .array (values.map Json.string))]
        | .nativeEnum members => [("members", .array (members.map EnumMember.written))]
        | .object shape unknownKeys none =>
          [("props", .array (writtenShape shape)), ("unknown", .string unknownKeys.name)]
        | .object shape unknownKeys (some catchall) =>
          [("props", .array (writtenShape shape)), ("unknown", .string unknownKeys.name),
            ("catchall", catchall.written)]
        | .record key value | .map key value => [("key", key.written), ("value", value.written)]
        | .array element bounds | .set element bounds =>
          ("element", element.written) :: bounds.written
        | .tuple items none => [("items", .array (writtenNodes items))]
        | .tuple items (some rest) =>
          [("items", .array (writtenNodes items)), ("rest", rest.written)]
        | .union branches => [("branches", .array (writtenNodes branches))]
        | .intersection left right => [("left", left.written), ("right", right.written)]
        | .optional inner | .nullable inner => [("inner", inner.written)]
        | .withDefault inner value => [("inner", inner.written), ("value", value)]
        | .refined inner refinement =>
          [("inner", inner.written), ("message", .string refinement.message)])

def writtenNodes : List Node → List Json
  | [] => []
  | node :: rest => node.written :: writtenNodes rest

def writtenShape : List (String × Node) → List Json
  | [] => []
  | (key, node) :: rest => .array [.string key, node.written] :: writtenShape rest

end

end Node

end DocumentModel
