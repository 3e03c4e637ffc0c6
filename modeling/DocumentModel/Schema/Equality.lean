import DocumentModel.Schema.Node

/-!
# Equality of nodes

Nodes are compared part by part. Patterns are the same when their sources are, refinements when
their messages are, and bounds when they are the same number, so that a bound which is no number
makes a node differ from itself.
-/

namespace DocumentModel

def StringCheck.same : StringCheck → StringCheck → Bool
  | .min a, .min b | .max a, .max b => a == b
  | .regex a, .regex b => a.same b
  | .email, .email | .url, .url | .uuid, .uuid | .cuid, .cuid | .trim, .trim => true
  | .startsWith a, .startsWith b | .endsWith a, .endsWith b => a == b
  | _, _ => false

def NumberCheck.same : NumberCheck → NumberCheck → Bool
  | .int, .int => true
  | .min a i, .min b j | .max a i, .max b j => a.same b && i == j
  | .multipleOf a, .multipleOf b => a.same b
  | _, _ => false

/-- Whether two lists have equally many entries that correspond. -/
def sameLists {α : Type} (same : α → α → Bool) : List α → List α → Bool
  | [], [] => true
  | a :: as, b :: bs => same a b && sameLists same as bs
  | _, _ => false

namespace Node

mutual

def same : Node → Node → Bool
  | ⟨kind, description⟩, ⟨kind', description'⟩ =>
    description == description' && match kind, kind' with
    | .any, .any | .unknown, .unknown | .undefined, .undefined | .void, .void | .never, .never
    | .nan, .nan | .null, .null | .boolean, .boolean | .date, .date | .bigInt, .bigInt
    | .objectId, .objectId => true
    | .string a, .string b => sameLists StringCheck.same a b
    | .number a, .number b => sameLists NumberCheck.same a b
    | .literal a, .literal b => a.same b
    | .enumeration a, .enumeration b => a == b
    | .nativeEnum a, .nativeEnum b => a == b
    | .object a u none, .object b v none => sameShapes a b && u == v
    | .object a u (some c), .object b v (some d) => sameShapes a b && u == v && same c d
    | .record k v, .record l w | .map k v, .map l w => same k l && same v w
    | .array e b, .array f c | .set e b, .set f c => same e f && b == c
    | .tuple a none, .tuple b none => sameNodes a b
    | .tuple a (some r), .tuple b (some s) => sameNodes a b && same r s
    | .union a, .union b => sameNodes a b
    | .intersection l r, .intersection l' r' => same l l' && same r r'
    | .optional a, .optional b | .nullable a, .nullable b => same a b
    | .withDefault a v, .withDefault b w => same a b && v.same w
    | .refined a r, .refined b s => same a b && r.message == s.message
    | _, _ => false

def sameNodes : List Node → List Node → Bool
  | [], [] => true
  | a :: as, b :: bs => same a b && sameNodes as bs
  | _, _ => false

def sameShapes : List (String × Node) → List (String × Node) → Bool
  | [], [] => true
  | (k, a) :: as, (l, b) :: bs => k == l && same a b && sameShapes as bs
  | _, _ => false

end

end Node

end DocumentModel
