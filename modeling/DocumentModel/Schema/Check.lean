import DocumentModel.Format.Email
import DocumentModel.Format.Identifier
import DocumentModel.Format.Timestamp
import DocumentModel.Format.Url
import DocumentModel.Json.Printer
import DocumentModel.Schema.Issue
import DocumentModel.Schema.Node

/-!
# Checking values

`Node.check` compares a value with a node. It yields the issues it finds, in the order of the places
they are found at, and the value conformed to the node: with defaults filled in, keys that are not
declared dropped, and strings trimmed. The value to check may be absent, and so may the result.
`Node.parse` succeeds when there is no issue.
-/

namespace DocumentModel

/-! ## Faults -/

/-- What can be wrong at one place. -/
inductive Fault
  | required
  | type (expected : String) (received : Json)
  | never
  | date
  | shorterThan (length : Nat)
  | longerThan (length : Nat)
  | pattern (source : String)
  | email
  | url
  | uuid
  | cuid
  | startsOtherwise (text : String)
  | endsOtherwise (text : String)
  | int
  | below (bound : Binary64) (inclusive : Bool)
  | above (bound : Binary64) (inclusive : Bool)
  | multipleOf (step : Binary64)
  | literal (expected : Json)
  | enumeration (allowed : List String)
  | nativeEnum (allowed : List Json)
  | objectId
  | unrecognizedKeys (keys : List String)
  | fewerThan (count : Nat)
  | moreThan (count : Nat)
  | tupleLength (expected received : Nat)
  | unique
  | union
  | intersection
  | custom (message : String)

namespace Fault

def code : Fault → String
  | .required => "validation.required"
  | .type .. => "validation.type"
  | .never => "validation.never"
  | .date => "validation.date"
  | .shorterThan _ | .longerThan _ | .fewerThan _ | .moreThan _ | .tupleLength .. =>
    "validation.length"
  | .pattern _ | .startsOtherwise _ | .endsOtherwise _ => "validation.regex"
  | .email => "validation.email"
  | .url => "validation.url"
  | .uuid => "validation.uuid"
  | .cuid => "validation.cuid"
  | .int => "validation.int"
  | .below .. | .above .. => "validation.range"
  | .multipleOf _ => "validation.multiple_of"
  | .literal _ => "validation.literal"
  | .enumeration _ | .nativeEnum _ => "validation.enum"
  | .objectId => "validation.object_id"
  | .unrecognizedKeys _ => "validation.unrecognized_keys"
  | .unique => "validation.unique"
  | .union => "validation.union"
  | .intersection => "validation.intersection"
  | .custom _ => "validation.custom"

def message : Fault → String
  | .required => "value is required"
  | .type expected received => "expected " ++ expected ++ ", received " ++ received.typeName
  | .never => "no value is allowed here"
  | .date => "value must be an RFC 3339 date"
  | .shorterThan length => "length must be at least " ++ toString length
  | .longerThan length => "length must be at most " ++ toString length
  | .pattern source => "value does not match pattern " ++ source
  | .email => "value must be a valid email address"
  | .url => "value must be a valid URL"
  | .uuid => "value must be a valid UUID"
  | .cuid => "value must be a valid CUID"
  | .startsOtherwise text => "value must start with " ++ Text.quoted text
  | .endsOtherwise text => "value must end with " ++ Text.quoted text
  | .int => "value must be an integer"
  | .below bound true => "value must be at least " ++ bound.plainText
  | .below bound false => "value must be greater than " ++ bound.plainText
  | .above bound true => "value must be at most " ++ bound.plainText
  | .above bound false => "value must be less than " ++ bound.plainText
  | .multipleOf step => "value must be a multiple of " ++ step.plainText
  | .literal expected => "value must be " ++ expected.compact
  | .enumeration allowed => "value must be one of " ++ Text.quotedList allowed
  | .nativeEnum allowed => "value must be one of " ++ (Json.array allowed).compact
  | .objectId => "Invalid Object ID"
  | .unrecognizedKeys keys => "unrecognized keys: " ++ ", ".intercalate keys
  | .fewerThan count => "must contain at least " ++ toString count ++ " items"
  | .moreThan count => "must contain at most " ++ toString count ++ " items"
  | .tupleLength expected received =>
    "tuple expects " ++ toString expected ++ " items, received " ++ toString received
  | .unique => "set elements must be unique"
  | .union => "value does not match any allowed type"
  | .intersection => "intersection results could not be merged"
  | .custom message => message

/-- The issue of a fault at a place. -/
def issue (fault : Fault) (path : String) : Issue := ⟨path, fault.code, fault.message⟩

end Fault

/-! ## Outcomes -/

/-- The issues found, and the conformed value unless it is absent. -/
structure Outcome where
  issues : List Issue
  value : Option Json

namespace Outcome

def keep (value : Option Json) : Outcome := ⟨[], value⟩

def fail (fault : Fault) (path : String) : Outcome := ⟨[fault.issue path], none⟩

/-- The value if a condition holds, else a fault of type. -/
def expect (condition : Bool) (expected : String) (value : Json) (path : String) : Outcome :=
  if condition then keep (some value) else fail (.type expected value) path

/-- Absence is a fault, and a present value is checked. -/
def present (value : Option Json) (path : String) (check : Json → Outcome) : Outcome :=
  match value with
  | none => fail .required path
  | some v => check v

end Outcome

/-! ## Strings -/

/-- The fault of a string under one check. Trimming finds no fault. -/
def StringCheck.fault? (current : String) : StringCheck → Option Fault
  | .min length => if current.length < length then some (.shorterThan length) else none
  | .max length => if length < current.length then some (.longerThan length) else none
  | .regex pattern => if pattern.isFoundIn current then none else some (.pattern pattern.source)
  | .email => if Format.isEmail current then none else some .email
  | .url => if Format.isUrl current then none else some .url
  | .uuid => if Format.isUuid current then none else some .uuid
  | .cuid => if Format.isCuid current then none else some .cuid
  | .startsWith text =>
    if text.toList.isPrefixOf current.toList then none else some (.startsOtherwise text)
  | .endsWith text =>
    if text.toList.isSuffixOf current.toList then none else some (.endsOtherwise text)
  | .trim => none

/-- The string that the checks after this one see. -/
def StringCheck.conform (current : String) : StringCheck → String
  | .trim => Text.trim current
  | _ => current

/-- The faults of a string under checks applied in turn, and the string they leave. -/
def checkString : List StringCheck → String → List Fault × String
  | [], current => ([], current)
  | check :: rest, current =>
    let more := checkString rest (check.conform current)
    ((check.fault? current).toList ++ more.1, more.2)

/-! ## Numbers -/

/--
A number is a multiple of a step when it differs from the nearest multiple by no more than four
times the rounding error of a number of its size, or of one. Nothing is a multiple of
zero. -/
def isMultipleOf (number step : Binary64) : Bool :=
  if step.same Binary64.zero then false
  else
    let quotient := (number.div step).round
    let distance := (number.sub (quotient.mul step)).abs
    let epsilon := Binary64.ofUnits false (powerOfTwo 1022) 1
    let four := Binary64.ofInt 4
    distance.atMost ((epsilon.mul (number.abs.max (Binary64.ofInt 1))).mul four)

/-- The fault of a number under one check. A bound that is no number excludes nothing. -/
def NumberCheck.fault? (number : Binary64) : NumberCheck → Option Fault
  | .int => if number.isWhole then none else some .int
  | .min bound inclusive =>
    if number.less bound || (!inclusive && number.same bound) then some (.below bound inclusive)
    else none
  | .max bound inclusive =>
    if bound.less number || (!inclusive && number.same bound) then some (.above bound inclusive)
    else none
  | .multipleOf step => if isMultipleOf number step then none else some (.multipleOf step)

def checkNumber (checks : List NumberCheck) (number : Binary64) : List Fault :=
  checks.filterMap (·.fault? number)

/-! ## Lists and objects -/

/-- Faults in the number of elements. -/
def Bounds.faults (b : Bounds) (count : Nat) : List Fault :=
  (match b.least with
    | some least => if count < least then [.fewerThan least] else []
    | none => [])
  ++ match b.most with
    | some most => if most < count then [.moreThan most] else []
    | none => []

/-- Checks every element, the position as the last segment of the path. An absent result is null. -/
def checkElements (check : Json → String → Outcome) (path : String) (index : Nat) :
    List Json → List Issue × List Json
  | [] => ([], [])
  | item :: rest =>
    let first := check item (joinPath path (toString index))
    let more := checkElements check path (index + 1) rest
    (first.issues ++ more.1, first.value.getD .null :: more.2)

/-- Checks every field, the key as the last segment of the path. An absent result is left out. -/
def checkFields (check : String → Json → String → Outcome) (path : String) :
    List (String × Json) → List Issue × List (String × Json)
  | [] => ([], [])
  | (key, value) :: rest =>
    let first := check key value (joinPath path key)
    let more := checkFields check path rest
    (first.issues ++ more.1, (first.value.map (key, ·)).toList ++ more.2)

/-- Whether an element equals an earlier one. -/
def hasDuplicate : List Json → Bool
  | [] => false
  | item :: rest => rest.any item.same || hasDuplicate rest

/-- A pair of a key and a value, each checked at its place in the pair. -/
def checkPair (key value : Json → String → Outcome) (entry : Json) (path : String) : Outcome :=
  match entry with
  | .array [k, v] =>
    let first := key k (joinPath path "0")
    let second := value v (joinPath path "1")
    ⟨first.issues ++ second.issues,
      some (.array [first.value.getD .null, second.value.getD .null])⟩
  | _ => .fail (.type "[key, value] pair" entry) path

/-- Checks the pairs of a map; what is no pair is left out of the result. -/
def checkPairs (check : Json → String → Outcome) (path : String) (index : Nat) :
    List Json → List Issue × List Json
  | [] => ([], [])
  | entry :: rest =>
    let first := check entry (joinPath path (toString index))
    let more := checkPairs check path (index + 1) rest
    (first.issues ++ more.1, first.value.toList ++ more.2)

def checkObjectId (value : Json) (path : String) : Outcome :=
  let raw := match value with
    | .string raw => some raw
    | .object [("$oid", .string raw)] => some raw
    | _ => none
  if raw.any Format.isObjectId then .keep (some value) else .fail .objectId path

def checkDate (value : Json) (path : String) : Outcome :=
  match value with
  | .string raw => if Format.isTimestamp raw then .keep (some value) else .fail .date path
  | _ => .fail (.type "date" value) path

/-! ## Intersections -/

/-- Two results agree when both are absent or both are equal values. -/
def sameResult : Option Json → Option Json → Bool
  | none, none => true
  | some a, some b => a.same b
  | _, _ => false

/-- Adds the fields whose keys are not there yet. -/
def mergeFields (left right : List (String × Json)) : List (String × Json) :=
  right.foldl
    (fun merged field =>
      if (Json.findField? field.1 merged).isSome then merged
      else Json.insertField field.1 field.2 merged)
    left

/-- The results of both sides as one: objects are united, and other values must be equal. -/
def mergeResults (left right : Option Json) (path : String) : Outcome :=
  match left, right with
  | some (.object a), some (.object b) => .keep (some (.object (mergeFields a b)))
  | left, right => if sameResult left right then .keep left else .fail .intersection path

/-! ## Nodes -/

namespace Node

mutual

/-- Checks a value, or its absence, at a path. -/
def check : Node → Option Json → String → Outcome
  | ⟨kind, _⟩, value, path => match kind with
    | .optional inner => match value with
      | none => .keep none
      | some v => inner.check (some v) path
    | .withDefault inner default => inner.check (some (value.getD default)) path
    | .nullable inner => match value with
      | some .null => .keep (some .null)
      | other => inner.check other path
    | .any | .unknown => .keep value
    | .objectId => match value with
      | none => .keep none
      | some v => checkObjectId v path
    | .undefined | .void => match value with
      | none => .keep none
      | some v => .fail (.type "undefined" v) path
    | .never => .present value path fun _ => .fail .never path
    | .nan => .present value path fun v => .fail (.type "nan" v) path
    | .null => .present value path fun v => .expect v.isNull "null" v path
    | .boolean => .present value path fun v => .expect v.isBool "boolean" v path
    | .bigInt => .present value path fun v => .expect v.isInteger "bigint" v path
    | .date => .present value path fun v => checkDate v path
    | .string checks => .present value path fun
      | .string raw =>
        let checked := checkString checks raw
        ⟨checked.1.map (·.issue path), some (.string checked.2)⟩
      | v => .fail (.type "string" v) path
    | .number checks => .present value path fun
      | .number n => ⟨(checkNumber checks n.toBinary64).map (·.issue path), some (.number n)⟩
      | v => .fail (.type "number" v) path
    | .literal expected => .present value path fun v =>
      if v.same expected then .keep (some v) else .fail (.literal expected) path
    | .enumeration allowed => .present value path fun
      | .string raw =>
        if allowed.contains raw then .keep (some (.string raw))
        else .fail (.enumeration allowed) path
      | _ => .fail (.enumeration allowed) path
    | .nativeEnum members => .present value path fun v =>
      let allowed := members.map (·.value.toJson)
      if Json.isIn v allowed then .keep (some v) else .fail (.nativeEnum allowed) path
    | .object shape unknownKeys catchall => .present value path fun
      | .object fields =>
        let declared := checkShape shape fields path
        let others := fields.filter fun field => (Json.findField? field.1 shape).isNone
        let rest := match catchall with
          | some node => checkFields (fun _ v p => node.check (some v) p) path others
          | none => match unknownKeys with
            | .passthrough => ([], others)
            | .strict =>
              (if others.isEmpty then []
                else [(Fault.unrecognizedKeys (others.map Prod.fst)).issue path], [])
            | .strip => ([], [])
        ⟨declared.1 ++ rest.1, some (Json.ofFields (declared.2 ++ rest.2))⟩
      | v => .fail (.type "object" v) path
    | .record key item => .present value path fun
      | .object fields =>
        let checked := checkFields
          (fun k v p =>
            let ofKey := key.check (some (.string k)) p
            let ofItem := item.check (some v) p
            ⟨ofKey.issues ++ ofItem.issues, ofItem.value⟩)
          path fields
        ⟨checked.1, some (.object checked.2)⟩
      | v => .fail (.type "object" v) path
    | .array element bounds => .present value path fun
      | .array items =>
        let checked := checkElements (fun v p => element.check (some v) p) path 0 items
        ⟨(bounds.faults items.length).map (·.issue path) ++ checked.1, some (.array checked.2)⟩
      | v => .fail (.type "array" v) path
    | .set element bounds => .present value path fun
      | .array items =>
        let checked := checkElements (fun v p => element.check (some v) p) path 0 items
        let repeated := if hasDuplicate items then [Fault.unique] else []
        ⟨(bounds.faults items.length ++ repeated).map (·.issue path) ++ checked.1,
          some (.array checked.2)⟩
      | v => .fail (.type "array" v) path
    | .tuple nodes rest => .present value path fun
      | .array items =>
        if items.length < nodes.length || (rest.isNone && nodes.length < items.length) then
          .fail (.tupleLength nodes.length items.length) path
        else
          let fixed := checkPositions nodes items path 0
          let others := match rest with
            | some node =>
              checkElements (fun v p => node.check (some v) p) path nodes.length
                (items.drop nodes.length)
            | none => ([], [])
          ⟨fixed.1 ++ others.1, some (.array (fixed.2 ++ others.2))⟩
      | v => .fail (.type "array" v) path
    | .map key item => .present value path fun
      | .array entries =>
        let checked := checkPairs
          (checkPair (fun v p => key.check (some v) p) (fun v p => item.check (some v) p))
          path 0 entries
        ⟨checked.1, some (.array checked.2)⟩
      | v => .fail (.type "array" v) path
    | .union branches => .present value path fun v =>
      match firstMatch branches v path with
      | some parsed => .keep parsed
      | none => .fail .union path
    | .intersection left right => .present value path fun v =>
      let ofLeft := left.check (some v) path
      let ofRight := right.check (some v) path
      if ofLeft.issues.isEmpty && ofRight.issues.isEmpty then
        mergeResults ofLeft.value ofRight.value path
      else ⟨ofLeft.issues ++ ofRight.issues, none⟩
    | .refined inner refinement => .present value path fun v =>
      let checked := inner.check (some v) path
      match checked.value with
      | none => checked
      | some parsed =>
        if checked.issues.isEmpty && !refinement.holds parsed then
          ⟨[(Fault.custom refinement.message).issue path], some parsed⟩
        else checked

/-- Checks the declared properties of an object, in the order of declaration. -/
def checkShape : List (String × Node) → List (String × Json) → String →
    List Issue × List (String × Json)
  | [], _, _ => ([], [])
  | (key, node) :: rest, fields, path =>
    let first := node.check (Json.findField? key fields) (joinPath path key)
    let more := checkShape rest fields path
    (first.issues ++ more.1, (first.value.map (key, ·)).toList ++ more.2)

/-- Checks the items of a tuple that have a node of their own. -/
def checkPositions : List Node → List Json → String → Nat → List Issue × List Json
  | node :: nodes, item :: items, path, index =>
    let first := node.check (some item) (joinPath path (toString index))
    let more := checkPositions nodes items path (index + 1)
    (first.issues ++ more.1, first.value.getD .null :: more.2)
  | _, _, _, _ => ([], [])

/-- The result of the first branch that finds no issue. -/
def firstMatch : List Node → Json → String → Option (Option Json)
  | [], _, _ => none
  | node :: rest, value, path =>
    let checked := node.check (some value) path
    if checked.issues.isEmpty then some checked.value else firstMatch rest value path

end

/-- The conformed value, or all issues. -/
def parse (node : Node) (value : Json) : Except (List Issue) Json :=
  let checked := node.check (some value) ""
  if checked.issues.isEmpty then .ok (checked.value.getD .null) else .error checked.issues

end Node

end DocumentModel
