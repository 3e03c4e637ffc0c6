/-!
# Class ids

A class is one of the built-in classes or a declared one. Declared classes are told apart by
numbers, never by their names; the numbers below `ClassId.firstNumber` are those of the built-in
classes.
-/

namespace DocumentModel

inductive BuiltinClass
  | boolean
  | string
  | number
  | date
  | object
  | array
  | set
  | map
  | objectId
  | binary
  | double
  | decimal128
  | long
  deriving DecidableEq, Repr

namespace BuiltinClass

def all : List BuiltinClass :=
  [.boolean, .string, .number, .date, .object, .array, .set, .map, .objectId, .binary, .double,
   .decimal128, .long]

/-- The list of built-in classes leaves none out. -/
theorem mem_all (c : BuiltinClass) : c ∈ all := by cases c <;> decide

def name : BuiltinClass → String
  | .boolean => "Boolean"
  | .string => "String"
  | .number => "Number"
  | .date => "Date"
  | .object => "Object"
  | .array => "Array"
  | .set => "Set"
  | .map => "Map"
  | .objectId => "ObjectId"
  | .binary => "Binary"
  | .double => "Double"
  | .decimal128 => "Decimal128"
  | .long => "Long"

/-- The number that stands for the class in texts. -/
def index (c : BuiltinClass) : Nat := all.findIdx (· = c) + 1

end BuiltinClass

inductive ClassId
  | builtin (builtinClass : BuiltinClass)
  | declared (number : Nat)
  deriving DecidableEq, Repr

namespace ClassId

/-- The number of the first declared class. -/
def firstNumber : Nat := 64

def isBuiltin : ClassId → Bool
  | .builtin _ => true
  | .declared _ => false

/-- The text for a class without a name. -/
def text : ClassId → String
  | .builtin c => "#" ++ toString c.index
  | .declared number => "#" ++ toString number

end ClassId

/-- Hands out the numbers of declared classes, over all registries. -/
structure ClassNumbers where
  next : Nat := ClassId.firstNumber

end DocumentModel
