import DocumentModel.Json.Basic

/-!
# Directions of indexes

An index is ascending, descending, or of one of the named kinds. A declaration may ask for any
number or name; `IndexDirection.ofSpec?` accepts those that mean a direction.
-/

namespace DocumentModel

inductive IndexDirection
  | ascending
  | descending
  | planar
  | spherical
  | text
  | geoHaystack
  | hashed
  deriving DecidableEq, Repr

/-- A direction as it is declared. -/
inductive DirectionSpec
  | number (value : Int)
  | name (value : String)
  deriving DecidableEq, Repr

def DirectionSpec.text : DirectionSpec → String
  | .number value => toString value
  | .name value => value

def DirectionSpec.toJson : DirectionSpec → Json
  | .number value => Json.ofInt value
  | .name value => .string value

namespace IndexDirection

def all : List IndexDirection :=
  [.ascending, .descending, .planar, .spherical, .text, .geoHaystack, .hashed]

def name : IndexDirection → String
  | .ascending => "1"
  | .descending => "-1"
  | .planar => "2d"
  | .spherical => "2dsphere"
  | .text => "text"
  | .geoHaystack => "geoHaystack"
  | .hashed => "hashed"

/-- The declaration that asks for a direction. -/
def spec : IndexDirection → DirectionSpec
  | .ascending => .number 1
  | .descending => .number (-1)
  | direction => .name direction.name

/-- The direction that a declaration asks for. -/
def ofSpec? (spec : DirectionSpec) : Option IndexDirection :=
  all.find? fun direction => direction.spec = spec

/-- Every direction is read back from what it is written as. -/
theorem ofSpec?_spec (direction : IndexDirection) : ofSpec? direction.spec = some direction := by
  cases direction <;> decide

/-- What stands for the direction in the key of an index. -/
def toJson : IndexDirection → Json
  | .ascending => Json.ofInt 1
  | .descending => Json.ofInt (-1)
  | direction => .string direction.name

end IndexDirection

end DocumentModel
