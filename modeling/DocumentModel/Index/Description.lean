import DocumentModel.Index.Direction
import DocumentModel.Json.Printer

/-!
# Index descriptions

What a declaration asks for, and the index that is made of it: one key with a direction, and
options. The name of an index is its path and direction with an underscore between.
-/

namespace DocumentModel

/-- The index wished for a field. -/
structure IndexSpec where
  /-- Ascending when absent. -/
  direction : Option DirectionSpec := none
  unique : Bool := false
  sparse : Bool := false
  /-- The indexes of the embedded class are made as well, below the path of this field. -/
  passthrough : Bool := false
  /-- No index is made where the class is embedded in another. -/
  exclude : Bool := false
  expireAfterSeconds : Option Nat := none
  deriving DecidableEq, Repr

structure IndexDescription where
  path : String
  direction : IndexDirection
  unique : Bool := false
  sparse : Bool := false
  expireAfterSeconds : Option Nat := none
  deriving DecidableEq, Repr

namespace IndexDescription

def name (d : IndexDescription) : String := d.path ++ "_" ++ d.direction.name

/-- The key of the index: its path with its direction. -/
def key (d : IndexDescription) : List (String × Json) := [(d.path, d.direction.toJson)]

/-- The index on a path that a declaration asks for, or the direction that means nothing. -/
def ofSpec? (path : String) (spec : IndexSpec) : Except DirectionSpec IndexDescription := do
  let direction ← match spec.direction with
    | none => pure .ascending
    | some wanted => match IndexDirection.ofSpec? wanted with
      | some direction => pure direction
      | none => throw wanted
  pure ⟨path, direction, spec.unique, spec.sparse, spec.expireAfterSeconds⟩

/-- The description as an object, with the options that are set. -/
def written (d : IndexDescription) : Json :=
  .object (
    [("name", .string d.name), ("key", .object d.key)]
    ++ (if d.unique then [("unique", .bool true)] else [])
    ++ (if d.sparse then [("sparse", .bool true)] else [])
    ++ match d.expireAfterSeconds with
      | some seconds => [("expireAfterSeconds", Json.ofNat seconds)]
      | none => [])

/-- The same index below another path. -/
def relocate (parent : String) (d : IndexDescription) : IndexDescription :=
  { d with path := parent ++ "." ++ d.path }

end IndexDescription

end DocumentModel
