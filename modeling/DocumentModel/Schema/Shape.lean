/-!
# Shapes

A shape is the list of an object's properties in the order of their first insertion. Inserting a key
that is present replaces its entry in place.
-/

namespace DocumentModel

/-- Entries with their keys, in the order of first insertion. -/
abbrev Shape (α : Type) := List (String × α)

namespace Shape

variable {α : Type}

def insert (key : String) (entry : α) : Shape α → Shape α
  | [] => [(key, entry)]
  | (k, e) :: rest => if k = key then (k, entry) :: rest else (k, e) :: insert key entry rest

def get? (key : String) : Shape α → Option α
  | [] => none
  | (k, e) :: rest => if k = key then some e else get? key rest

def contains (shape : Shape α) (key : String) : Bool := (get? key shape).isSome

def keys (shape : Shape α) : List String := shape.map Prod.fst

/-- Inserts every entry of another shape. -/
def extend (shape other : Shape α) : Shape α :=
  other.foldl (fun s entry => insert entry.1 entry.2 s) shape

def ofEntries (entries : List (String × α)) : Shape α := extend [] entries

end Shape

end DocumentModel
