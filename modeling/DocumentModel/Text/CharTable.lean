/-!
# Tables over characters

A table is an array of entries in ascending order of their code points, searched by halving.
-/

namespace DocumentModel

namespace Text

abbrev CharTable (α : Type) := Array (Nat × α)

namespace CharTable

variable {α : Type}

/-- Searches between two places of the array, the upper one excluded. -/
def search? (table : CharTable α) (n low high : Nat) : Option α :=
  if _h : low < high then
    let middle := (low + high) / 2
    match table[middle]? with
    | none => none
    | some (key, value) =>
      if n < key then search? table n low middle
      else if key < n then search? table n (middle + 1) high
      else some value
  else none
termination_by high - low

/-- The value of a code point. -/
def find? (table : CharTable α) (n : Nat) : Option α := search? table n 0 table.size

end CharTable

end Text

end DocumentModel
