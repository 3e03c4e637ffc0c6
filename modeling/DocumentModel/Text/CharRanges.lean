/-!
# Sets of characters as sorted ranges

A set of code points is an array of closed ranges in ascending order. Large sets are written down as
text: the gaps between ranges and the lengths of ranges in turn, each a number in base 32 whose
digits `0`-`9`, `a`-`v` end a number and whose digits `w`-`z`, `A`-`Z`, `-`, `_` continue it.
-/

namespace DocumentModel

namespace Text

abbrev CharRanges := Array (Nat × Nat)

namespace CharRanges

/-! ## Reading a written set -/

/-- The value of a digit, from 0 to 63. -/
def digitValue (c : Char) : Nat :=
  let n := c.toNat
  if n = 0x2D then 62
  else if n = 0x5F then 63
  else if n ≤ 0x39 then n - 0x30
  else if n ≤ 0x5A then n - 0x41 + 36
  else n - 0x61 + 10

/-- The numbers read so far and what is read of the next one, after one more digit. -/
def readDigit (state : Array Nat × Nat) (c : Char) : Array Nat × Nat :=
  let d := digitValue c
  if d < 32 then (state.1.push (32 * state.2 + d), 0) else (state.1, 32 * state.2 + (d - 32))

/-- The numbers of a written sequence. -/
def numbers (text : String) : Array Nat := (text.toList.foldl readDigit (#[], 0)).1

/-- The ranges given by gaps and lengths, from a position on. -/
def ofGaps (position : Nat) : List Nat → List (Nat × Nat)
  | gap :: length :: rest =>
    let first := position + gap
    (first, first + length) :: ofGaps (first + length + 1) rest
  | _ => []

def decode (text : String) : CharRanges := (ofGaps 0 (numbers text).toList).toArray

/-! ## Membership -/

/-- Searches between two places of the array, the upper one excluded. -/
def search (ranges : CharRanges) (n low high : Nat) : Bool :=
  if _h : low < high then
    let middle := (low + high) / 2
    match ranges[middle]? with
    | none => false
    | some (first, last) =>
      if n < first then search ranges n low middle
      else if last < n then search ranges n (middle + 1) high
      else true
  else false
termination_by high - low

/-- Whether a set holds a code point. -/
def has (ranges : CharRanges) (n : Nat) : Bool := search ranges n 0 ranges.size

end CharRanges

end Text

end DocumentModel
