import DocumentModel.Text.CharRanges
import DocumentModel.Pattern.Table.CaseFold

/-!
# Operations on sets of characters

Sets are ascending ranges of code points that neither overlap nor touch. Union sorts and merges;
everything else comes from union and complement.
-/

namespace DocumentModel

namespace Pattern

open Text (CharRanges)

namespace CharSet

def last : Nat := 0x10FFFF

/-- A range followed by others: it takes in the ranges after it that overlap or touch it. The ranges
come in ascending order of their first points. -/
def mergeFrom : Nat × Nat → List (Nat × Nat) → List (Nat × Nat)
  | range, [] => [range]
  | range, next :: rest =>
    if next.1 ≤ range.2 + 1 then mergeFrom (range.1, Nat.max range.2 next.2) rest
    else range :: mergeFrom next rest

def merge : List (Nat × Nat) → List (Nat × Nat)
  | [] => []
  | range :: rest => mergeFrom range rest

def ofList (ranges : List (Nat × Nat)) : CharRanges :=
  (merge (ranges.mergeSort fun a b => a.1 ≤ b.1)).toArray

/-- The gaps between ranges, from a position on. -/
def gaps (position : Nat) : List (Nat × Nat) → List (Nat × Nat)
  | [] => if position ≤ last then [(position, last)] else []
  | (first, final) :: rest =>
    if position < first then (position, first - 1) :: gaps (final + 1) rest
    else gaps (final + 1) rest

def complement (a : CharRanges) : CharRanges := (gaps 0 a.toList).toArray

def union (a b : CharRanges) : CharRanges := ofList (a.toList ++ b.toList)

def inter (a b : CharRanges) : CharRanges := complement (union (complement a) (complement b))

def diff (a b : CharRanges) : CharRanges := inter a (complement b)

def symmDiff (a b : CharRanges) : CharRanges := union (diff a b) (diff b a)

def any : CharRanges := #[(0, last)]

def ascii : CharRanges := #[(0, 0x7F)]

/-- Whether every member is an ASCII character. -/
def isAscii (a : CharRanges) : Bool := a.all fun r => r.2 < 0x80

/-- Adds the characters that differ from a member in case alone. -/
def foldCase (a : CharRanges) : CharRanges :=
  let added := foldClasses.flatMap fun members =>
    if members.any a.has then members.map fun n => (n, n) else []
  if added.isEmpty then a else ofList (a.toList ++ added)

/-- Adds the ASCII letters that differ from a member in case alone. -/
def foldAsciiCase (a : CharRanges) : CharRanges :=
  let added := (List.range 26).flatMap fun i =>
    if a.has (0x41 + i) || a.has (0x61 + i) then [(0x41 + i, 0x41 + i), (0x61 + i, 0x61 + i)]
    else []
  if added.isEmpty then a else ofList (a.toList ++ added)

end CharSet

end Pattern

end DocumentModel
