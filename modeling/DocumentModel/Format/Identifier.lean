import DocumentModel.Text.Blank
import DocumentModel.Text.Digit

/-!
# Identifiers

Object ids, collision-resistant ids and universally unique ids as text.
-/

namespace DocumentModel

namespace Format

/-! ## Object ids -/

/-- An object id is 24 hexadecimal digits. -/
def isObjectId (s : String) : Bool := s.length == 24 && s.toList.all Text.isHexDigit

/-! ## Collision-resistant ids -/

/-- A collision-resistant id is a `c` of either case before eight or more characters that are
neither white space nor a hyphen. -/
def isCuid (s : String) : Bool :=
  match s.toList with
  | first :: rest =>
    (first == 'c' || first == 'C') && 8 ≤ rest.length
      && rest.all fun c => !Text.isBlank c && c != '-'
  | [] => false

/-! ## Universally unique ids -/

/-- The lengths of the groups of digits between hyphens. -/
def uuidGroups : List Nat := [8, 4, 4, 4, 12]

/-- Groups of digits of the given lengths, with a hyphen between groups. -/
def isHyphenated : List Nat → List Char → Bool
  | [], cs => cs.isEmpty
  | [n], cs => cs.length == n && cs.all Text.isHexDigit
  | n :: more, cs =>
    (cs.take n).length == n && (cs.take n).all Text.isHexDigit && (cs.drop n).head? == some '-'
      && isHyphenated more (cs.drop (n + 1))

def urnPrefix : List Char := "urn:uuid:".toList

/-- 32 digits; or five groups of digits, which may stand in braces or after `urn:uuid:`. -/
def isUuid (s : String) : Bool :=
  let cs := s.toList
  if cs.length == 32 then cs.all Text.isHexDigit
  else if cs.length == 36 then isHyphenated uuidGroups cs
  else if cs.length == 38 then
    cs.head? == some '{' && cs.getLast? == some '}' && isHyphenated uuidGroups (cs.drop 1).dropLast
  else if cs.length == 45 then
    (cs.take 9).map Char.toLower == urnPrefix && isHyphenated uuidGroups (cs.drop 9)
  else false

end Format

end DocumentModel
