import DocumentModel.Text.Alphanumeric
import DocumentModel.Text.Blank

/-!
# Email addresses

An address is a local part and a domain around the last `@`; a display name may stand before it,
with the address in angle brackets. The local part is atoms with points between them, or quoted. The
domain is labels with points between them, or a literal in square brackets.

Lengths are counted in bytes of UTF-8.
-/

namespace DocumentModel

namespace Format

namespace Email

def byteLength (cs : List Char) : Nat := (String.ofList cs).utf8ByteSize

/-! ## Classes of characters -/

/-- A block that is admitted beside letters and digits. -/
def isExtra (c : Char) : Bool :=
  let n := c.toNat
  0xC200 ≤ n && n ≤ 0xDFFF && 0x80 ≤ n % 256 && n % 256 ≤ 0xBF

def isAtomChar (c : Char) : Bool :=
  Text.isAlphanumeric c || "!#$%&'*+-/=?^_`\x7b|\x7d~".toList.contains c || isExtra c

def isVisible (c : Char) : Bool := 0x21 ≤ c.toNat && c.toNat ≤ 0x7E

/-- What stands for itself between quotes: visible characters less quote and backslash. -/
def isQuotedChar (c : Char) : Bool := (isVisible c && c != '"' && c != '\\') || isExtra c

/-- Visible characters less the square brackets and the backslash. -/
def isLiteralChar (c : Char) : Bool :=
  (isVisible c && c != '[' && c != '\\' && c != ']') || isExtra c

/-! ## Local part -/

def isAtom (cs : List Char) : Bool := !cs.isEmpty && cs.all isAtomChar

/-- Cuts at every point. -/
def splitAtPoints (cs : List Char) : List (List Char) := cs.splitOn '.'

/-- Between quotes a backslash keeps the visible character after it. -/
def isQuotedContent : List Char → Bool
  | [] => true
  | '\\' :: c :: rest => isVisible c && isQuotedContent rest
  | c :: rest => (c == ' ' || c == '\t' || isQuotedChar c) && isQuotedContent rest

def isLocalPart (cs : List Char) : Bool :=
  if cs.isEmpty || 64 < byteLength cs then false
  else if cs.head? == some '"' && cs.getLast? == some '"' then
    2 < cs.length && isQuotedContent (cs.drop 1).dropLast
  else (splitAtPoints cs).all isAtom

/-! ## Domain -/

/-- A label starts and ends with a letter or digit. -/
def isLabel (cs : List Char) : Bool :=
  cs.head?.any Text.isAlphanumeric && cs.getLast?.any Text.isAlphanumeric
    && byteLength cs ≤ 63 && cs.all isAtomChar

def isDomain (cs : List Char) : Bool :=
  if cs.isEmpty || 254 < byteLength cs then false
  else if cs.head? == some '[' && cs.getLast? == some ']' then
    (cs.drop 1).dropLast.all isLiteralChar
  else (splitAtPoints cs).all isLabel

/-! ## Addresses -/

/-- What stands after the last occurrence of a blank and an opening angle bracket. -/
def afterDisplayName? : List Char → Option (List Char)
  | [] => none
  | ' ' :: '<' :: rest => (afterDisplayName? ('<' :: rest)).or (some rest)
  | _ :: rest => afterDisplayName? rest

/-- The address itself: the whole text, or what the angle brackets after a display name hold. -/
def bareAddress? (cs : List Char) : Option (List Char) :=
  match afterDisplayName? cs with
  | none => some cs
  | some rest =>
    let rest := Text.trimChars rest
    if rest.getLast? == some '>' then some rest.dropLast else none

end Email

open Email in
def isEmail (s : String) : Bool :=
  match bareAddress? s.toList with
  | none => false
  | some cs =>
    let domain := (cs.reverse.takeWhile (· != '@')).reverse
    let before := cs.reverse.dropWhile (· != '@')
    !before.isEmpty && isLocalPart (before.drop 1).reverse && isDomain domain

end Format

end DocumentModel
