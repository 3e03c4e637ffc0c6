/-!
# Digits

The digits of number systems up to base 16, with letters of either case, and the numbers they write.
-/

namespace DocumentModel

namespace Text

/-- The value of a hexadecimal digit. -/
def hexValue? (c : Char) : Option Nat :=
  if '0' ≤ c && c ≤ '9' then some (c.toNat - 0x30)
  else if 'a' ≤ c && c ≤ 'f' then some (c.toNat - 0x61 + 10)
  else if 'A' ≤ c && c ≤ 'F' then some (c.toNat - 0x41 + 10)
  else none

def isHexDigit (c : Char) : Bool := (hexValue? c).isSome

/-- The value of a digit that a base has. -/
def digitValue? (base : Nat) (c : Char) : Option Nat := (hexValue? c).filter (· < base)

/-- The number that digits write; no digits write zero. -/
def readDigits? (base : Nat) (digits : List Char) : Option Nat :=
  digits.foldlM (fun n c => (base * n + ·) <$> digitValue? base c) 0

/-- The character with a code point, unless it is a surrogate or too large. -/
def charOfNat? (n : Nat) : Option Char :=
  if h : n.isValidChar then some (Char.ofNatAux n h) else none

/-- The character whose code point has the given hexadecimal digits. -/
def charOfHex? (digits : List Char) : Option Char := (readDigits? 16 digits).bind charOfNat?

end Text

end DocumentModel
