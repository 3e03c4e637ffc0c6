import DocumentModel.Number.Power
import DocumentModel.Text.Digit

/-!
# Numeric hosts

Addresses of the fourth version are up to four numbers with points between them, each decimal,
octal behind a `0` or hexadecimal behind `0x`; the last number fills the bytes that are left.
Addresses of the sixth version are eight groups of hexadecimal digits, of which `::` replaces at
least one, and the last two may be written as four decimal bytes.
-/

namespace DocumentModel

namespace Format

namespace Url

/-! ## Fourth version -/

/-- A part of an address, which is not empty. -/
def addressPart? : List Char → Option Nat
  | [] => none
  | '0' :: 'x' :: digits => Text.readDigits? 16 digits
  | '0' :: 'X' :: digits => Text.readDigits? 16 digits
  | '0' :: digits => Text.readDigits? 8 digits
  | digits => Text.readDigits? 10 digits

/-- The last of parts, or the one before if the last is empty. -/
def lastPart? (parts : List (List Char)) : Option (List Char) :=
  match parts.reverse with
  | [] :: rest => rest.head?
  | rest => rest.head?

/-- Whether a host means an address: its last part is a number, even a wrong one such as `08`. -/
def endsInNumber (parts : List (List Char)) : Bool :=
  (lastPart? parts).any fun part =>
    (!part.isEmpty && part.all Char.isDigit) || (addressPart? part).isSome

def isAddress (parts : List (List Char)) : Bool :=
  let parts := if parts.getLast? = some [] then parts.dropLast else parts
  match parts.mapM addressPart? with
  | none => false
  | some numbers =>
    numbers.length ≤ 4 && numbers.dropLast.all (· ≤ 255)
      && numbers.getLast?.any (· < powerOfTwo (8 * (5 - numbers.length)))

/-! ## Sixth version -/

/-- A byte in decimal digits without a leading zero. -/
def isDecimalByte (cs : List Char) : Bool :=
  !cs.isEmpty && (cs.head? != some '0' || cs.length = 1) && (Text.readDigits? 10 cs).any (· ≤ 255)

def isGroup (cs : List Char) : Bool :=
  !cs.isEmpty && cs.length ≤ 4 && cs.all Text.isHexDigit

def isDottedBytes (cs : List Char) : Bool :=
  let parts := cs.splitOn '.'
  parts.length = 4 && parts.all isDecimalByte

/-- How many groups are written, the decimal bytes counting as two. They may stand at the end of the
address only. -/
def countGroups? (atEnd : Bool) (cs : List Char) : Option Nat :=
  if cs.isEmpty then some 0
  else
    let groups := cs.splitOn ':'
    let count := groups.length
    if groups.all isGroup then some count
    else if atEnd && groups.dropLast.all isGroup && groups.getLast?.any isDottedBytes then
      some (count + 1)
    else none

/-- What stands before and after the first `::`. -/
def splitAtDoubleColon? : List Char → Option (List Char × List Char)
  | [] => none
  | ':' :: ':' :: rest => some ([], rest)
  | c :: rest => (splitAtDoubleColon? rest).map fun (before, after) => (c :: before, after)

/-- The text between the square brackets of a host. -/
def isGroupedAddress (cs : List Char) : Bool :=
  match splitAtDoubleColon? cs with
  | none => countGroups? true cs = some 8
  | some (before, after) =>
    match countGroups? false before, countGroups? true after with
    | some m, some n => m + n ≤ 7
    | _, _ => false

end Url

end Format

end DocumentModel
