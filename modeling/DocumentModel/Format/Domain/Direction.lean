import DocumentModel.Format.Domain.Table.Direction
import DocumentModel.Text.CharRanges

/-!
# Labels in scripts of both directions

A domain name that holds a character of a script written from right to left is admitted only if each
of its labels keeps to one direction, so that no label runs into another when the name is shown.
-/

namespace DocumentModel

namespace Format

namespace Domain

/-- The part of a character in text of both directions. -/
inductive Direction where
  | leftToRight
  | rightToLeft
  | arabicNumber
  | europeanNumber
  | neutral
  | nonspacing
  deriving DecidableEq, Repr

def rightToLeftChars : Text.CharRanges := Text.CharRanges.decode rightToLeftText

def arabicNumberChars : Text.CharRanges := Text.CharRanges.decode arabicNumberText

def europeanNumberChars : Text.CharRanges := Text.CharRanges.decode europeanNumberText

def neutralChars : Text.CharRanges := Text.CharRanges.decode neutralText

def nonspacingChars : Text.CharRanges := Text.CharRanges.decode nonspacingText

def Direction.ofChar (c : Char) : Direction :=
  let n := c.toNat
  if rightToLeftChars.has n then .rightToLeft
  else if arabicNumberChars.has n then .arabicNumber
  else if europeanNumberChars.has n then .europeanNumber
  else if neutralChars.has n then .neutral
  else if nonspacingChars.has n then .nonspacing
  else .leftToRight

/-- Whether a character makes its name one of both directions. -/
def isTurning (c : Char) : Bool :=
  let direction := Direction.ofChar c
  direction = .rightToLeft || direction = .arabicNumber

/-- The directions behind the first character, less the marks at the end. -/
def directionsBehind (cs : List Char) : List Direction :=
  ((cs.map Direction.ofChar).reverse.dropWhile (· = .nonspacing)).reverse

/-- A label written from left to right ends with a letter or a European number. -/
def isLeftToRight (behind : List Direction) : Bool :=
  behind.getLast?.all (fun d => d = .leftToRight || d = .europeanNumber)
    && behind.all fun d => d != .rightToLeft && d != .arabicNumber

/-- A label written from right to left ends with a letter or a number and has numbers of one
kind. -/
def isRightToLeft (behind : List Direction) : Bool :=
  behind.getLast?.all (fun d => d = .rightToLeft || d = .europeanNumber || d = .arabicNumber)
    && !behind.contains .leftToRight
    && !(behind.contains .europeanNumber && behind.contains .arabicNumber)

/-- Whether a label keeps to the direction of its first character, which has to have one. -/
def keepsDirection : List Char → Bool
  | [] => true
  | c :: rest =>
    match Direction.ofChar c with
    | .leftToRight => isLeftToRight (directionsBehind rest)
    | .rightToLeft => isRightToLeft (directionsBehind rest)
    | _ => false

def areDirectionsKept (labels : List (List Char)) : Bool :=
  !labels.any (·.any isTurning) || labels.all keepsDirection

end Domain

end Format

end DocumentModel
