import DocumentModel.Format.Domain.Composition
import DocumentModel.Format.Domain.Mapping
import DocumentModel.Format.Domain.Punycode
import DocumentModel.Format.Domain.Table.Joining

/-!
# Labels of domain names

A label is what stands between the points of a domain name, after mapping and composing. One that
starts with `xn--` is the Punycode of another.
-/

namespace DocumentModel

namespace Format

namespace Domain

def isAscii (c : Char) : Bool := c.toNat < 0x80

/-- Characters that no label holds. -/
def isForbidden (c : Char) : Bool :=
  c ≤ ' ' || c = '\x7F' || ('A' ≤ c && c ≤ 'Z') || "%#/:<>?@[\\]^|".toList.contains c

/-! ## Marks and joiners -/

def marks : Text.CharRanges := Text.CharRanges.decode markText

def joinsBoth : Text.CharRanges := Text.CharRanges.decode joinsBothText

def joinsNext : Text.CharRanges := Text.CharRanges.decode joinsNextText

def joinsPrevious : Text.CharRanges := Text.CharRanges.decode joinsPreviousText

def transparent : Text.CharRanges := Text.CharRanges.decode transparentText

def startsWithMark (cs : List Char) : Bool := cs.head?.any fun c => marks.has c.toNat

/-- The first character that joining does not look through. -/
def joining? (cs : List Char) : Option Char := cs.find? fun c => !transparent.has c.toNat

/-- A joiner may stand behind a mark that takes a vowel away. -/
def endsWithVirama (before : List Char) : Bool := before.head?.any fun c => markClass c = 9

/-- Whether a non-joiner separates two characters that else would join; what stands before it is
given backwards. -/
def separatesJoined (before after : List Char) : Bool :=
  (joining? before).any (fun c => joinsBoth.has c.toNat || joinsNext.has c.toNat)
    && (joining? after).any fun c => joinsBoth.has c.toNat || joinsPrevious.has c.toNat

/-- Whether every joiner and non-joiner stands where it makes a difference. -/
def areJoinersPlaced (before : List Char) : List Char → Bool
  | [] => true
  | c :: rest =>
    let placed :=
      if c = '\u200C' then endsWithVirama before || separatesJoined before rest
      else if c = '\u200D' then endsWithVirama before
      else true
    placed && areJoinersPlaced (c :: before) rest

def isWellFormed (cs : List Char) : Bool := !startsWithMark cs && areJoinersPlaced [] cs

/-! ## Reading -/

/-- The longest code that is read. -/
def maxCodeLength : Nat := 2000

/-- The longest label with characters beyond ASCII. -/
def maxLabelLength : Nat := 1000

/-- The label that stands behind a code. It has to be what mapping and composing would have made. -/
def decodeLabel? (code : List Char) : Option (List Char) :=
  if !code.all isAscii || code.getLast?.all (· == '-') || maxCodeLength < code.length then none
  else
    (Punycode.decode? code).filter fun cs =>
      cs.all (fun c => isKept c && !isForbidden c && c != '.') && composed cs == cs
        && isWellFormed cs

/-- The label itself in place of a code, `none` where the label is refused. -/
def readLabel? : List Char → Option (List Char)
  | 'x' :: 'n' :: '-' :: '-' :: code => decodeLabel? code
  | cs =>
    if cs.any isForbidden then none
    else if cs.all isAscii || (isWellFormed cs && cs.length ≤ maxLabelLength) then some cs
    else none

end Domain

end Format

end DocumentModel
