import DocumentModel.Format.Domain.Table.Mapping
import DocumentModel.Text.CharTable

/-!
# Mapping the characters of domain names

Before a domain name is cut into labels, each of its characters is kept, dropped, replaced by others
or refused. Capitals and characters of other widths are replaced, so that names that differ in such
things only become one. What replaces a character is kept by a second mapping.
-/

namespace DocumentModel

namespace Format

namespace Domain

/-! ## Reading the table of replacements -/

/-- A run of characters, each one replaced by the one at the same distance. -/
def replacementRun (first target step : Nat) (count : Nat) : List (Nat × List Char) :=
  (List.range count).map fun i => (first + step * i, [Char.ofNat (target + step * i)])

/-- The replacements that are written down, behind the one of a character `previous`. -/
def replacementsFrom (previous : Nat) : List Nat → List (Nat × List Char)
  | gap :: h :: rest =>
    let first := previous + gap
    if h % 3 = 0 then
      (first, (rest.take (h / 3)).map Char.ofNat) :: replacementsFrom first (rest.drop (h / 3))
    else
      replacementRun first (rest.headD 0) (h % 3) (h / 3) ++ replacementsFrom first (rest.drop 1)
  | _ => []
termination_by numbers => numbers.length
decreasing_by all_goals simp only [List.length_cons, List.length_drop]; omega

/-! ## The mapping -/

def keptChars : Text.CharRanges := Text.CharRanges.decode keptText

def droppedChars : Text.CharRanges := Text.CharRanges.decode droppedText

def replacements : Text.CharTable (List Char) :=
  (replacementsFrom 0 (Text.CharRanges.numbers replacedText).toList).toArray

def isKept (c : Char) : Bool := keptChars.has c.toNat

/-- What a character becomes, `none` where it is refused. -/
def mapChar? (c : Char) : Option (List Char) :=
  if isKept c then some [c]
  else if droppedChars.has c.toNat then some []
  else replacements.find? c.toNat

/-- Refused if one of the characters is. -/
def mapChars? (cs : List Char) : Option (List Char) := (cs.mapM mapChar?).map List.flatten

end Domain

end Format

end DocumentModel
