import DocumentModel.Format.Domain.Table.Composition
import DocumentModel.Text.CharRanges
import DocumentModel.Text.CharTable

/-!
# Composed form

Equal characters can be written in one piece or as a letter and marks. The composed form takes all
characters apart, puts the marks behind a letter in the order of their classes and then composes
what can be composed. Syllables of the Korean script are taken apart and composed by calculation.
-/

namespace DocumentModel

namespace Format

namespace Domain

/-! ## Reading the tables -/

def decompositionsFrom (previous : Nat) : List Nat → List (Nat × List Char)
  | gap :: count :: rest =>
    (previous + gap, (rest.take count).map Char.ofNat) ::
      decompositionsFrom (previous + gap) (rest.drop count)
  | _ => []
termination_by numbers => numbers.length
decreasing_by simp only [List.length_cons, List.length_drop]; omega

/-- One number for two characters, in the order of pairs. -/
def pairKey (first second : Nat) : Nat := first * 0x110000 + second

def compositionsFrom (previous : Nat) : List Nat → List (Nat × Char)
  | gap :: second :: composed :: rest =>
    (pairKey (previous + gap) second, Char.ofNat composed) :: compositionsFrom (previous + gap) rest
  | _ => []

def markClassesFrom (position : Nat) : List Nat → List (Nat × Nat)
  | gap :: more :: markClass :: rest =>
    (List.range (more + 1)).map (fun i => (position + gap + i, markClass)) ++
      markClassesFrom (position + gap + more + 1) rest
  | _ => []

def decompositions : Text.CharTable (List Char) :=
  (decompositionsFrom 0 (Text.CharRanges.numbers decompositionText).toList).toArray

def compositions : Text.CharTable Char :=
  (compositionsFrom 0 (Text.CharRanges.numbers compositionText).toList).toArray

def markClasses : Text.CharTable Nat :=
  (markClassesFrom 0 (Text.CharRanges.numbers markClassText).toList).toArray

/-- The class of a mark, zero for what is none. -/
def markClass (c : Char) : Nat := (markClasses.find? c.toNat).getD 0

/-! ## Korean syllables

A syllable is numbered by its 19 initials, 21 vowels and 28 finals, of which the first stands for no
final.
-/

def firstSyllable : Nat := 0xAC00

def firstInitial : Nat := 0x1100

def firstVowel : Nat := 0x1161

/-- The place before the first final. -/
def noFinal : Nat := 0x11A7

def decomposeSyllable? (c : Char) : Option (List Char) :=
  let n := c.toNat - firstSyllable
  if c.toNat < firstSyllable || 19 * 21 * 28 ≤ n then none
  else
    let start := [Char.ofNat (firstInitial + n / (21 * 28)), Char.ofNat (firstVowel + n / 28 % 21)]
    some (if n % 28 = 0 then start else start ++ [Char.ofNat (noFinal + n % 28)])

def composeSyllable? (a b : Char) : Option Char :=
  let initial := a.toNat - firstInitial
  let vowel := b.toNat - firstVowel
  let syllable := a.toNat - firstSyllable
  let final := b.toNat - noFinal
  if firstInitial ≤ a.toNat && initial < 19 && firstVowel ≤ b.toNat && vowel < 21 then
    some (Char.ofNat (firstSyllable + (initial * 21 + vowel) * 28))
  else if firstSyllable ≤ a.toNat && syllable < 19 * 21 * 28 && syllable % 28 = 0
      && noFinal < b.toNat && final < 28 then
    some (Char.ofNat (a.toNat + final))
  else none

/-! ## Taking apart and composing -/

def decompose (c : Char) : List Char :=
  ((decomposeSyllable? c).or (decompositions.find? c.toNat)).getD [c]

def compose? (a b : Char) : Option Char :=
  (composeSyllable? a b).or (compositions.find? (pairKey a.toNat b.toNat))

/-- Moves a mark behind the marks of lower classes. -/
def insertMark (c : Char) : List Char → List Char
  | [] => [c]
  | d :: rest =>
    if markClass d ≠ 0 && markClass d < markClass c then d :: insertMark c rest else c :: d :: rest

/-- Puts each run of marks in the order of their classes, marks of one class as they stand. -/
def orderMarks (cs : List Char) : List Char :=
  cs.foldr (fun c rest => if markClass c = 0 then c :: rest else insertMark c rest) []

/-- Composes with a letter what follows it. The marks in `passed` did not compose with it; a
character is blocked by one of them unless its class is greater. -/
def composeWith (letter : Char) (passed : List Char) : List Char → List Char
  | [] => letter :: passed
  | c :: rest =>
    let blocked := passed.getLast?.any fun d => markClass c ≤ markClass d
    match if blocked then none else compose? letter c with
    | some composed => composeWith composed passed rest
    | none =>
      if markClass c = 0 then letter :: passed ++ composeWith c [] rest
      else composeWith letter (passed ++ [c]) rest

/-- Marks that have no letter before them stay as they are. -/
def composeAll : List Char → List Char
  | [] => []
  | c :: rest => if markClass c = 0 then composeWith c [] rest else c :: composeAll rest

/-- The composed form. -/
def composed (cs : List Char) : List Char := composeAll (orderMarks (cs.flatMap decompose))

end Domain

end Format

end DocumentModel
