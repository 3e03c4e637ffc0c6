import DocumentModel.Pattern.Expression

/-!
# Matching

Matching keeps the list of residuals: what may still follow after the characters read so far. A
residual is a row of expressions to be matched one after the other, and reading a character
replaces each residual by its own residuals. Equal residuals are kept once, so their number is
bounded by the size of the expression however long the text is.

`accepts` and `residuals` look at the place between two characters, because tests on the
surroundings may hold at one place and fail at another.
-/

namespace DocumentModel

namespace Pattern

/-- The characters on both sides of a place. -/
structure Place where
  before : Option Char
  after : Option Char

/-! ## Tests -/

def isWordChar (unicode : Bool) (c : Char) : Bool :=
  (if unicode then wordRanges else LetterClass.word.asciiRanges).has c.toNat

def Place.wordBefore (p : Place) (unicode : Bool) : Bool := p.before.any (isWordChar unicode)

def Place.wordAfter (p : Place) (unicode : Bool) : Bool := p.after.any (isWordChar unicode)

def Place.isStart (p : Place) : Bool := p.before.isNone

def Place.isEnd (p : Place) : Bool := p.after.isNone

/-- Whether a test holds at a place. A carriage return and a line feed together end one line. -/
def Place.holds (p : Place) : Look → Bool
  | .startText => p.isStart
  | .endText => p.isEnd
  | .startLine false => p.isStart || p.before == some '\n'
  | .startLine true =>
    p.isStart || p.before == some '\n' || (p.before == some '\r' && p.after != some '\n')
  | .endLine false => p.isEnd || p.after == some '\n'
  | .endLine true =>
    p.isEnd || p.after == some '\r' || (p.after == some '\n' && p.before != some '\r')
  | .boundary u => p.wordBefore u != p.wordAfter u
  | .noBoundary u => p.wordBefore u == p.wordAfter u
  | .wordStart u => !p.wordBefore u && p.wordAfter u
  | .wordEnd u => p.wordBefore u && !p.wordAfter u
  | .wordStartHalf u => !p.wordBefore u
  | .wordEndHalf u => !p.wordAfter u

/-! ## One expression -/

namespace Expression

/-- Whether nothing at all, at this place, matches. -/
def accepts (p : Place) : Expression → Bool
  | .empty => true
  | .chars _ => false
  | .look test => p.holds test
  | .seq a b => a.accepts p && b.accepts p
  | .choice a b => a.accepts p || b.accepts p
  | .repeated inner least _ => least == 0 || inner.accepts p

/-- The repetition that remains after some rounds. -/
def remaining (inner : Expression) (least : Nat) (most : Option Nat) (rounds : Nat) : Expression :=
  .repeated inner (least - rounds) (most.map (· - rounds))

/--
What is left after reading `c` at this place. A repetition whose inner expression accepts nothing
here may spend some of its rounds without
reading. -/
def residuals (p : Place) (c : Char) : Expression → List (List Expression)
  | .empty => []
  | .chars set => if set.has c.toNat then [[]] else []
  | .look _ => []
  | .seq a b =>
    (a.residuals p c).map (· ++ [b]) ++ (if a.accepts p then b.residuals p c else [])
  | .choice a b => a.residuals p c ++ b.residuals p c
  | .repeated inner least most =>
    let spent := if inner.accepts p then least - 1 else 0
    let rounds := (List.range (spent + 1)).map (· + 1)
    let allowed := rounds.filter fun n => most.all (n ≤ ·)
    let firsts := inner.residuals p c
    allowed.flatMap fun n => firsts.map (· ++ [remaining inner least most n])

end Expression

/-! ## Rows of expressions -/

def rowAccepts (p : Place) (row : List Expression) : Bool := row.all (·.accepts p)

def rowResiduals (p : Place) (c : Char) : List Expression → List (List Expression)
  | [] => []
  | e :: rest =>
    (e.residuals p c).map (· ++ rest) ++ (if e.accepts p then rowResiduals p c rest else [])

/-- Keeps the first of equal rows. -/
def distinctRows (rows : List (List Expression)) : List (List Expression) :=
  (rows.foldl (fun kept row => if kept.contains row then kept else row :: kept) []).reverse

/-! ## Texts -/

/-- Whether a match that has begun, or one that begins here or later, comes to its end. -/
def findsFrom (e : Expression) (before : Option Char) (rows : List (List Expression)) :
    List Char → Bool
  | [] => ([e] :: rows).any (rowAccepts ⟨before, none⟩)
  | c :: cs =>
    let p : Place := ⟨before, some c⟩
    let rows := [e] :: rows
    rows.any (rowAccepts p)
      || findsFrom e (some c) (distinctRows (rows.flatMap (rowResiduals p c))) cs

/-- Whether an expression matches somewhere in a text. -/
def Expression.finds (e : Expression) (text : List Char) : Bool := findsFrom e none [] text

end Pattern

end DocumentModel
