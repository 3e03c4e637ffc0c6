import DocumentModel.Pattern.Footprint
import DocumentModel.Pattern.Property

/-!
# Expressions

An expression is a pattern whose flags have been resolved: it knows sets of characters, tests on the
characters around a place, sequence, choice and repetition. `Term.resolve?` turns terms into
expressions and refuses what has no meaning under the flags in force, among them everything that
would match a part of a character.
-/

namespace DocumentModel

namespace Pattern

open Text (CharRanges)

/-- A test on a place between two characters. -/
inductive Look
  | startText
  | endText
  | startLine (crlf : Bool)
  | endLine (crlf : Bool)
  | boundary (unicode : Bool)
  | noBoundary (unicode : Bool)
  | wordStart (unicode : Bool)
  | wordEnd (unicode : Bool)
  | wordStartHalf (unicode : Bool)
  | wordEndHalf (unicode : Bool)
  deriving DecidableEq, Repr

inductive Expression
  | empty
  | chars (set : CharRanges)
  | look (look : Look)
  | seq (left right : Expression)
  | choice (left right : Expression)
  | repeated (inner : Expression) (least : Nat) (most : Option Nat)
  deriving DecidableEq, Repr

/-! ## Flags in force -/

structure Flags where
  ignoreCase : Bool := false
  multiLine : Bool := false
  dotNewLine : Bool := false
  unicode : Bool := true
  crlf : Bool := false

def Flags.set (f : Flags) (change : Flag × Bool) : Flags :=
  match change with
  | (.ignoreCase, value) => { f with ignoreCase := value }
  | (.multiLine, value) => { f with multiLine := value }
  | (.dotNewLine, value) => { f with dotNewLine := value }
  | (.unicode, value) => { f with unicode := value }
  | (.crlf, value) => { f with crlf := value }
  | (.swapGreed, _) | (.verbose, _) => f

def Flags.apply (f : Flags) (changes : FlagChanges) : Flags := changes.foldl Flags.set f

/-! ## Classes -/

/-- A set under the flag for case. -/
def Flags.fold (f : Flags) (set : CharRanges) : CharRanges :=
  if !f.ignoreCase then set
  else if f.unicode then CharSet.foldCase set
  else CharSet.foldAsciiCase set

/-- Without Unicode a class may hold ASCII characters only. -/
def Flags.admit? (f : Flags) (set : CharRanges) : Option CharRanges :=
  if f.unicode || CharSet.isAscii set then some set else none

def negateIf (negated : Bool) (set : CharRanges) : CharRanges :=
  if negated then CharSet.complement set else set

def SetOperator.apply : SetOperator → CharRanges → CharRanges → CharRanges
  | .intersection => CharSet.inter
  | .difference => CharSet.diff
  | .symmetricDifference => CharSet.symmDiff

mutual

/-- The characters of a class under the flags in force. -/
def ClassTerm.resolve? (f : Flags) : ClassTerm → Option CharRanges
  | .empty => some #[]
  | .range a b => f.admit? #[(a.char.toNat, b.char.toNat)]
  | .letter kind negated =>
    f.admit? (negateIf negated (if f.unicode then kind.ranges else kind.asciiRanges))
  | .named kind negated => f.admit? (negateIf negated (f.fold kind.ranges))
  | .property query negated =>
    if f.unicode then query.ranges?.map fun set => negateIf negated (f.fold set) else none
  | .bracketed negated inner => do
    let set ← inner.resolve? f
    f.admit? (negateIf negated (f.fold set))
  | .union items => (resolveItems? f items).map CharSet.ofList
  | .operation operator left right => do
    let a ← left.resolve? f
    let b ← right.resolve? f
    pure (operator.apply (f.fold a) (f.fold b))

def ClassTerm.resolveItems? (f : Flags) : List ClassTerm → Option (List (Nat × Nat))
  | [] => some []
  | item :: rest => do
    let set ← item.resolve? f
    let more ← resolveItems? f rest
    pure (set.toList ++ more)

end

/-! ## Terms -/

/-- A literal under the flags in force. -/
def Literal.resolve? (f : Flags) (l : Literal) : Option CharRanges :=
  if !f.unicode && l.byte && 0x7F < l.char.toNat then none
  else some (f.fold #[(l.char.toNat, l.char.toNat)])

/-- The dot leaves out line ends unless a flag says otherwise. -/
def Flags.dot? (f : Flags) : Option CharRanges :=
  if !f.unicode then none
  else if f.dotNewLine then some CharSet.any
  else if f.crlf then some (CharSet.complement #[(0x0A, 0x0A), (0x0D, 0x0D)])
  else some (CharSet.complement #[(0x0A, 0x0A)])

def Assertion.look (f : Flags) : Assertion → Look
  | .startText => .startText
  | .endText => .endText
  | .startLine => if f.multiLine then .startLine f.crlf else .startText
  | .endLine => if f.multiLine then .endLine f.crlf else .endText
  | .wordBoundary => .boundary f.unicode
  | .notWordBoundary => .noBoundary f.unicode
  | .wordStart => .wordStart f.unicode
  | .wordEnd => .wordEnd f.unicode
  | .wordStartHalf => .wordStartHalf f.unicode
  | .wordEndHalf => .wordEndHalf f.unicode

/-- What a term comes to: its expression, the flags in force after it, and its size. -/
structure Resolved where
  expression : Expression
  flags : Flags
  size : Nat

/-- A set of characters as an expression. -/
def Resolved.ofSet (f : Flags) (set : CharRanges) : Resolved := ⟨.chars set, f, setFootprint set⟩

mutual

def Term.resolve? (f : Flags) : Term → Option Resolved
  | .empty => some ⟨.empty, f, stateSize⟩
  | .flags changes => some ⟨.empty, f.apply changes, 0⟩
  | .literal l => (l.resolve? f).map (.ofSet f)
  | .dot => f.dot?.map (.ofSet f)
  | .assertion a => some ⟨.look (a.look f), f, stateSize⟩
  | .charClass term => (term.resolve? f).map (.ofSet f)
  | .repetition term least most => do
    let inner ← term.resolve? f
    let size := repetitionFootprint inner.size least most
    pure ⟨.repeated inner.expression least most, inner.flags, size⟩
  | .group captures changes term => do
    let inner ← term.resolve? (f.apply changes)
    pure ⟨inner.expression, f, inner.size + if captures then 2 * stateSize else 0⟩
  | .alternation terms => do
    let choices ← resolveChoices? f terms
    pure { choices with size := choices.size + 2 * stateSize }
  | .concat terms => resolveRow? f terms

def Term.resolveRow? (f : Flags) : List Term → Option Resolved
  | [] => some ⟨.empty, f, 0⟩
  | term :: rest => do
    let first ← term.resolve? f
    let more ← resolveRow? first.flags rest
    let expression := match more.expression with
      | .empty => first.expression
      | e => .seq first.expression e
    pure ⟨expression, more.flags, first.size + more.size⟩

def Term.resolveChoices? (f : Flags) : List Term → Option Resolved
  | [] => some ⟨.chars #[], f, 0⟩
  | [term] => term.resolve? f
  | term :: rest => do
    let first ← term.resolve? f
    let more ← resolveChoices? first.flags rest
    pure ⟨.choice first.expression more.expression, more.flags, first.size + more.size + 4⟩

end

end Pattern

end DocumentModel
