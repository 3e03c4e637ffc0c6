/-!
# Terms of patterns

A pattern as it is written: literals, classes, assertions, repetitions, groups and flags. What a
term means depends on the flags in force where it stands, which `Pattern.Expression` resolves.
-/

namespace DocumentModel

namespace Pattern

/-! ## Flags -/

inductive Flag
  | ignoreCase
  | multiLine
  | dotNewLine
  | swapGreed
  | unicode
  | crlf
  | verbose
  deriving DecidableEq, Repr

/-- Flags to switch on or off, in the order written. -/
abbrev FlagChanges := List (Flag × Bool)

/-- What the changes say about a flag, if they mention it. -/
def FlagChanges.get? (changes : FlagChanges) (flag : Flag) : Option Bool :=
  (changes.find? fun c => decide (c.1 = flag)).map Prod.snd

/-! ## Classes -/

/-- The classes written as a backslash and a letter. -/
inductive LetterClass
  | digit
  | space
  | word
  deriving DecidableEq, Repr

/-- The classes written between `[:` and `:]`. -/
inductive NamedClass
  | alnum | alpha | ascii | blank | cntrl | digit | graph | lower | print | punct | space | upper
  | word | xdigit
  deriving DecidableEq, Repr

/-- What stands after `\p`. -/
inductive PropertyQuery
  | name (name : String)
  | value (property value : String)
  deriving DecidableEq, Repr

inductive SetOperator
  | intersection
  | difference
  | symmetricDifference
  deriving DecidableEq, Repr

/-- A literal; `byte` marks the two-digit hexadecimal form, which can also stand for a byte. -/
structure Literal where
  char : Char
  byte : Bool
  deriving DecidableEq, Repr

inductive ClassTerm
  | empty
  | range (first last : Literal)
  | letter (kind : LetterClass) (negated : Bool)
  | named (kind : NamedClass) (negated : Bool)
  | property (query : PropertyQuery) (negated : Bool)
  | bracketed (negated : Bool) (inner : ClassTerm)
  | union (items : List ClassTerm)
  | operation (operator : SetOperator) (left right : ClassTerm)

/-! ## Terms -/

inductive Assertion
  | startText
  | endText
  | startLine
  | endLine
  | wordBoundary
  | notWordBoundary
  | wordStart
  | wordEnd
  | wordStartHalf
  | wordEndHalf
  deriving DecidableEq, Repr

inductive Term
  | empty
  | flags (changes : FlagChanges)
  | literal (literal : Literal)
  | dot
  | assertion (assertion : Assertion)
  | charClass (term : ClassTerm)
  | repetition (term : Term) (least : Nat) (most : Option Nat)
  | group (captures : Bool) (changes : FlagChanges) (term : Term)
  | alternation (terms : List Term)
  | concat (terms : List Term)

/-! ## Nesting -/

mutual

/-- How deep brackets, unions and operators nest. -/
def ClassTerm.depth : ClassTerm → Nat
  | .bracketed _ inner => inner.depth + 1
  | .union items => depthOfItems items + 1
  | .operation _ left right => max left.depth right.depth + 1
  | _ => 0

def ClassTerm.depthOfItems : List ClassTerm → Nat
  | [] => 0
  | item :: rest => max item.depth (depthOfItems rest)

end

mutual

/-- How deep repetitions, groups, alternations, concatenations and brackets nest. -/
def Term.depth : Term → Nat
  | .charClass term => term.depth
  | .repetition term _ _ => term.depth + 1
  | .group _ _ term => term.depth + 1
  | .alternation terms => depthOfTerms terms + 1
  | .concat terms => depthOfTerms terms + 1
  | _ => 0

def Term.depthOfTerms : List Term → Nat
  | [] => 0
  | term :: rest => max term.depth (depthOfTerms rest)

end

/-- Several terms in a row, without a node of its own for none or one. -/
def Term.ofRow : List Term → Term
  | [] => .empty
  | [term] => term
  | terms => .concat terms

/-- Several items of a class, without a node of its own for none or one. -/
def ClassTerm.ofItems : List ClassTerm → ClassTerm
  | [] => .empty
  | [item] => item
  | items => .union items

end Pattern

end DocumentModel
