import DocumentModel.Pattern.Match
import DocumentModel.Pattern.Reader

/-!
# Patterns

A pattern is a source text that can be read as an expression of acceptable size, together with that
expression. Two patterns are the same when their sources are.
-/

namespace DocumentModel

structure Pattern where
  source : String
  expression : Pattern.Expression

namespace Pattern

/-- The pattern with a source, if the source is well formed, means something, and is not too
large. -/
def compile? (source : String) : Option Pattern := do
  let term ← readTerm? source
  let resolved ← term.resolve? {}
  if resolved.size ≤ sizeLimit then pure ⟨source, resolved.expression⟩ else none

/-- Whether the pattern matches somewhere in a text. -/
def isFoundIn (p : Pattern) (text : String) : Bool := p.expression.finds text.toList

/-- Patterns are compared by their sources. -/
def same (a b : Pattern) : Bool := a.source == b.source

/-! ## Escaping -/

/-- A source that matches a text and nothing else. -/
def escape (text : String) : String :=
  String.ofList (text.toList.flatMap fun c => if isMeta c then ['\\', c] else [c])

end Pattern

end DocumentModel
