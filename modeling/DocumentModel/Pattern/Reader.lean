import DocumentModel.Number.Power
import DocumentModel.Pattern.Term
import DocumentModel.Text.Alphanumeric
import DocumentModel.Text.Blank
import DocumentModel.Text.Digit

/-!
# Reading patterns

A pattern is read in steps, each of which takes at least one character: `readTerm?` and `readClass?`
go on as long as the rest grows shorter. Groups that are still open wait on a stack, as do the
brackets of a class.

With the flag `x` white space and comments between the parts of a pattern are skipped; there are
no look-around assertions and no references to groups.
-/

namespace DocumentModel

namespace Pattern

/-! ## Blanks and runs of characters -/

/-- Skips white space and comments; `inComment` tells on which of the two we are. -/
def skipBlanksFrom (inComment : Bool) : List Char → List Char
  | [] => []
  | c :: cs =>
    if inComment then skipBlanksFrom (c != '\n') cs
    else if Text.isBlank c then skipBlanksFrom false cs
    else if c = '#' then skipBlanksFrom true cs
    else c :: cs

def skipBlanks (verbose : Bool) (cs : List Char) : List Char :=
  if verbose then skipBlanksFrom false cs else cs

/-- The characters in front that satisfy `p`, with blanks between them skipped. -/
def spacedRunFrom (verbose : Bool) (p : Char → Bool) (inComment : Bool) :
    List Char → List Char × List Char
  | [] => ([], [])
  | c :: cs =>
    if inComment then spacedRunFrom verbose p (c != '\n') cs
    else if verbose && Text.isBlank c then spacedRunFrom verbose p false cs
    else if verbose && c = '#' then spacedRunFrom verbose p true cs
    else if p c then
      let run := spacedRunFrom verbose p false cs
      (c :: run.1, run.2)
    else ([], c :: cs)

def spacedRun (verbose : Bool) (p : Char → Bool) (cs : List Char) : List Char × List Char :=
  spacedRunFrom verbose p false cs

/-! ## Escapes -/

/-- What a backslash or a single character can stand for. -/
inductive Atom
  | literal (literal : Literal)
  | dot
  | assertion (assertion : Assertion)
  | charClass (term : ClassTerm)

def isMeta (c : Char) : Bool := "\\.+*?()|[]\x7b\x7d^$#&-~".toList.contains c

/-- The characters that stand for themselves after a backslash. -/
def isEscapable (c : Char) : Bool :=
  isMeta c || (c.toNat < 0x80 && !c.isAlphanum && c != '<' && c != '>')

/-- A fixed number of hexadecimal digits. -/
def readHexDigits? (verbose : Bool) : Nat → List Char → Option (List Char × List Char)
  | 0, cs => some ([], cs)
  | _ + 1, [] => none
  | n + 1, c :: cs =>
    if Text.isHexDigit c then
      (readHexDigits? verbose n (skipBlanks verbose cs)).map fun r => (c :: r.1, r.2)
    else none

/-- A code point in braces, or as a fixed number of digits. -/
def readCodePoint? (verbose : Bool) (digits : Nat) (cs : List Char) : Option (Atom × List Char) :=
  match skipBlanks verbose cs with
  | [] => none
  | '{' :: cs =>
    match spacedRun verbose (· != '}') cs with
    | (run, _ :: rest) =>
      if run.isEmpty || !run.all Text.isHexDigit || 8 < (run.dropWhile (· == '0')).length then none
      else (Text.charOfHex? run).map fun c => (.literal ⟨c, false⟩, skipBlanks verbose rest)
    | (_, []) => none
  | cs => do
    let (run, rest) ← readHexDigits? verbose digits cs
    let c ← Text.charOfHex? run
    pure (.literal ⟨c, digits == 2⟩, rest)

/-- Cuts a property query at its operator; the flag tells whether the operator negates. -/
def PropertyQuery.ofName (name : List Char) : PropertyQuery × Bool :=
  let rec splitAt (found : List Char) : List Char → Option (List Char × List Char)
    | '!' :: '=' :: rest => some (found.reverse, rest)
    | c :: rest => splitAt (c :: found) rest
    | [] => none
  match splitAt [] name with
  | some (left, right) => (.value (String.ofList left) (String.ofList right), true)
  | none =>
    let cut := fun (mark : Char) =>
      if name.contains mark then
        some (name.takeWhile (· != mark), (name.dropWhile (· != mark)).drop 1)
      else none
    match cut ':' <|> cut '=' with
    | some (left, right) => (.value (String.ofList left) (String.ofList right), false)
    | none => (.name (String.ofList name), false)

/-- What stands after `\p` or `\P`. -/
def readProperty? (verbose negated : Bool) (cs : List Char) : Option (Atom × List Char) :=
  match skipBlanks verbose cs with
  | [] => none
  | '{' :: cs =>
    match spacedRun verbose (· != '}') cs with
    | (run, _ :: rest) =>
      let (query, differs) := PropertyQuery.ofName run
      some (.charClass (.property query (negated != differs)), rest)
    | (_, []) => none
  | '\\' :: _ => none
  | c :: cs =>
    some (.charClass (.property (.name (String.singleton c)) negated), skipBlanks verbose cs)

def boundaryNames : List (String × Assertion) :=
  [("start", .wordStart), ("end", .wordEnd), ("start-half", .wordStartHalf),
   ("end-half", .wordEndHalf)]

/-- After `\b`: a kind of boundary in braces. A brace that starts a count belongs to a
repetition. -/
def readBoundary? (verbose : Bool) (cs : List Char) : Option (Atom × List Char) :=
  let isNamePart := fun (c : Char) => c.isAlpha || c == '-'
  match cs with
  | '{' :: inner =>
    match skipBlanks verbose inner with
    | [] => none
    | c :: more =>
      if isNamePart c then
        match spacedRun verbose isNamePart (c :: more) with
        | (run, '}' :: rest) =>
          (boundaryNames.lookup (String.ofList run)).map fun a => (.assertion a, rest)
        | _ => none
      else some (.assertion .wordBoundary, cs)
  | cs => some (.assertion .wordBoundary, cs)

/-- What stands after a backslash. -/
def readEscape? (verbose : Bool) : List Char → Option (Atom × List Char)
  | [] => none
  | c :: cs =>
    let char := fun (c : Char) => some (Atom.literal ⟨c, false⟩, cs)
    if isEscapable c then char c
    else match c with
      | 'x' => readCodePoint? verbose 2 cs
      | 'u' => readCodePoint? verbose 4 cs
      | 'U' => readCodePoint? verbose 8 cs
      | 'p' => readProperty? verbose false cs
      | 'P' => readProperty? verbose true cs
      | 'd' => some (.charClass (.letter .digit false), cs)
      | 'D' => some (.charClass (.letter .digit true), cs)
      | 's' => some (.charClass (.letter .space false), cs)
      | 'S' => some (.charClass (.letter .space true), cs)
      | 'w' => some (.charClass (.letter .word false), cs)
      | 'W' => some (.charClass (.letter .word true), cs)
      | 'a' => char '\x07'
      | 'f' => char '\x0c'
      | 't' => char '\t'
      | 'n' => char '\n'
      | 'r' => char '\r'
      | 'v' => char '\x0b'
      | 'A' => some (.assertion .startText, cs)
      | 'z' => some (.assertion .endText, cs)
      | 'b' => readBoundary? verbose cs
      | 'B' => some (.assertion .notWordBoundary, cs)
      | '<' => some (.assertion .wordStart, cs)
      | '>' => some (.assertion .wordEnd, cs)
      | _ => none

/-! ## Bracketed classes -/

/-- What waits while an inner part of a class is read; items come latest first. -/
inductive ClassFrame
  | bracket (items : List ClassTerm) (negated : Bool)
  | operator (operator : SetOperator) (left : ClassTerm)

structure ClassState where
  items : List ClassTerm
  stack : List ClassFrame

/-- Completes the operation that waits for its right side. -/
def ClassState.closeOperator (stack : List ClassFrame) (right : ClassTerm) :
    ClassTerm × List ClassFrame :=
  match stack with
  | .operator operator left :: rest => (.operation operator left right, rest)
  | stack => (right, stack)

/-- The members of a class so far, as one term. -/
def ClassState.complete (s : ClassState) : ClassTerm × List ClassFrame :=
  closeOperator s.stack (.ofItems s.items.reverse)

def ClassState.operate (s : ClassState) (operator : SetOperator) : ClassState :=
  let (left, stack) := s.complete
  { items := [], stack := .operator operator left :: stack }

/-- The hyphens in front of a class, which stand for themselves, with blanks between. -/
def leadingHyphens (verbose : Bool) (cs : List Char) : List Char × List Char :=
  spacedRun verbose (· == '-') cs

/-- The start of a class after its bracket. -/
def ClassState.openBracket? (s : ClassState) (verbose : Bool) (cs : List Char) :
    Option (ClassState × List Char) :=
  let self := fun (c : Char) => ClassTerm.range ⟨c, false⟩ ⟨c, false⟩
  let cs := skipBlanks verbose cs
  let (negated, cs) := match cs with
    | '^' :: rest => (true, skipBlanks verbose rest)
    | cs => (false, cs)
  let (hyphens, cs) := leadingHyphens verbose cs
  let items := hyphens.map self
  let stack := .bracket s.items negated :: s.stack
  match items, cs with
  | _, [] => none
  | [], ']' :: rest =>
    match skipBlanks verbose rest with
    | [] => none
    | rest => some ({ items := [self ']'], stack := stack }, rest)
  | items, cs => some ({ items := items, stack := stack }, cs)

def namedClasses : List (String × NamedClass) :=
  [("alnum", .alnum), ("alpha", .alpha), ("ascii", .ascii), ("blank", .blank), ("cntrl", .cntrl),
   ("digit", .digit), ("graph", .graph), ("lower", .lower), ("print", .print), ("punct", .punct),
   ("space", .space), ("upper", .upper), ("word", .word), ("xdigit", .xdigit)]

/-- A named class after its bracket, such as `:alpha:]`. -/
def readNamedClass? (cs : List Char) : Option (ClassTerm × List Char) := do
  let cs ← match cs with
    | ':' :: rest => some rest
    | _ => none
  let (negated, cs) := match cs with
    | '^' :: rest => (true, rest)
    | cs => (false, cs)
  let kind ← namedClasses.lookup (String.ofList (cs.takeWhile (· != ':')))
  match cs.dropWhile (· != ':') with
  | ':' :: ']' :: rest => pure (.named kind negated, rest)
  | _ => none

/-- One member of a class. -/
def readClassAtom? (verbose : Bool) : List Char → Option (Atom × List Char)
  | [] => none
  | '\\' :: cs => readEscape? verbose cs
  | c :: cs => some (.literal ⟨c, false⟩, cs)

/-- A member of a class that is not an end of a range. -/
def Atom.classTerm? : Atom → Option ClassTerm
  | .literal l => some (.range l l)
  | .charClass term => some term
  | _ => none

/-- A member or a range of members. -/
def readClassItem? (verbose : Bool) (cs : List Char) : Option (ClassTerm × List Char) := do
  let (first, rest) ← readClassAtom? verbose cs
  match skipBlanks verbose rest with
  | [] => none
  | '-' :: after =>
    let next := (skipBlanks verbose after).head?
    if next = some ']' || next = some '-' then
      let term ← first.classTerm?
      pure (term, '-' :: after)
    else if next = none then none
    else
      let (final, rest) ← readClassAtom? verbose (skipBlanks verbose after)
      match first, final with
      | .literal a, .literal b =>
        if a.char ≤ b.char then pure (.range a b, rest) else none
      | _, _ => none
  | rest => do
    let term ← first.classTerm?
    pure (term, rest)

/-- The next part of a class: more of it, or the class itself when its bracket closes. -/
def ClassState.step? (verbose : Bool) (s : ClassState) (cs : List Char) :
    Option ((ClassState ⊕ ClassTerm) × List Char) :=
  match skipBlanks verbose cs with
  | [] => none
  | '[' :: rest =>
    match if s.stack.isEmpty then none else readNamedClass? rest with
    | some (term, rest) => some (.inl { s with items := term :: s.items }, rest)
    | none => (s.openBracket? verbose rest).map fun r => (.inl r.1, r.2)
  | ']' :: rest =>
    match s.complete with
    | (inner, .bracket items negated :: stack) =>
      let term := ClassTerm.bracketed negated inner
      if stack.isEmpty then some (.inr term, rest)
      else some (.inl { items := term :: items, stack := stack }, rest)
    | _ => none
  | '&' :: '&' :: rest => some (.inl (s.operate .intersection), rest)
  | '-' :: '-' :: rest => some (.inl (s.operate .difference), rest)
  | '~' :: '~' :: rest => some (.inl (s.operate .symmetricDifference), rest)
  | cs => (readClassItem? verbose cs).map fun r => (.inl { s with items := r.1 :: s.items }, r.2)

/-- Reads a class from its bracket on. -/
def readClassFrom? (verbose : Bool) (s : ClassState) (cs : List Char) :
    Option (ClassTerm × List Char) :=
  match s.step? verbose cs with
  | none => none
  | some (.inr term, rest) => some (term, rest)
  | some (.inl next, rest) =>
    if _h : rest.length < cs.length then readClassFrom? verbose next rest else none
termination_by cs.length

def readClass? (verbose : Bool) (cs : List Char) : Option (ClassTerm × List Char) :=
  readClassFrom? verbose { items := [], stack := [] } cs

/-! ## Repetitions -/

/-- A number with white space around it; `none` inside for no digits at all. -/
def readCount? (verbose : Bool) (cs : List Char) : Option (Option Nat × List Char) :=
  let (digits, rest) := spacedRun verbose Char.isDigit (cs.dropWhile Text.isBlank)
  let rest := rest.dropWhile Text.isBlank
  if digits.isEmpty then some (none, rest)
  else ((Text.readDigits? 10 digits).filter (· < powerOfTwo 32)).map fun value => (some value, rest)

/-- The counts after an opening brace. -/
def readCounts? (verbose : Bool) (cs : List Char) : Option ((Nat × Option Nat) × List Char) := do
  let cs := skipBlanks verbose cs
  if cs.isEmpty then none
  let (least, rest) ← readCount? verbose cs
  let least ← least
  match rest with
  | ',' :: rest =>
    match skipBlanks verbose rest with
    | [] => none
    | '}' :: rest => pure ((least, none), rest)
    | rest => do
      let (most, rest) ← readCount? verbose rest
      let most ← most
      match rest with
      | '}' :: rest => if least ≤ most then pure ((least, some most), rest) else none
      | _ => none
  | '}' :: rest => pure ((least, some least), rest)
  | _ => none

/-- A question mark after a repetition makes it reluctant, which does not change what is matched. -/
def skipReluctant : List Char → List Char
  | '?' :: rest => rest
  | cs => cs

/-! ## Groups -/

def isNameStart (c : Char) : Bool := c == '_' || Text.isAlphabetic c

def isNamePart (c : Char) : Bool :=
  c == '_' || c == '.' || c == '[' || c == ']' || Text.isAlphanumeric c

def readGroupName? (cs : List Char) : Option (String × List Char) :=
  let name := cs.takeWhile (· != '>')
  match name, cs.dropWhile (· != '>') with
  | first :: more, '>' :: rest =>
    if isNameStart first && more.all isNamePart then some (String.ofList name, rest) else none
  | _, _ => none

def Flag.ofChar? : Char → Option Flag
  | 'i' => some .ignoreCase
  | 'm' => some .multiLine
  | 's' => some .dotNewLine
  | 'U' => some .swapGreed
  | 'u' => some .unicode
  | 'R' => some .crlf
  | 'x' => some .verbose
  | _ => none

/-- The flags up to a colon or parenthesis. A flag and the minus sign stand at most once. -/
def readFlags? (changes : FlagChanges) (negating lastIsSign : Bool) :
    List Char → Option (FlagChanges × List Char)
  | [] => none
  | c :: cs =>
    if c = ':' || c = ')' then
      if lastIsSign then none else some (changes.reverse, c :: cs)
    else if c = '-' then
      if negating then none else readFlags? changes true true cs
    else do
      let flag ← Flag.ofChar? c
      if changes.any fun change => decide (change.1 = flag) then none
      else readFlags? ((flag, !negating) :: changes) negating false cs

/-- How a group starts. -/
inductive GroupStart
  | capture (name : Option String)
  | plain (changes : FlagChanges)
  | setting (changes : FlagChanges)

def readGroupStart? (verbose : Bool) (cs : List Char) : Option (GroupStart × List Char) :=
  match skipBlanks verbose cs with
  | '?' :: '=' :: _ | '?' :: '!' :: _ | '?' :: '<' :: '=' :: _ | '?' :: '<' :: '!' :: _ => none
  | '?' :: 'P' :: '<' :: rest | '?' :: '<' :: rest =>
    (readGroupName? rest).map fun r => (.capture (some r.1), r.2)
  | '?' :: rest => do
    let (changes, rest) ← readFlags? [] false false rest
    match rest with
    | ')' :: rest => if changes.isEmpty then none else pure (.setting changes, rest)
    | _ :: rest => pure (.plain changes, rest)
    | [] => none
  | cs => some (.capture none, cs)

/-! ## Whole patterns -/

/-- One level of a pattern: the branches before, and the terms of the branch being read, latest
first. -/
structure Level where
  branches : List Term
  terms : List Term

def Level.empty : Level := ⟨[], []⟩

def Level.term (l : Level) : Term :=
  let row := Term.ofRow l.terms.reverse
  if l.branches.isEmpty then row else .alternation (row :: l.branches).reverse

/-- A group that is still open: the level outside it, its flags, and whether blanks were skipped. -/
structure OpenGroup where
  outer : Level
  captures : Bool
  changes : FlagChanges
  verbose : Bool

structure TermState where
  level : Level
  groups : List OpenGroup
  names : List String
  verbose : Bool

def TermState.start : TermState := ⟨.empty, [], [], false⟩

def TermState.push (s : TermState) (term : Term) : TermState :=
  { s with level := { s.level with terms := term :: s.level.terms } }

/-- Replaces the latest term by its repetition. Nothing and a flag setting cannot be repeated. -/
def TermState.repeat? (s : TermState) (least : Nat) (most : Option Nat) : Option TermState :=
  match s.level.terms with
  | [] | .empty :: _ | .flags _ :: _ => none
  | term :: rest =>
    some { s with level := { s.level with terms := .repetition term least most :: rest } }

def TermState.enter (s : TermState) (captures : Bool) (changes : FlagChanges) : TermState :=
  { s with
    level := .empty, groups := ⟨s.level, captures, changes, s.verbose⟩ :: s.groups,
    verbose := (changes.get? .verbose).getD s.verbose }

def TermState.openGroup? (s : TermState) (cs : List Char) : Option (TermState × List Char) := do
  let (start, rest) ← readGroupStart? s.verbose cs
  match start with
  | .setting changes =>
    pure ({ s.push (.flags changes) with verbose := (changes.get? .verbose).getD s.verbose }, rest)
  | .plain changes => pure (s.enter false changes, rest)
  | .capture none => pure (s.enter true [], rest)
  | .capture (some name) =>
    if s.names.contains name then none
    else pure ({ s with names := name :: s.names }.enter true [], rest)

def TermState.closeGroup? (s : TermState) : Option TermState :=
  match s.groups with
  | [] => none
  | g :: groups =>
    let level := { g.outer with terms := .group g.captures g.changes s.level.term :: g.outer.terms }
    some { s with level := level, groups := groups, verbose := g.verbose }

def Atom.term : Atom → Term
  | .literal l => .literal l
  | .dot => .dot
  | .assertion a => .assertion a
  | .charClass t => .charClass t

/-- The next part of a pattern, which does not start with a blank to be skipped. -/
def TermState.step? (s : TermState) : List Char → Option (TermState × List Char)
  | [] => none
  | '(' :: cs => s.openGroup? cs
  | ')' :: cs => s.closeGroup?.map (·, cs)
  | '|' :: cs =>
    some ({ s with level := ⟨.ofRow s.level.terms.reverse :: s.level.branches, []⟩ }, cs)
  | '[' :: cs => (readClass? s.verbose ('[' :: cs)).map fun r => (s.push (.charClass r.1), r.2)
  | '?' :: cs => (s.repeat? 0 (some 1)).map (·, skipReluctant cs)
  | '*' :: cs => (s.repeat? 0 none).map (·, skipReluctant cs)
  | '+' :: cs => (s.repeat? 1 none).map (·, skipReluctant cs)
  | '{' :: cs => do
    let ((least, most), rest) ← readCounts? s.verbose cs
    let s' ← s.repeat? least most
    pure (s', skipReluctant (skipBlanks s.verbose rest))
  | '\\' :: cs => (readEscape? s.verbose cs).map fun r => (s.push r.1.term, r.2)
  | '.' :: cs => some (s.push .dot, cs)
  | '^' :: cs => some (s.push (.assertion .startLine), cs)
  | '$' :: cs => some (s.push (.assertion .endLine), cs)
  | c :: cs => some (s.push (.literal ⟨c, false⟩), cs)

def readTermFrom? (s : TermState) (cs : List Char) : Option Term :=
  match skipBlanks s.verbose cs with
  | [] => if s.groups.isEmpty then some s.level.term else none
  | more =>
    match s.step? more with
    | none => none
    | some (next, rest) =>
      if _h : rest.length < cs.length then readTermFrom? next rest else none
termination_by cs.length

/-- Terms nest at most this deep. -/
def depthLimit : Nat := 250

/-- The term a pattern is written as. -/
def readTerm? (source : String) : Option Term := do
  let term ← readTermFrom? .start source.toList
  if term.depth ≤ depthLimit then pure term else none

end Pattern

end DocumentModel
