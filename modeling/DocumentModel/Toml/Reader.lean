import DocumentModel.Toml.Scalar
import DocumentModel.Toml.Text

/-!
# Reading configuration files

`Toml.read?` reads a file in TOML 1.0. Values are read with a stack of the arrays and tables in
braces that are still open, and lines one after the other. Every step takes at least one character
off the text.
-/

namespace DocumentModel

namespace Toml

/-- How deep values may nest. -/
def depthLimit : Nat := 80

/-! ## Blanks and comments -/

def skipBlanks (cs : List Char) : List Char := cs.dropWhile isBlank

/-- Skips blanks, line breaks and comments. -/
def skipLines? (inComment : Bool) : List Char → Option (List Char)
  | [] => some []
  | '\n' :: rest => skipLines? false rest
  | '\r' :: '\n' :: rest => skipLines? false rest
  | c :: rest =>
    if inComment then if isPlain c then skipLines? true rest else none
    else if isBlank c then skipLines? false rest
    else if c = '#' then skipLines? true rest
    else some (c :: rest)

/-- Skips the rest of a line, which may hold a comment. -/
def skipLineEnd? (inComment : Bool) : List Char → Option (List Char)
  | [] => some []
  | '\n' :: rest => some rest
  | '\r' :: '\n' :: rest => some rest
  | c :: rest =>
    if inComment then if isPlain c then skipLineEnd? true rest else none
    else if isBlank c then skipLineEnd? false rest
    else if c = '#' then skipLineEnd? true rest
    else none

/-! ## Keys -/

def isKeyPart (c : Char) : Bool :=
  ('0' ≤ c && c ≤ '9') || ('a' ≤ c && c ≤ 'z') || ('A' ≤ c && c ≤ 'Z') || c = '_' || c = '-'

/-- Reads one part of a key, with the blanks around it. -/
def readKeyPart? (cs : List Char) : Option (String × List Char) := do
  let cs := skipBlanks cs
  match cs with
  | '"' :: _ | '\'' :: _ => (fun r => (r.1, skipBlanks r.2)) <$> readLineText? cs
  | _ =>
    let part := cs.takeWhile isKeyPart
    if part.isEmpty then none
    else some (String.ofList part, skipBlanks (cs.dropWhile isKeyPart))

/-- Reads the parts of a key from one on. -/
def readKeyFrom? (path : List String) (cs : List Char) : Option (List String × List Char) :=
  match readKeyPart? cs with
  | none => none
  | some (part, '.' :: rest) =>
    if _h : rest.length < cs.length then readKeyFrom? (path ++ [part]) rest else none
  | some (part, rest) => some (path ++ [part], rest)
termination_by cs.length

/-- Reads a key with the points between its parts. -/
def readKey? (cs : List Char) : Option (List String × List Char) := do
  let (path, rest) ← readKeyFrom? [] cs
  if path.length < depthLimit then some (path, rest) else none

/-- Reads a key and the sign behind it. -/
def readKeySign? (cs : List Char) : Option (List String × List Char) := do
  match ← readKey? cs with
  | (path, '=' :: rest) => pure (path, skipBlanks rest)
  | _ => none

/-! ## Values -/

/-- An array or a table that is still open; a table with the key whose value comes next. -/
inductive OpenValue
  | array (items : List Toml)
  | table (entries : Entries) (path : List String)

/-- The values that are open, the innermost first, and perhaps a value that is complete. -/
structure ValueState where
  opened : List OpenValue := []
  complete : Option Toml := none

namespace ValueState

/-- Starts a value. -/
def start? (s : ValueState) (cs : List Char) : Option (ValueState × List Char) :=
  match cs with
  | '[' :: rest =>
    if s.opened.length < depthLimit then do
      match ← skipLines? false rest with
      | ']' :: rest => pure ({ s with complete := some (.array []) }, rest)
      | rest => pure ({ s with opened := .array [] :: s.opened }, rest)
    else none
  | '\x7b' :: rest =>
    if s.opened.length < depthLimit then
      match skipBlanks rest with
      | '\x7d' :: rest => some ({ s with complete := some (.table .inline []) }, rest)
      | rest => do
        let (path, rest) ← readKeySign? rest
        pure ({ s with opened := .table [] path :: s.opened }, rest)
    else none
  | '"' :: _ | '\'' :: _ =>
    (fun r => ({ s with complete := some (.string r.1) }, r.2)) <$> readText? cs
  | _ => (fun r => ({ s with complete := some r.1 }, r.2)) <$> readScalar? cs

/-- Goes on behind a complete value in what is open around it. -/
def continue? (opened : List OpenValue) (value : Toml) (cs : List Char) :
    Option (ValueState × List Char) :=
  match opened with
  | [] => none
  | .array items :: outer => do
    let items := items ++ [value]
    match ← skipLines? false cs with
    | ']' :: rest => pure (⟨outer, some (.array items)⟩, rest)
    | ',' :: rest =>
      match ← skipLines? false rest with
      | ']' :: rest => pure (⟨outer, some (.array items)⟩, rest)
      | rest => pure (⟨.array items :: outer, none⟩, rest)
    | _ => none
  | .table entries path :: outer => do
    let entries ← assign (path.getLastD "") value path.dropLast entries
    match skipBlanks cs with
    | '\x7d' :: rest => pure (⟨outer, some (.table .inline entries)⟩, rest)
    | ',' :: rest =>
      let (path, rest) ← readKeySign? rest
      pure (⟨.table entries path :: outer, none⟩, rest)
    | _ => none

def step? (s : ValueState) (cs : List Char) : Option (ValueState × List Char) :=
  match s.complete with
  | none => s.start? cs
  | some value => continue? s.opened value cs

end ValueState

/-- Reads on until a value is complete and nothing is open. -/
def readValueFrom? (s : ValueState) (cs : List Char) : Option (Toml × List Char) :=
  match s with
  | ⟨[], some value⟩ => some (value, cs)
  | s =>
    match s.step? cs with
    | none => none
    | some (next, rest) => if _h : rest.length < cs.length then readValueFrom? next rest else none
termination_by cs.length

def readValue? (cs : List Char) : Option (Toml × List Char) := readValueFrom? {} cs

/-! ## Lines -/

/-- Reads a line that is not empty. -/
def readStatement? (cs : List Char) : Option (Statement × List Char) :=
  match cs with
  | '[' :: '[' :: rest => do
    match ← readKey? rest with
    | (path, ']' :: ']' :: rest) => (Statement.elementHeader path, ·) <$> skipLineEnd? false rest
    | _ => none
  | '[' :: rest => do
    match ← readKey? rest with
    | (path, ']' :: rest) => (Statement.header path, ·) <$> skipLineEnd? false rest
    | _ => none
  | cs => do
    let (path, rest) ← readKeySign? cs
    let (value, rest) ← readValue? rest
    (Statement.pair path value, ·) <$> skipLineEnd? false rest

/-- Reads all lines. -/
def readStatements? (read : List Statement) (cs : List Char) : Option (List Statement) :=
  match skipLines? false cs with
  | none => none
  | some [] => some read.reverse
  | some more =>
    match readStatement? more with
    | none => none
    | some (statement, rest) =>
      if _h : rest.length < cs.length then readStatements? (statement :: read) rest else none
termination_by cs.length

/-- The entries that a file defines. A byte order mark in front is skipped. -/
def read? (text : String) : Option Entries := do
  let cs := match text.toList with
    | '\uFEFF' :: rest => rest
    | cs => cs
  let statements ← readStatements? [] cs
  ofStatements? statements

end Toml

end DocumentModel
