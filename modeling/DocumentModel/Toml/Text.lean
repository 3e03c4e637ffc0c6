import DocumentModel.Text.Digit

/-!
# Texts in configuration files

A text stands in quotes, where a backslash starts an escape, or in apostrophes, where nothing does.
Three quotes or apostrophes on either side allow it to have several lines; its first line break does
not count then, and in quotes a backslash at the end of a line drops all white space up to the next
character.

Control characters other than the tab stand in no text.
-/

namespace DocumentModel

namespace Toml

/-- Characters that may stand in a text or a comment. -/
def isPlain (c : Char) : Bool := c = '\t' || (0x20 ≤ c.toNat && c.toNat ≠ 0x7F)

def isBlank (c : Char) : Bool := c = ' ' || c = '\t'

/-- The character that an escape of one letter stands for. -/
def escaped? : Char → Option Char
  | 'b' => some '\x08'
  | 't' => some '\t'
  | 'n' => some '\n'
  | 'f' => some '\x0c'
  | 'r' => some '\r'
  | '"' => some '"'
  | '\\' => some '\\'
  | _ => none

/-- What was read, in reverse, as a text with the characters behind it. -/
def finish (read rest : List Char) : Option (String × List Char) :=
  some (String.ofList read.reverse, rest)

/-! ## One line -/

/-- Reads up to the closing quote. -/
def readQuoted? (read : List Char) : List Char → Option (String × List Char)
  | [] => none
  | '"' :: rest => finish read rest
  | '\\' :: 'u' :: a :: b :: c :: d :: rest => do
    let e ← Text.charOfHex? [a, b, c, d]
    readQuoted? (e :: read) rest
  | '\\' :: 'U' :: a :: b :: c :: d :: e :: f :: g :: h :: rest => do
    let i ← Text.charOfHex? [a, b, c, d, e, f, g, h]
    readQuoted? (i :: read) rest
  | '\\' :: c :: rest => do
    let e ← escaped? c
    readQuoted? (e :: read) rest
  | c :: rest => if isPlain c && c != '\\' then readQuoted? (c :: read) rest else none

/-- Reads up to the closing apostrophe. -/
def readLiteral? (read : List Char) : List Char → Option (String × List Char)
  | [] => none
  | c :: rest =>
    if c = '\'' then finish read rest
    else if isPlain c then readLiteral? (c :: read) rest
    else none

/-! ## Several lines -/

/-- Whether a line ends here but for blanks. -/
def isFold (cs : List Char) : Bool :=
  match cs.dropWhile isBlank with
  | '\n' :: _ | '\r' :: '\n' :: _ => true
  | _ => false

/-- Reads up to three closing quotes, with up to two more that belong to the text. -/
def readQuotedLines? (folding : Bool) (read : List Char) : List Char → Option (String × List Char)
  | [] => none
  | '"' :: '"' :: '"' :: '"' :: '"' :: rest => finish ('"' :: '"' :: read) rest
  | '"' :: '"' :: '"' :: '"' :: rest => finish ('"' :: read) rest
  | '"' :: '"' :: '"' :: rest => finish read rest
  | '\r' :: '\n' :: rest =>
    readQuotedLines? folding (if folding then read else '\n' :: read) rest
  | '\\' :: 'u' :: a :: b :: c :: d :: rest => do
    let e ← Text.charOfHex? [a, b, c, d]
    readQuotedLines? false (e :: read) rest
  | '\\' :: 'U' :: a :: b :: c :: d :: e :: f :: g :: h :: rest => do
    let i ← Text.charOfHex? [a, b, c, d, e, f, g, h]
    readQuotedLines? false (i :: read) rest
  | '\\' :: c :: rest =>
    if isFold (c :: rest) then
      match c, rest with
      | '\r', '\n' :: rest => readQuotedLines? true read rest
      | _, rest => readQuotedLines? true read rest
    else do
      let e ← escaped? c
      readQuotedLines? false (e :: read) rest
  | c :: rest =>
    if folding && (isBlank c || c = '\n') then readQuotedLines? true read rest
    else if (isPlain c && c != '\\') || c = '\n' then readQuotedLines? false (c :: read) rest
    else none

/-- Reads up to three closing apostrophes, with up to two more that belong to the text. -/
def readLiteralLines? (read : List Char) : List Char → Option (String × List Char)
  | [] => none
  | '\'' :: '\'' :: '\'' :: '\'' :: '\'' :: rest => finish ('\'' :: '\'' :: read) rest
  | '\'' :: '\'' :: '\'' :: '\'' :: rest => finish ('\'' :: read) rest
  | '\'' :: '\'' :: '\'' :: rest => finish read rest
  | '\r' :: '\n' :: rest => readLiteralLines? ('\n' :: read) rest
  | c :: rest => if isPlain c || c = '\n' then readLiteralLines? (c :: read) rest else none

/-- Drops a line break in front. -/
def dropLineBreak : List Char → List Char
  | '\n' :: rest => rest
  | '\r' :: '\n' :: rest => rest
  | cs => cs

/-! ## Texts -/

/-- Reads a text of one line. -/
def readLineText? : List Char → Option (String × List Char)
  | '"' :: rest => readQuoted? [] rest
  | '\'' :: rest => readLiteral? [] rest
  | _ => none

/-- Reads a text of either kind. -/
def readText? : List Char → Option (String × List Char)
  | '"' :: '"' :: '"' :: rest => readQuotedLines? false [] (dropLineBreak rest)
  | '\'' :: '\'' :: '\'' :: rest => readLiteralLines? [] (dropLineBreak rest)
  | cs => readLineText? cs

end Toml

end DocumentModel
