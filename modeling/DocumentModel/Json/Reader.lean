import DocumentModel.Json.Basic
import DocumentModel.Number.Power
import DocumentModel.Text.Digit

/-!
# Reading JSON text

The text is read in one pass over its characters. `Scanner` cuts it into tokens and `Builder` puts
tokens together on a stack of the arrays and objects that are still open, so that neither recurs
and every text, however deep, is read in time linear in its length.

The grammar is the strict one: no comments, no comma before a closing bracket, no control
characters in strings, no lone surrogates, no leading zeros. Values nest less than `depthLimit`
deep, and a number must be finite. An integer literal beyond 64 bits is read as a fraction.
-/

namespace DocumentModel

namespace Json

/-! ## Numbers -/

def digitsValue (cs : List Char) : Nat := cs.foldl (fun n c => 10 * n + (c.toNat - '0'.toNat)) 0

/-- The parts of a number: digits before the point, digits after it, and the exponent. -/
structure NumberText where
  negative : Bool
  whole : List Char
  fraction : Option (List Char)
  exponent : Option Int

/-- The exponent part, which is absent or `e`, an optional sign and digits. -/
def readExponent? : List Char → Option (Option Int)
  | [] => some none
  | c :: rest =>
    if c = 'e' || c = 'E' then
      let (negative, digits) := match rest with
        | '-' :: digits => (true, digits)
        | '+' :: digits => (false, digits)
        | digits => (false, digits)
      if digits.isEmpty || !digits.all Char.isDigit then none
      else
        let value : Int := digitsValue digits
        some (some (if negative then -value else value))
    else none

def readNumberText? (cs : List Char) : Option NumberText :=
  let (negative, cs) := match cs with
    | '-' :: rest => (true, rest)
    | cs => (false, cs)
  let whole := cs.takeWhile Char.isDigit
  let rest := cs.dropWhile Char.isDigit
  if whole.isEmpty || (whole.head? == some '0' && 1 < whole.length) then none
  else match rest with
    | '.' :: rest =>
      let fraction := rest.takeWhile Char.isDigit
      if fraction.isEmpty then none
      else (readExponent? (rest.dropWhile Char.isDigit)).map (⟨negative, whole, some fraction, ·⟩)
    | rest => (readExponent? rest).map (⟨negative, whole, none, ·⟩)

/-- Whether an integer has a place among the signed or the unsigned 64-bit integers. -/
def fits64 (value : Int) : Bool := -powerOfTwo 63 ≤ value && value < powerOfTwo 64

/-- The number of a literal; `-0` is a fraction, because no integer has its sign. -/
def NumberText.number? (t : NumberText) : Option JsonNumber :=
  let whole := digitsValue t.whole
  let value : Int := if t.negative then -(whole : Int) else whole
  if t.fraction.isNone && t.exponent.isNone && fits64 value && !(t.negative && whole == 0) then
    some (.integer value)
  else
    let digits := t.whole ++ t.fraction.getD []
    let exponent := t.exponent.getD 0 - ((t.fraction.getD []).length : Int)
    let read := Binary64.ofDecimal t.negative (digitsValue digits) exponent
    if read.isFinite then some (.fraction read) else none

def readNumber? (cs : List Char) : Option JsonNumber := (readNumberText? cs).bind NumberText.number?

/-! ## Tokens -/

inductive Token
  | openArray
  | closeArray
  | openObject
  | closeObject
  | comma
  | colon
  | scalar (value : Json)

/-- A word is a literal name or a number. -/
def Token.ofWord? (word : List Char) : Option Token :=
  if word = "null".toList then some (.scalar .null)
  else if word = "true".toList then some (.scalar (.bool true))
  else if word = "false".toList then some (.scalar (.bool false))
  else (readNumber? word).map fun n => .scalar (.number n)

def Token.ofSign? : Char → Option Token
  | '[' => some .openArray
  | ']' => some .closeArray
  | '{' => some .openObject
  | '}' => some .closeObject
  | ',' => some .comma
  | ':' => some .colon
  | _ => none

/-! ## Putting tokens together -/

/-- An array or object that is still open, with its latest item first. -/
inductive Frame
  | array (items : List Json)
  | object (fields : List (String × Json))
  | field (fields : List (String × Json)) (key : String)

inductive Expects
  | value
  | valueOrClose
  | key
  | keyOrClose
  | colon
  | commaOrClose
  | finish

structure Builder where
  stack : List Frame
  expects : Expects
  result : Json

def Builder.start : Builder := ⟨[], .value, .null⟩

/-- Values nest less deep than this. -/
def depthLimit : Nat := 128

/-- A complete value goes into the innermost open frame, or is the result. -/
def Builder.supply? (b : Builder) (value : Json) : Option Builder :=
  match b.stack with
  | [] => some { b with expects := .finish, result := value }
  | .array items :: rest =>
    some { b with stack := .array (value :: items) :: rest, expects := .commaOrClose }
  | .field fields key :: rest =>
    some { b with stack := .object ((key, value) :: fields) :: rest, expects := .commaOrClose }
  | .object _ :: _ => none

def Builder.push? (b : Builder) (frame : Frame) (expects : Expects) : Option Builder :=
  if b.stack.length + 1 < depthLimit then
    some { b with stack := frame :: b.stack, expects := expects }
  else none

def Builder.closeArray? (b : Builder) : Option Builder :=
  match b.stack with
  | .array items :: rest => { b with stack := rest }.supply? (.array items.reverse)
  | _ => none

def Builder.closeObject? (b : Builder) : Option Builder :=
  match b.stack with
  | .object fields :: rest => { b with stack := rest }.supply? (ofFields fields.reverse)
  | _ => none

/-- A token that starts a value. -/
def Builder.beginValue? (b : Builder) : Token → Option Builder
  | .openArray => b.push? (.array []) .valueOrClose
  | .openObject => b.push? (.object []) .keyOrClose
  | .scalar value => b.supply? value
  | _ => none

def Builder.key? (b : Builder) : Token → Option Builder
  | .scalar (.string key) =>
    match b.stack with
    | .object fields :: rest =>
      some { b with stack := .field fields key :: rest, expects := .colon }
    | _ => none
  | _ => none

def Builder.step? (b : Builder) (token : Token) : Option Builder :=
  match b.expects, token with
  | .value, token => b.beginValue? token
  | .valueOrClose, .closeArray => b.closeArray?
  | .valueOrClose, token => b.beginValue? token
  | .key, token => b.key? token
  | .keyOrClose, .closeObject => b.closeObject?
  | .keyOrClose, token => b.key? token
  | .colon, .colon => some { b with expects := .value }
  | .commaOrClose, .closeArray => b.closeArray?
  | .commaOrClose, .closeObject => b.closeObject?
  | .commaOrClose, .comma =>
    match b.stack with
    | .array _ :: _ => some { b with expects := .value }
    | .object _ :: _ => some { b with expects := .key }
    | _ => none
  | _, _ => none

/-! ## Cutting text into tokens -/

/-- Where the scanner stands; the characters read so far come latest first. -/
inductive Mode
  | between
  | word (read : List Char)
  | text (read : List Char)
  | escape (read : List Char)
  /-- Inside `\u`, with the digits still to come and the first half of a surrogate pair. -/
  | unicode (read : List Char) (high : Option Nat) (remaining value : Nat)
  /-- After the first half of a surrogate pair, before the backslash of the second. -/
  | pair (read : List Char) (high : Nat)
  /-- After that backslash. -/
  | pairEscape (read : List Char) (high : Nat)

structure Scanner where
  mode : Mode
  builder : Builder

def Scanner.start : Scanner := ⟨.between, .start⟩

def isSpace (c : Char) : Bool := c = ' ' || c = '\t' || c = '\n' || c = '\r'

/-- A character outside strings that does not belong to a word. -/
def Scanner.outside? (builder : Builder) (c : Char) : Option Scanner :=
  if isSpace c then some ⟨.between, builder⟩
  else if c = '"' then some ⟨.text [], builder⟩
  else match Token.ofSign? c with
    | some token => (builder.step? token).map (⟨.between, ·⟩)
    | none => some ⟨.word [c], builder⟩

def isWordChar (c : Char) : Bool := !isSpace c && c ≠ '"' && (Token.ofSign? c).isNone

/-- The four digits of a `\u` escape are complete. -/
def Mode.ofUnit? (read : List Char) (high : Option Nat) (value : Nat) : Option Mode :=
  match high with
  | some first =>
    if 0xDC00 ≤ value ∧ value ≤ 0xDFFF then
      some (.text (Char.ofNat (0x10000 + (first - 0xD800) * 0x400 + (value - 0xDC00)) :: read))
    else none
  | none =>
    if 0xD800 ≤ value ∧ value ≤ 0xDBFF then some (.pair read value)
    else if 0xDC00 ≤ value ∧ value ≤ 0xDFFF then none
    else some (.text (Char.ofNat value :: read))

def escaped? : Char → Option Char
  | '"' => some '"'
  | '\\' => some '\\'
  | '/' => some '/'
  | 'b' => some '\x08'
  | 'f' => some '\x0c'
  | 'n' => some '\n'
  | 'r' => some '\r'
  | 't' => some '\t'
  | _ => none

def Scanner.step? (s : Scanner) (c : Char) : Option Scanner :=
  match s.mode with
  | .between => Scanner.outside? s.builder c
  | .word read =>
    if isWordChar c then some { s with mode := .word (c :: read) }
    else do
      let token ← Token.ofWord? read.reverse
      let builder ← s.builder.step? token
      Scanner.outside? builder c
  | .text read =>
    if c = '"' then
      (s.builder.step? (.scalar (.string (String.ofList read.reverse)))).map (⟨.between, ·⟩)
    else if c = '\\' then some { s with mode := .escape read }
    else if c.toNat < 0x20 then none
    else some { s with mode := .text (c :: read) }
  | .escape read =>
    if c = 'u' then some { s with mode := .unicode read none 4 0 }
    else (escaped? c).map fun e => { s with mode := .text (e :: read) }
  | .unicode read high remaining value => do
    let digit ← Text.hexValue? c
    let value := 16 * value + digit
    if remaining ≤ 1 then
      let mode ← Mode.ofUnit? read high value
      pure { s with mode := mode }
    else pure { s with mode := .unicode read high (remaining - 1) value }
  | .pair read high => if c = '\\' then some { s with mode := .pairEscape read high } else none
  | .pairEscape read high =>
    if c = 'u' then some { s with mode := .unicode read (some high) 4 0 } else none

def Scanner.finish? (s : Scanner) : Option Json := do
  let builder ← match s.mode with
    | .between => some s.builder
    | .word read => do
      let token ← Token.ofWord? read.reverse
      s.builder.step? token
    | _ => none
  match builder.expects with
  | .finish => some builder.result
  | _ => none

/-- The value a text stands for, if it is one JSON value with nothing but white space around it. -/
def read? (text : String) : Option Json :=
  (text.toList.foldlM Scanner.step? Scanner.start).bind Scanner.finish?

end Json

end DocumentModel
