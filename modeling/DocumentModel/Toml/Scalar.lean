import DocumentModel.Format.Timestamp
import DocumentModel.Number.Power
import DocumentModel.Text.Digit
import DocumentModel.Toml.Basic

/-!
# Words in configuration files

Numbers, truth values, dates and times. Digits may be set apart by single underscores. An integer
has 64 bits and a sign, and may be hexadecimal, octal or binary, then without a sign.
-/

namespace DocumentModel

namespace Toml

/-! ## Digits -/

/-- The number that digits stand for. An underscore must have a digit on either side. -/
def readDigits? (base : Nat) (value : Nat) (afterDigit : Bool) : List Char → Option Nat
  | [] => if afterDigit then some value else none
  | '_' :: rest => if afterDigit then readDigits? base value false rest else none
  | c :: rest => do
    let digit ← Text.digitValue? base c
    readDigits? base (base * value + digit) true rest

def number? (base : Nat) (digits : List Char) : Option Nat := readDigits? base 0 false digits

/-- A decimal number without a zero in front. -/
def decimal? : List Char → Option Nat
  | ['0'] => some 0
  | '0' :: _ => none
  | digits => number? 10 digits

/-- A sign in front, which is a plus sign if there is none. -/
def splitSign : List Char → Bool × List Char
  | '-' :: rest => (true, rest)
  | '+' :: rest => (false, rest)
  | cs => (false, cs)

/-! ## Numbers -/

def integerOf? (negative : Bool) (magnitude : Nat) : Option Toml :=
  let value : Int := if negative then -(magnitude : Int) else magnitude
  if -powerOfTwo 63 ≤ value ∧ value < powerOfTwo 63 then some (.integer value) else none

def integer? (word : List Char) : Option Toml :=
  match word with
  | '0' :: 'x' :: digits => (number? 16 digits).bind (integerOf? false)
  | '0' :: 'o' :: digits => (number? 8 digits).bind (integerOf? false)
  | '0' :: 'b' :: digits => (number? 2 digits).bind (integerOf? false)
  | word =>
    let (negative, digits) := splitSign word
    (decimal? digits).bind (integerOf? negative)

def isExponentMark (c : Char) : Bool := c = 'e' || c = 'E'

/-- A number with a fraction or an exponent. It must not be too large, unless it is negative. -/
def float? (word : List Char) : Option Toml := do
  let (negative, unsigned) := splitSign word
  let mantissa := unsigned.takeWhile fun c => !isExponentMark c
  let whole := mantissa.takeWhile (· != '.')
  let behind := mantissa.dropWhile (· != '.')
  let scale := unsigned.dropWhile fun c => !isExponentMark c
  if behind.isEmpty && scale.isEmpty then none
  let wholeValue ← decimal? whole
  let fraction := behind.drop 1
  let fractionValue ← if behind.isEmpty then some 0 else number? 10 fraction
  let (down, exponentDigits) := splitSign (scale.drop 1)
  let exponent ← if scale.isEmpty then some 0 else number? 10 exponentDigits
  let places := (fraction.filter (· != '_')).length
  let signed : Int := if down then -(exponent : Int) else exponent
  let value :=
    Binary64.ofDecimal negative (wholeValue * powerOfTen places + fractionValue) (signed - places)
  if value = .infinite false then none else pure (.float value)

def specialFloat? (word : List Char) : Option Toml :=
  let (negative, name) := splitSign word
  if name = "inf".toList then some (.float (.infinite negative))
  else if name = "nan".toList then some (.float .nan)
  else none

/-- The value of a word. -/
def word? (word : List Char) : Option Toml :=
  if word = "true".toList then some (.boolean true)
  else if word = "false".toList then some (.boolean false)
  else integer? word <|> float? word <|> specialFloat? word

/-! ## Dates and times -/

/-- Reads an offset if there is one. -/
def skipOffset (cs : List Char) : List Char :=
  match cs with
  | 'Z' :: _ | 'z' :: _ | '+' :: _ | '-' :: _ => (Format.Timestamp.offset? cs).getD cs
  | _ => cs

/-- Reads a time if there is one behind a date. -/
def skipTime (cs : List Char) : List Char :=
  match cs with
  | 'T' :: rest | 't' :: rest | ' ' :: rest =>
    match Format.Timestamp.time? rest with
    | some rest => skipOffset rest
    | none => cs
  | _ => cs

/-- Reads a date, a time, or both. -/
def readDateTime? (cs : List Char) : Option (List Char) :=
  match Format.Timestamp.date? cs with
  | some rest => some (skipTime rest)
  | none => Format.Timestamp.time? cs

def isWordPart (c : Char) : Bool :=
  ('0' ≤ c && c ≤ '9') || ('a' ≤ c && c ≤ 'z') || ('A' ≤ c && c ≤ 'Z')
    || c = '_' || c = '+' || c = '-'
    || c = '.'

/-- Reads a value that is no text and has no parts. -/
def readScalar? (cs : List Char) : Option (Toml × List Char) :=
  match readDateTime? cs with
  | some rest => some (.dateTime, rest)
  | none => (·, cs.dropWhile isWordPart) <$> word? (cs.takeWhile isWordPart)

end Toml

end DocumentModel
