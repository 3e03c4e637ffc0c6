import DocumentModel.Text.Digit

/-!
# Timestamps

A date, a time and an offset from universal time, in the internet format: `2024-05-01T10:00:00Z`.
The date must exist, a minute may have a sixtieth second, and the offset is less than a day.
-/

namespace DocumentModel

namespace Format

namespace Timestamp

/-! ## Parts -/

/-- A number of exactly `n` digits in front. -/
def number? : Nat → Nat → List Char → Option (Nat × List Char)
  | 0, value, cs => some (value, cs)
  | _ + 1, _, [] => none
  | n + 1, value, c :: cs => do
    let d ← Text.digitValue? 10 c
    number? n (10 * value + d) cs

/-- A number of `n` digits that is not larger than a bound nor smaller than another. -/
def bounded? (n low high : Nat) (cs : List Char) : Option (Nat × List Char) := do
  let (value, rest) ← number? n 0 cs
  if low ≤ value ∧ value ≤ high then pure (value, rest) else none

def char? (allowed : List Char) : List Char → Option (List Char)
  | c :: cs => if allowed.contains c then some cs else none
  | [] => none

/-! ## The calendar -/

def isLeapYear (year : Nat) : Bool := year % 4 == 0 && (year % 100 != 0 || year % 400 == 0)

def daysInMonth (year month : Nat) : Nat :=
  if month = 2 then (if isLeapYear year then 29 else 28)
  else if month = 4 ∨ month = 6 ∨ month = 9 ∨ month = 11 then 30
  else 31

/-! ## Sections -/

def date? (cs : List Char) : Option (List Char) := do
  let (year, cs) ← number? 4 0 cs
  let cs ← char? ['-'] cs
  let (month, cs) ← bounded? 2 1 12 cs
  let cs ← char? ['-'] cs
  let (_, cs) ← bounded? 2 1 (daysInMonth year month) cs
  pure cs

/-- A fraction of a second has at least one digit. -/
def fraction? : List Char → Option (List Char)
  | '.' :: cs =>
    match cs.dropWhile Char.isDigit with
    | rest => if rest.length < cs.length then some rest else none
  | cs => some cs

def time? (cs : List Char) : Option (List Char) := do
  let (_, cs) ← bounded? 2 0 23 cs
  let cs ← char? [':'] cs
  let (_, cs) ← bounded? 2 0 59 cs
  let cs ← char? [':'] cs
  let (_, cs) ← bounded? 2 0 60 cs
  fraction? cs

/-- `Z`, or a sign with hours and minutes; the sign may be the typographic minus. -/
def offset? : List Char → Option (List Char)
  | 'Z' :: cs | 'z' :: cs => some cs
  | cs => do
    let cs ← char? ['+', '-', '−'] cs
    let (_, cs) ← bounded? 2 0 23 cs
    let cs ← char? [':'] cs
    let (_, cs) ← bounded? 2 0 59 cs
    pure cs

end Timestamp

open Timestamp in
/-- Whether a text is a date, a `T` or blank, a time and an offset. -/
def isTimestamp (s : String) : Bool :=
  let read := do
    let cs ← date? s.toList
    let cs ← char? ['T', 't', ' '] cs
    let cs ← time? cs
    offset? cs
  read == some []

end Format

end DocumentModel
