import DocumentModel.Number.Power

/-!
# Punycode

A label with characters beyond ASCII is written as its ASCII characters, a hyphen, and differences
in base 36 that say where the other characters, in ascending order, are put in. The number of digits
that a difference takes is ruled by a bias, which adapts to the differences read before.

Reading a difference consumes at least one character, and this is what ends the reading of a label.
-/

namespace DocumentModel

namespace Format

namespace Domain

namespace Punycode

/-- Sums and weights beyond 32 bits are refused. -/
def limit : Nat := powerOfTwo 32 - 1

/-- The letters stand for 0 to 25 and the digits for 26 to 35. -/
def digitValue? (c : Char) : Option Nat :=
  if 'a' ≤ c && c ≤ 'z' then some (c.toNat - 0x61)
  else if 'A' ≤ c && c ≤ 'Z' then some (c.toNat - 0x41)
  else if '0' ≤ c && c ≤ '9' then some (c.toNat - 0x30 + 26)
  else none

/-- A digit below the threshold of its place is the last one. -/
def threshold (place bias : Nat) : Nat :=
  if place ≤ bias then 1 else if bias + 26 ≤ place then 26 else place - bias

/-- Divides by 35 down to 455, with 36 more for each division. -/
def scaleDown (difference bias : Nat) : Nat × Nat :=
  if 455 < difference then scaleDown (difference / 35) (bias + 36) else (difference, bias)
termination_by difference
decreasing_by exact Nat.div_lt_self (by omega) (by omega)

/-- The bias after a difference, which made a text of `size` characters. -/
def adapt (difference size : Nat) (isFirst : Bool) : Nat :=
  let halved := if isFirst then difference / 700 else difference / 2
  let scaled := scaleDown (halved + halved / size) 0
  scaled.2 + 36 * scaled.1 / (scaled.1 + 38)

/-- Adds the digits of one difference to a sum and gives what follows them. -/
def readDifference? (bias : Nat) : List Char → (place weight sum : Nat) → Option (Nat × List Char)
  | [], _, _, _ => none
  | c :: rest, place, weight, sum =>
    match digitValue? c with
    | none => none
    | some digit =>
      let sum := sum + digit * weight
      let last := threshold place bias
      if limit < sum then none
      else if digit < last then some (sum, rest)
      else if limit < weight * (36 - last) then none
      else readDifference? bias rest (place + 36) (weight * (36 - last)) sum

/-- A difference takes at least one character, so reading comes to an end. -/
theorem length_of_readDifference? {bias : Nat} {cs : List Char} {place weight sum : Nat}
    {read : Nat × List Char} (h : readDifference? bias cs place weight sum = some read) :
    read.2.length < cs.length := by
  induction cs generalizing place weight sum with
  | nil => simp [readDifference?] at h
  | cons c rest ih =>
    simp only [readDifference?] at h
    split at h
    · simp at h
    · split at h
      · simp at h
      · split at h
        · simp only [Option.some.injEq] at h
          simp [← h]
        · split at h
          · simp at h
          · have := ih h
            simp only [List.length_cons]
            omega

def isScalar (n : Nat) : Bool := n < 0xD800 || (0xDFFF < n && n < 0x110000)

/-- Puts in the characters that the differences say. `code` is the last one that was put in and
`place` the position behind it. -/
def insertAll? (bias code place : Nat) (text : List Char) : List Char → Option (List Char)
  | [] => some text
  | c :: rest =>
    match _h : readDifference? bias (c :: rest) 36 1 place with
    | none => none
    | some (sum, rest') =>
      let size := text.length + 1
      let code := code + sum / size
      if isScalar code then
        insertAll? (adapt (sum - place) size (place = 0)) code (sum % size + 1)
          (text.insertIdx (sum % size) (Char.ofNat code)) rest'
      else none
termination_by cs => cs.length
decreasing_by simpa using length_of_readDifference? _h

/-- The text that a code stands for. -/
def decode? (code : List Char) : Option (List Char) :=
  let differences := (code.reverse.takeWhile (· != '-')).reverse
  let text := (code.reverse.dropWhile (· != '-')).drop 1
  if differences.length + 1 = code.length then none
  else insertAll? 72 128 0 text.reverse differences

end Punycode

end Domain

end Format

end DocumentModel
