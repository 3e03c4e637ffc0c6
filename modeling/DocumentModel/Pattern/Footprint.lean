import DocumentModel.Number.Power
import DocumentModel.Text.CharRanges

/-!
# The footprint of a set of characters

A pattern may be refused for its size. The size is that of the automaton over the bytes of UTF-8
that recognizes it, in which a set of characters takes one state for every distinct beginning of
the byte ranges that its characters are written in.
-/

namespace DocumentModel

namespace Pattern

/-! ## Byte ranges of characters -/

/-- The bytes of a code point in UTF-8. -/
def utf8Bytes (n : Nat) : List Nat :=
  if n < 0x80 then [n]
  else if n < 0x800 then [0xC0 + n / 64, 0x80 + n % 64]
  else if n < 0x10000 then [0xE0 + n / 4096, 0x80 + n / 64 % 64, 0x80 + n % 64]
  else [0xF0 + n / 262144, 0x80 + n / 4096 % 64, 0x80 + n / 64 % 64, 0x80 + n % 64]

/-- Cuts a range of code points where the number of bytes changes and around the surrogates. -/
def cutByLength (first final : Nat) : List (Nat × Nat) :=
  [(0, 0x7F), (0x80, 0x7FF), (0x800, 0xD7FF), (0xE000, 0xFFFF), (0x10000, 0x10FFFF)].filterMap
    fun part =>
      let low := Nat.max first part.1
      let high := Nat.min final part.2
      if low ≤ high then some (low, high) else none

/--
Cuts a range so that in each part the bytes before position `level` agree or all later bytes take
every value. `block` is the number of code points that share all but the last `level`
bytes. -/
def cutByBlock : Nat → Nat × Nat → List (Nat × Nat)
  | 0, range => [range]
  | level + 1, (first, final) =>
    let block := powerOfTwo (6 * (level + 1))
    if first / block = final / block then cutByBlock level (first, final)
    else
      let head := if first % block = 0 then []
        else cutByBlock level (first, (first / block + 1) * block - 1)
      let tail := if final % block = block - 1 then []
        else cutByBlock level (final / block * block, final)
      let low := if first % block = 0 then first else (first / block + 1) * block
      let high := if final % block = block - 1 then final else final / block * block - 1
      head ++ (if low ≤ high then [(low, high)] else []) ++ tail

/-- The sequences of byte ranges that a range of code points is written in. -/
def byteSequences (first final : Nat) : List (List (Nat × Nat)) :=
  (cutByLength first final).flatMap fun part =>
    (cutByBlock 3 part).map fun piece => (utf8Bytes piece.1).zip (utf8Bytes piece.2)

/-! ## Counting states -/

/-- The number of distinct beginnings among sequences in ascending order. -/
def countBeginnings (before : List (Nat × Nat)) : List (List (Nat × Nat)) → Nat
  | [] => 0
  | sequence :: rest =>
    let shared := (before.zip sequence).takeWhile fun pair => pair.1 == pair.2
    sequence.length - shared.length + countBeginnings sequence rest

/-- The size of one state. -/
def stateSize : Nat := 32

/-- The size of the part of an automaton that reads one character of a set. -/
def setFootprint (set : Text.CharRanges) : Nat :=
  match set.toList with
  | [] => stateSize
  | ranges =>
    if ranges.all fun r => r.2 < 0x80 then
      match ranges with
      | [(a, b)] => if a = b then stateSize else 2 * stateSize
      | ranges => 2 * stateSize + 8 * ranges.length
    else
      match ranges with
      | [(a, b)] =>
        if a = b then stateSize * (utf8Bytes a).length
        else
          let sequences := byteSequences a b
          2 * stateSize + 4 * sequences.length + stateSize * countBeginnings [] sequences
      | ranges =>
        let sequences := ranges.flatMap fun r => byteSequences r.1 r.2
        2 * stateSize + 4 * sequences.length + stateSize * countBeginnings [] sequences

/-- The size of the part of an automaton that repeats a part of the given size. -/
def repetitionFootprint (inner least : Nat) (most : Option Nat) : Nat :=
  match most with
  | none =>
    if least = 0 then 3 * stateSize + inner else least * inner + stateSize + 8
  | some most =>
    if most = 0 then stateSize
    else if least = most then least * inner
    else least * inner + stateSize + (most - least) * (inner + stateSize + 8)

/-- Patterns of a larger size are refused. -/
def sizeLimit : Nat := 10 * powerOfTwo 20

end Pattern

end DocumentModel
