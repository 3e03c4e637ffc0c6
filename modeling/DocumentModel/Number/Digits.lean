import DocumentModel.Number.Binary64

/-!
# Decimal digits of a binary number

`shortest` finds the fewest decimal digits that read back as the same number and, among those,
the ones nearest to it. A decimal reads back when it lies in the interval of reals that round to
the number; the two ends belong to the interval exactly when the significand is even.

Two layouts write such digits: `positional`, which never uses an exponent, and `scientific`, which
does for very large and very small numbers and always shows that the number is not an integer.
-/

namespace DocumentModel

namespace Binary64

/-! ## Shortest digits -/

/-- Digits `d₁d₂…` and a point: the value is `0.d₁d₂… * 10 ^ point`. -/
structure Digits where
  digits : List Char
  point : Int
  deriving DecidableEq, Repr

/-- Every finite magnitude is scaled by this power of ten, so that its whole part has digits. -/
def scaleExponent : Nat := 400

/-- Four times the bounds, in units, of the reals that round to a magnitude. -/
structure Interval where
  lower : Nat
  upper : Nat
  closed : Bool

/-- The reals that round to `units`. Below a power of two the grid is twice as fine. -/
def interval (units : Nat) : Interval :=
  let step := spacing units
  let below := if 1 < step ∧ units = powerOfTwo 52 * step then step else 2 * step
  { lower := 4 * units - below, upper := 4 * units + 2 * step, closed := units / step % 2 == 0 }

/-- Whether the decimal `grid * count / 10 ^ scaleExponent` rounds to the magnitude. -/
def Interval.contains (i : Interval) (grid count : Nat) : Bool :=
  let decimal := 4 * (grid * count) * unitsPerOne
  let lower := i.lower * powerOfTen scaleExponent
  let upper := i.upper * powerOfTen scaleExponent
  (lower < decimal && decimal < upper) || (i.closed && (decimal == lower || decimal == upper))

/-- The best decimal with the given number of digits, if one of the two neighbours fits. The whole
part of the scaled magnitude has `magnitude` digits. -/
def withDigits? (units magnitude count : Nat) : Option Digits :=
  let grid := powerOfTen (magnitude - count)
  let scaled := units * powerOfTen scaleExponent
  let low := scaled / (grid * unitsPerOne)
  let rest := scaled % (grid * unitsPerOne)
  let i := interval units
  let point := fun (n : Nat) =>
    ((Nat.repr n).length + (magnitude - count : Nat) : Int) - scaleExponent
  let answer := fun (n : Nat) => some { digits := (Nat.repr n).toList, point := point n }
  match i.contains grid low, i.contains grid (low + 1) with
  | true, true =>
    if 2 * rest < grid * unitsPerOne then answer low
    else if 2 * rest = grid * unitsPerOne then answer (low + low % 2)
    else answer (low + 1)
  | true, false => answer low
  | false, true => answer (low + 1)
  | false, false => none

/-- Drops the zeros at the end; one digit always remains. -/
def trimZeros (digits : List Char) : List Char :=
  match (digits.reverse.dropWhile (· == '0')).reverse with
  | [] => ['0']
  | kept => kept

/-- The shortest digits of a positive number of units. -/
def shortest (units : Nat) : Digits :=
  let whole := units * powerOfTen scaleExponent / unitsPerOne
  let digits := (Nat.repr whole).toList
  match (List.range 17).findSome? (fun n => withDigits? units digits.length (n + 1)) with
  | some found => { found with digits := trimZeros found.digits }
  | none => { digits := trimZeros digits, point := (digits.length : Int) - scaleExponent }

/-! ## Layouts -/

/-- Digits with zeros on the side of the point, without an exponent. -/
def Digits.positional (d : Digits) : List Char × List Char :=
  match d.point with
  | .ofNat n =>
    if d.digits.length ≤ n then (d.digits ++ List.replicate (n - d.digits.length) '0', [])
    else if n = 0 then (['0'], d.digits)
    else (d.digits.take n, d.digits.drop n)
  | .negSucc n => (['0'], List.replicate (n + 1) '0' ++ d.digits)

def signText (negative : Bool) : String := if negative then "-" else ""

/-- The text without an exponent: an integer has no point, and a zero keeps its sign. -/
def plainText : Binary64 → String
  | .nan => "NaN"
  | .infinite negative => signText negative ++ "inf"
  | .finite negative 0 => signText negative ++ "0"
  | .finite negative units =>
    match (shortest units).positional with
    | (whole, []) => signText negative ++ String.ofList whole
    | (whole, fraction) => signText negative ++ String.ofList (whole ++ '.' :: fraction)

/-- The exponent of the first digit, written with its sign. -/
def exponentText (e : Int) : String := if e < 0 then toString e else "+" ++ toString e

/--
The text inside a JSON document. From `10 ^ -5` up to `10 ^ 16` it is positional and has a fraction
even if that is zero; outside it is the digits with an exponent. A JSON document has no text for
the numbers that are not
finite. -/
def jsonText : Binary64 → String
  | .finite negative 0 => signText negative ++ "0.0"
  | .finite negative units =>
    let d := shortest units
    if -5 < d.point ∧ d.point ≤ 16 then
      match d.positional with
      | (whole, []) => signText negative ++ String.ofList whole ++ ".0"
      | (whole, fraction) => signText negative ++ String.ofList (whole ++ '.' :: fraction)
    else
      let exponent := "e" ++ exponentText (d.point - 1)
      match d.digits with
      | [] => "null"
      | [digit] => signText negative ++ String.ofList [digit] ++ exponent
      | digit :: more => signText negative ++ String.ofList (digit :: '.' :: more) ++ exponent
  | _ => "null"

end Binary64

end DocumentModel
