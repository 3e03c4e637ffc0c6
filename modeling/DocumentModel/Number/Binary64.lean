import DocumentModel.Number.Power

/-!
# Binary floating-point numbers of 64 bits

A finite number is a sign and a magnitude counted in units of `2 ^ -1074`, the smallest positive
magnitude the format has. With that unit every finite number is a natural number of units, so
comparing is comparing natural numbers, and an operation is the exact rational result followed
by one rounding.

## The rounding

`roundUnits num den` takes the exact magnitude `num / den` (in units) to the grid of 53 significant
bits that is coarse enough for it, and a half goes to the even neighbour. A magnitude below
`2 ^ 53` units is rounded to a whole number of units, which covers the subnormal numbers.
-/

namespace DocumentModel

/-- A binary floating-point number; `units` counts multiples of `2 ^ -1074`. -/
inductive Binary64
  | finite (negative : Bool) (units : Nat)
  | infinite (negative : Bool)
  | nan
  deriving DecidableEq, Repr

namespace Binary64

/-! ## The grid -/

/-- The number of units in one. -/
def unitsPerOne : Nat := powerOfTwo 1074

/-- The least number of units that is too large to be finite. -/
def overflowUnits : Nat := powerOfTwo 2098

/-- `num / den` rounded to a whole number, a half to the even neighbour. -/
def divideToEven (num den : Nat) : Nat :=
  let quotient := num / den
  let twice := 2 * (num % den)
  if twice < den then quotient
  else if twice = den then quotient + quotient % 2
  else quotient + 1

/-- The spacing of the grid around a magnitude whose whole part is `whole` units. -/
def spacing (whole : Nat) : Nat := powerOfTwo (whole.log2 - 52)

/-- The representable magnitude nearest to `num / den` units. -/
def roundUnits (num den : Nat) : Nat :=
  let step := spacing (num / den)
  divideToEven num (den * step) * step

/-- The number nearest to `num / den` units, with the given sign. -/
def ofUnits (negative : Bool) (num den : Nat) : Binary64 :=
  let units := roundUnits num den
  if units < overflowUnits then .finite negative units else .infinite negative

/-! ## Reading numbers -/

def zero : Binary64 := .finite false 0

/-- The number nearest to an integer. -/
def ofInt (i : Int) : Binary64 := ofUnits (decide (i < 0)) (i.natAbs * unitsPerOne) 1

/-- The number nearest to `mantissa * 10 ^ exponent`. -/
def ofDecimal (negative : Bool) (mantissa : Nat) (exponent : Int) : Binary64 :=
  let magnitude : Int := (Nat.repr mantissa).length + exponent
  if mantissa = 0 ∨ magnitude < -400 then .finite negative 0
  else if 400 < magnitude then .infinite negative
  else match exponent with
    | .ofNat e => ofUnits negative (mantissa * powerOfTen e * unitsPerOne) 1
    | .negSucc e => ofUnits negative (mantissa * unitsPerOne) (powerOfTen (e + 1))

/-! ## Comparing -/

/-- A finite number as a signed number of units. -/
def signed (negative : Bool) (units : Nat) : Int := if negative then -(units : Int) else units

/-- Numeric comparison: the two zeros are the same number, and no comparison holds of `nan`. -/
def less : Binary64 → Binary64 → Bool
  | .nan, _ | _, .nan => false
  | .infinite a, .infinite b => a && !b
  | .infinite a, .finite .. => a
  | .finite .., .infinite b => !b
  | .finite a m, .finite b n => signed a m < signed b n

/-- Numeric equality, which differs from identity at the two zeros and at `nan`. -/
def same : Binary64 → Binary64 → Bool
  | .finite a m, .finite b n => signed a m == signed b n
  | .infinite a, .infinite b => a == b
  | _, _ => false

def atMost (x y : Binary64) : Bool := less x y || same x y

/-- Finite and without a fractional part. -/
def isWhole : Binary64 → Bool
  | .finite _ units => units % unitsPerOne == 0
  | _ => false

/-- The integer a finite number is cut to, towards zero. -/
def truncate? : Binary64 → Option Int
  | .finite negative units => some (signed negative (units / unitsPerOne))
  | _ => none

def isFinite : Binary64 → Bool
  | .finite .. => true
  | _ => false

/-! ## Arithmetic -/

def abs : Binary64 → Binary64
  | .finite _ units => .finite false units
  | .infinite _ => .infinite false
  | .nan => .nan

def negate : Binary64 → Binary64
  | .finite negative units => .finite (!negative) units
  | .infinite negative => .infinite (!negative)
  | .nan => .nan

/-- The larger of two numbers; a number wins over `nan`. -/
def max (x y : Binary64) : Binary64 :=
  if x = .nan then y else if y = .nan then x else if less x y then y else x

def mul : Binary64 → Binary64 → Binary64
  | .nan, _ | _, .nan => .nan
  | .finite a m, .finite b n => ofUnits (a != b) (m * n) unitsPerOne
  | .infinite a, .infinite b => .infinite (a != b)
  | .infinite a, .finite b n => if n = 0 then .nan else .infinite (a != b)
  | .finite a m, .infinite b => if m = 0 then .nan else .infinite (a != b)

def div : Binary64 → Binary64 → Binary64
  | .nan, _ | _, .nan => .nan
  | .finite a m, .finite b n =>
    if n = 0 then (if m = 0 then .nan else .infinite (a != b))
    else ofUnits (a != b) (m * unitsPerOne) n
  | .infinite _, .infinite _ => .nan
  | .infinite a, .finite b _ => .infinite (a != b)
  | .finite a _, .infinite b => .finite (a != b) 0

def add : Binary64 → Binary64 → Binary64
  | .nan, _ | _, .nan => .nan
  | .infinite a, .infinite b => if a = b then .infinite a else .nan
  | .infinite a, .finite .. => .infinite a
  | .finite .., .infinite b => .infinite b
  | .finite a m, .finite b n =>
    let sum := signed a m + signed b n
    if sum = 0 then .finite (a && b) 0 else ofUnits (decide (sum < 0)) sum.natAbs 1

def sub (x y : Binary64) : Binary64 := add x (negate y)

/-- The nearest whole number, a half away from zero. -/
def round : Binary64 → Binary64
  | .finite negative units =>
    .finite negative ((units + unitsPerOne / 2) / unitsPerOne * unitsPerOne)
  | x => x

end Binary64

end DocumentModel
