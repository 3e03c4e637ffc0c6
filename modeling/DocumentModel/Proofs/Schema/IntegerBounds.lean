import DocumentModel.Proofs.Number.Rounding
import DocumentModel.Proofs.Schema.Fits

/-!
# Integers and their bounds

A check on numbers sees an integer as the binary number nearest to it. Rounding passes no number
that the format has, so a bound that is an integer is compared exactly with every integer that is
not rounded to it; an integer that is rounded to the bound is taken for the bound
(`Node.parse_bounded_iff`). That takes an integer of more than 53 bits.
-/

namespace DocumentModel

namespace Binary64

variable {b c v : Int} {bound : Binary64}

/-! ## Integers of 64 bits -/

/-- The integer fits in 64 bits, with or without a sign. -/
def FitsWord (i : Int) : Prop := -(powerOfTwo 63 : Int) ≤ i ∧ i < powerOfTwo 64

instance (i : Int) : Decidable (FitsWord i) :=
  inferInstanceAs (Decidable (-(powerOfTwo 63 : Int) ≤ i ∧ i < powerOfTwo 64))

/-- The number is the integer. -/
def IsInteger (x : Binary64) (i : Int) : Prop :=
  ∃ negative units, x = .finite negative units ∧ signed negative units = i * unitsPerOne

/-- The signed number of units that an integer is rounded to. -/
def roundedUnits (i : Int) : Int :=
  signed (decide (i < 0)) (roundUnits (i.natAbs * unitsPerOne) 1)

theorem natAbs_signed (negative : Bool) (units : Nat) : (signed negative units).natAbs = units := by
  cases negative with
  | false => rfl
  | true => exact Int.natAbs_neg units

theorem signed_not (negative : Bool) (units : Nat) :
    signed (!negative) units = -signed negative units := by
  cases negative with
  | false => rfl
  | true => exact (Int.neg_neg units).symm

/-- Numbers of one sign are as far from each other as their sizes are. -/
theorem natAbs_signed_sub_signed (negative : Bool) (m n : Nat) :
    (signed negative m - signed negative n).natAbs = ((m : Int) - n).natAbs := by
  cases negative with
  | false => rfl
  | true =>
    simp only [signed, if_true]
    omega

theorem unitsPerOne_pos : 0 < unitsPerOne := powerOfTwo_pos 1074

theorem natCast_unitsPerOne_ne_zero : (unitsPerOne : Int) ≠ 0 :=
  Int.natCast_ne_zero.mpr (Nat.ne_of_gt unitsPerOne_pos)

/-- An integer is as many units as its size has, with its sign. -/
theorem mul_unitsPerOne_eq (i : Int) :
    i * unitsPerOne = signed (decide (i < 0)) (i.natAbs * unitsPerOne) := by
  by_cases hi : i < 0
  · have habs : (i.natAbs : Int) = -i := by omega
    simp only [signed, hi, decide_true, if_true, Int.natCast_mul, habs, Int.neg_mul, Int.neg_neg]
  · have habs : (i.natAbs : Int) = i := by omega
    simp only [signed, hi, decide_false, Bool.false_eq_true, if_false, Int.natCast_mul, habs]

/-- An integer that the format has is still on the grid when it is counted in units. -/
theorem OnGrid.mul_unitsPerOne {m : Nat} (h : OnGrid m) : OnGrid (m * unitsPerOne) := by
  obtain ⟨significand, exponent, hs, rfl⟩ := h
  refine ⟨significand, exponent + 1074, hs, ?_⟩
  rw [powerOfTwo_add, Nat.mul_assoc, unitsPerOne]

theorem onGrid_powerOfTwo (n : Nat) : OnGrid (powerOfTwo n) :=
  ⟨1, n, by decide, (Nat.one_mul _).symm⟩

/-- Up to 53 bits the format has every integer. -/
theorem onGrid_of_le {m : Nat} (h : m ≤ powerOfTwo 53) : OnGrid m := by
  rcases Nat.lt_or_eq_of_le h with h | rfl
  · exact ⟨m, 0, h, (Nat.mul_one m).symm⟩
  · exact onGrid_powerOfTwo 53

/-- Integers of 64 bits are not too large for the format. -/
theorem ofInt_of_fitsWord (hv : FitsWord v) :
    ofInt v = .finite (decide (v < 0)) (roundUnits (v.natAbs * unitsPerOne) 1) := by
  have habs : v.natAbs ≤ powerOfTwo 64 := by
    have hpowers : powerOfTwo 63 < powerOfTwo 64 := powerOfTwo_lt (by decide)
    have hlow := hv.1
    have hhigh := hv.2
    omega
  have hround : roundUnits (v.natAbs * unitsPerOne) 1 ≤ powerOfTwo 64 * unitsPerOne :=
    roundUnits_le (onGrid_powerOfTwo 64).mul_unitsPerOne (Nat.mul_le_mul_right _ habs)
  have hlarge : powerOfTwo 64 * unitsPerOne < overflowUnits := by
    rw [unitsPerOne, ← powerOfTwo_add]
    exact powerOfTwo_lt (by decide)
  rw [ofInt, ofUnits]
  exact if_pos (Nat.lt_of_le_of_lt hround hlarge)

/-! ## Rounding integers -/

/-- The sign does not take part in rounding. -/
theorem natAbs_roundedUnits (i : Int) :
    (roundedUnits i).natAbs = roundUnits (i.natAbs * unitsPerOne) 1 :=
  natAbs_signed _ _

theorem roundedUnits_zero : roundedUnits 0 = 0 := by
  have hzero : OnGrid 0 := ⟨0, 0, by decide, (Nat.zero_mul _).symm⟩
  rw [← Int.natAbs_eq_zero, natAbs_roundedUnits, Int.natAbs_zero, Nat.zero_mul,
    roundUnits_of_onGrid hzero]

theorem roundedUnits_neg (i : Int) : roundedUnits (-i) = -roundedUnits i := by
  by_cases hi : i = 0
  · rw [hi, Int.neg_zero, roundedUnits_zero, Int.neg_zero]
  · have hside : decide (-i < 0) = !decide (i < 0) := by
      rw [← decide_not, decide_eq_decide]
      omega
    rw [roundedUnits, roundedUnits, Int.natAbs_neg, hside, signed_not]

/-- **An integer is not rounded past a number of the format that is not above it.** -/
theorem le_roundedUnits (hb : OnGrid b.natAbs) (h : b ≤ v) : b * unitsPerOne ≤ roundedUnits v := by
  have hgrid := hb.mul_unitsPerOne
  rw [mul_unitsPerOne_eq, roundedUnits]
  by_cases hv : v < 0
  · have hneg : b < 0 := Int.lt_of_le_of_lt h hv
    have hround := roundUnits_le hgrid (Nat.mul_le_mul_right unitsPerOne
      (show v.natAbs ≤ b.natAbs by omega))
    simp only [signed, hv, hneg, decide_true, if_true]
    omega
  · by_cases hneg : b < 0
    · simp only [signed, hv, hneg, decide_true, decide_false, if_true, Bool.false_eq_true, if_false]
      omega
    · have hround := le_roundUnits hgrid (Nat.mul_le_mul_right unitsPerOne
        (show b.natAbs ≤ v.natAbs by omega))
      simp only [signed, hv, hneg, decide_false, Bool.false_eq_true, if_false]
      omega

/-- **An integer is not rounded past a number of the format that is not below it.** -/
theorem roundedUnits_le (hb : OnGrid b.natAbs) (h : v ≤ b) : roundedUnits v ≤ b * unitsPerOne := by
  have hneg : OnGrid (-b).natAbs := by rwa [Int.natAbs_neg]
  have hle := le_roundedUnits hneg (Int.neg_le_neg h)
  rw [roundedUnits_neg, Int.neg_mul] at hle
  exact Int.neg_le_neg_iff.mp hle

/-- An integer that the format has is not rounded. -/
theorem roundedUnits_of_onGrid (hb : OnGrid b.natAbs) : roundedUnits b = b * unitsPerOne :=
  Int.le_antisymm (roundedUnits_le hb (Int.le_refl b)) (le_roundedUnits hb (Int.le_refl b))

theorem isInteger_ofInt (hv : FitsWord v) (hg : OnGrid v.natAbs) : (ofInt v).IsInteger v :=
  ⟨_, _, ofInt_of_fitsWord hv, roundedUnits_of_onGrid hg⟩

/-- No integer of the format is nearer than one that an integer is rounded to. -/
theorem natAbs_sub_le_of_roundedUnits (h : roundedUnits v = b * unitsPerOne)
    (hc : OnGrid c.natAbs) : (v - b).natAbs ≤ (v - c).natAbs := by
  have hnear := natAbs_roundUnits_sub_le (n := v.natAbs * unitsPerOne) hc.mul_unitsPerOne
  have hround : (b * unitsPerOne - v * unitsPerOne).natAbs
      = ((roundUnits (v.natAbs * unitsPerOne) 1 : Int)
        - (v.natAbs * unitsPerOne : Nat)).natAbs := by
    rw [← h, mul_unitsPerOne_eq, roundedUnits, natAbs_signed_sub_signed]
  rw [← hround, ← Int.sub_mul, Int.natCast_mul, Int.natCast_mul, ← Int.sub_mul, Int.natAbs_mul,
    Int.natAbs_mul] at hnear
  have hle := Nat.le_of_mul_le_mul_right hnear (Int.natAbs_pos.mpr natCast_unitsPerOne_ne_zero)
  omega

/-! ## Comparing with a bound -/

/-- A bound is compared with the number of units that an integer is rounded to. -/
theorem compare_ofInt (hv : FitsWord v) (hb : bound.IsInteger b) :
    ((ofInt v).less bound = true ↔ roundedUnits v < b * unitsPerOne)
    ∧ (bound.less (ofInt v) = true ↔ b * unitsPerOne < roundedUnits v)
    ∧ ((ofInt v).same bound = true ↔ roundedUnits v = b * unitsPerOne) := by
  obtain ⟨negative, units, rfl, hunits⟩ := hb
  rw [ofInt_of_fitsWord hv, ← hunits]
  simp only [less, same, roundedUnits, decide_eq_true_eq, beq_iff_eq, and_self]

/-- **An integer that is rounded to another one is larger than the format can tell apart.** -/
theorem of_same_ofInt (hv : FitsWord v) (hb : bound.IsInteger b) (hne : v ≠ b)
    (h : (ofInt v).same bound = true) :
    ¬ OnGrid v.natAbs ∧ powerOfTwo 53 < v.natAbs ∧ powerOfTwo 53 ≤ b.natAbs
      ∧ ∀ c : Int, OnGrid c.natAbs → (v - b).natAbs ≤ (v - c).natAbs := by
  have hrounded := (compare_ofInt hv hb).2.2.mp h
  have hfar : ¬ OnGrid v.natAbs := by
    intro hgrid
    rw [roundedUnits_of_onGrid hgrid] at hrounded
    exact hne (Int.eq_of_mul_eq_mul_right natCast_unitsPerOne_ne_zero hrounded)
  have hlarge : powerOfTwo 53 < v.natAbs := Nat.lt_of_not_le fun hle => hfar (onGrid_of_le hle)
  refine ⟨hfar, hlarge, ?_, fun c => natAbs_sub_le_of_roundedUnits hrounded⟩
  -- the power of two stands between zero and the integer, so it is not passed
  have hpower := le_roundUnits (onGrid_powerOfTwo 53).mul_unitsPerOne
    (Nat.mul_le_mul_right unitsPerOne (Nat.le_of_lt hlarge))
  rw [← natAbs_roundedUnits, hrounded, Int.natAbs_mul, Int.natAbs_natCast] at hpower
  exact Nat.le_of_mul_le_mul_right hpower unitsPerOne_pos

variable (hv : FitsWord v) (hb : bound.IsInteger b) (hg : OnGrid b.natAbs)
include hv hb hg

/-- The rounded integer is below the bound when the integer is, unless it is rounded to the
bound. -/
theorem ofInt_less_iff :
    (ofInt v).less bound = true ↔ v < b ∧ ¬ (ofInt v).same bound = true := by
  obtain ⟨hless, -, hsame⟩ := compare_ofInt hv hb
  rw [hless, hsame]
  constructor
  · intro h
    exact ⟨Int.not_le.mp fun hle => absurd (le_roundedUnits hg hle) (Int.not_le.mpr h),
      Int.ne_of_lt h⟩
  · rintro ⟨hlt, hne⟩
    exact Int.lt_iff_le_and_ne.mpr ⟨roundedUnits_le hg (Int.le_of_lt hlt), hne⟩

theorem less_ofInt_iff :
    bound.less (ofInt v) = true ↔ b < v ∧ ¬ (ofInt v).same bound = true := by
  obtain ⟨-, hless, hsame⟩ := compare_ofInt hv hb
  rw [hless, hsame]
  constructor
  · intro h
    exact ⟨Int.not_le.mp fun hle => absurd (roundedUnits_le hg hle) (Int.not_le.mpr h),
      fun he => Int.ne_of_lt h he.symm⟩
  · rintro ⟨hlt, hne⟩
    exact Int.lt_iff_le_and_ne.mpr ⟨le_roundedUnits hg (Int.le_of_lt hlt), fun he => hne he.symm⟩

end Binary64

namespace NumberCheck

variable {x bound : Binary64} {inclusive : Bool}

theorem fault?_min_eq_none_iff : (NumberCheck.min bound inclusive).fault? x = none
    ↔ ¬ x.less bound = true ∧ (inclusive = true ∨ ¬ x.same bound = true) := by
  rw [fault?]
  cases inclusive <;> simp

theorem fault?_max_eq_none_iff : (NumberCheck.max bound inclusive).fault? x = none
    ↔ ¬ bound.less x = true ∧ (inclusive = true ∨ ¬ x.same bound = true) := by
  rw [fault?]
  cases inclusive <;> simp

end NumberCheck

namespace Node

open Binary64

/-- A number that meets one check. -/
def bounded (check : NumberCheck) : Node := ofKind (.number [check])

/-- A node with one check parses the integers in which the check finds no fault. -/
theorem parse_bounded_eq_ok_iff {check : NumberCheck} {i : Int} :
    (∃ out, (bounded check).parse (.ofInt i) = .ok out) ↔ check.fault? (.ofInt i) = none := by
  have hfits : (bounded check).Fits (some (.ofInt i)) ↔ check.fault? (.ofInt i) = none := by
    rw [bounded, ofKind, fits_number]
    constructor
    · rintro ⟨n, hn, h⟩
      cases hn
      simpa [checkNumber, JsonNumber.toBinary64] using h
    · intro h
      exact ⟨.integer i, rfl, by simpa [checkNumber, JsonNumber.toBinary64] using h⟩
  rw [← hfits]
  exact ⟨fun ⟨out, h⟩ => (parse_eq_ok_iff.mp h).1, fun h => ⟨_, parse_eq_ok_iff.mpr ⟨h, rfl⟩⟩⟩

/-- What a comparison of two numbers says of two integers that are not told apart, and of the
others. -/
theorem reaches_iff {v b : Int} {same inclusive : Bool} (hself : v = b → same = true) :
    (¬ (v < b ∧ ¬ same = true) ∧ (inclusive = true ∨ ¬ same = true)) ↔
      if v ≠ b ∧ same = true then inclusive = true
      else if inclusive = true then b ≤ v else b < v := by
  cases same with
  | false =>
    have hne : v ≠ b := fun he => Bool.false_ne_true (hself he)
    cases inclusive <;> simp
    omega
  | true =>
    by_cases he : v = b
    · cases inclusive <;> simp [he]
    · simp [he]

/-- **A bound that is an integer is compared exactly with every integer that is not rounded to it.**
One that is rounded to the bound is taken for it, and has more than 53 bits. -/
theorem parse_bounded_iff {v b : Int} {bound : Binary64} (hv : FitsWord v)
    (hb : bound.IsInteger b) (hg : OnGrid b.natAbs) :
    (∀ inclusive : Bool, (∃ out, (bounded (.min bound inclusive)).parse (.ofInt v) = .ok out) ↔
      if v ≠ b ∧ (Binary64.ofInt v).same bound = true then inclusive = true
      else if inclusive = true then b ≤ v else b < v)
    ∧ (∀ inclusive : Bool, (∃ out, (bounded (.max bound inclusive)).parse (.ofInt v) = .ok out) ↔
      if v ≠ b ∧ (Binary64.ofInt v).same bound = true then inclusive = true
      else if inclusive = true then v ≤ b else v < b)
    ∧ (v ≠ b → (Binary64.ofInt v).same bound = true →
      ¬ OnGrid v.natAbs ∧ powerOfTwo 53 < v.natAbs ∧ powerOfTwo 53 ≤ b.natAbs
        ∧ ∀ c : Int, OnGrid c.natAbs → (v - b).natAbs ≤ (v - c).natAbs) := by
  have hbelow := ofInt_less_iff hv hb hg
  have habove := less_ofInt_iff hv hb hg
  have hself : v = b → (Binary64.ofInt v).same bound = true := by
    rintro rfl
    exact (compare_ofInt hv hb).2.2.mpr (roundedUnits_of_onGrid hg)
  refine ⟨fun inclusive => ?_, fun inclusive => ?_, of_same_ofInt hv hb⟩
  · rw [parse_bounded_eq_ok_iff, NumberCheck.fault?_min_eq_none_iff, hbelow]
    exact reaches_iff hself
  · rw [parse_bounded_eq_ok_iff, NumberCheck.fault?_max_eq_none_iff, habove]
    simp only [show (v ≠ b) = (b ≠ v) from propext ne_comm]
    exact reaches_iff fun he => hself he.symm

theorem parse_bounded_iff_past_53_bits :
    let v : Int := 9007199254740993
    let b : Int := 9007199254740992
    let bound := Binary64.ofInt b
    FitsWord v ∧ bound.IsInteger b ∧ OnGrid b.natAbs
      ∧ (Binary64.ofInt v).same bound = true
      ∧ (∃ out, (bounded (.max bound true)).parse (.ofInt v) = .ok out)
      ∧ ¬ OnGrid v.natAbs := by
  have hv : FitsWord 9007199254740993 := by decide
  have hg : OnGrid (9007199254740992 : Int).natAbs := onGrid_powerOfTwo 53
  have hb : (Binary64.ofInt 9007199254740992).IsInteger 9007199254740992 :=
    isInteger_ofInt (by decide) hg
  have hsame : (Binary64.ofInt 9007199254740993).same (.ofInt 9007199254740992) = true := by
    decide +kernel
  obtain ⟨-, hmost, hfar⟩ := parse_bounded_iff hv hb hg
  exact ⟨hv, hb, hg, hsame, (hmost true).mpr (by rw [if_pos ⟨by decide, hsame⟩]),
    (hfar (by decide) hsame).1⟩

/-- An integer above an exclusive bound is refused where both are the same binary number. -/
theorem bounded_refuses_above_bound :
    let v : Int := 9007199254740993
    let b : Int := 9007199254740992
    FitsWord v ∧ (Binary64.ofInt b).IsInteger b ∧ OnGrid b.natAbs ∧ b < v
      ∧ ¬ ∃ out, (bounded (.min (Binary64.ofInt b) false)).parse (.ofInt v) = .ok out := by
  have hg : OnGrid (9007199254740992 : Int).natAbs := onGrid_powerOfTwo 53
  refine ⟨by decide, isInteger_ofInt (by decide) hg, hg, by decide, ?_⟩
  rw [parse_bounded_eq_ok_iff]
  decide +kernel

end Node

end DocumentModel
