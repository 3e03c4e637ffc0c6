import DocumentModel.Number.Binary64

/-!
# Rounding to the grid

A magnitude is on the grid when it has 53 significant bits at most. Rounding keeps to one side of
everything on the grid: it takes no magnitude past a number that the format has
(`Binary64.roundUnits_le`, `Binary64.le_roundUnits`), and to none of them that is further away
than another one (`Binary64.natAbs_roundUnits_sub_le`).
-/

namespace DocumentModel

theorem powerOfTwo_add (m n : Nat) : powerOfTwo (m + n) = powerOfTwo m * powerOfTwo n :=
  Nat.pow_add 2 m n

theorem powerOfTwo_dvd {m n : Nat} (h : m ≤ n) : powerOfTwo m ∣ powerOfTwo n :=
  Nat.pow_dvd_pow 2 h

theorem powerOfTwo_lt {m n : Nat} (h : m < n) : powerOfTwo m < powerOfTwo n :=
  Nat.pow_lt_pow_right (by decide) h

namespace Binary64

variable {m n : Nat}

/-! ## Multiples on both sides -/

/-- The nearest whole number is one of the two around a quotient, the upper one from the half on. -/
theorem divideToEven_cases (num den : Nat) :
    (divideToEven num den = num / den ∧ 2 * (num % den) ≤ den)
    ∨ (divideToEven num den = num / den + 1 ∧ den ≤ 2 * (num % den)) := by
  unfold divideToEven
  dsimp only
  split
  · next h => exact Or.inl ⟨rfl, Nat.le_of_lt h⟩
  · next h =>
    split
    · next he =>
      rcases Nat.mod_two_eq_zero_or_one (num / den) with hq | hq
      · exact Or.inl ⟨by rw [hq, Nat.add_zero], Nat.le_of_eq he⟩
      · exact Or.inr ⟨by rw [hq], Nat.le_of_eq he.symm⟩
    · exact Or.inr ⟨rfl, Nat.le_of_not_lt h⟩

/-- A multiple that is not above a number is not above the last multiple before it. -/
theorem le_div_mul_of_dvd {step : Nat} (hs : 0 < step) (hd : step ∣ m) (h : m ≤ n) :
    m ≤ n / step * step := by
  obtain ⟨k, rfl⟩ := hd
  rw [Nat.mul_comm step k] at h ⊢
  exact Nat.mul_le_mul_right step ((Nat.le_div_iff_mul_le hs).mpr h)

/-- A multiple above a number is not below the first multiple behind it. -/
theorem div_add_one_mul_le_of_dvd {step : Nat} (hs : 0 < step) (hd : step ∣ m) (h : n < m) :
    (n / step + 1) * step ≤ m := by
  obtain ⟨k, rfl⟩ := hd
  rw [Nat.mul_comm step k] at h ⊢
  exact Nat.mul_le_mul_right step ((Nat.div_lt_iff_lt_mul hs).mpr h)

/-! ## The grid -/

/-- The magnitude has 53 significant bits at most. -/
def OnGrid (units : Nat) : Prop :=
  ∃ significand exponent, significand < powerOfTwo 53 ∧ units = significand * powerOfTwo exponent

theorem spacing_pos (n : Nat) : 0 < spacing n := powerOfTwo_pos _

/-- A magnitude on the grid is a multiple of the spacing around it. -/
theorem OnGrid.spacing_dvd (h : OnGrid m) : spacing m ∣ m := by
  obtain ⟨significand, exponent, hs, rfl⟩ := h
  by_cases hzero : significand * powerOfTwo exponent = 0
  · rw [hzero]
    exact Nat.dvd_zero _
  · have hlt : significand * powerOfTwo exponent < powerOfTwo (53 + exponent) := by
      rw [powerOfTwo_add]
      exact Nat.mul_lt_mul_of_pos_right hs (powerOfTwo_pos exponent)
    have hlog : (significand * powerOfTwo exponent).log2 < 53 + exponent :=
      (Nat.log2_lt hzero).mpr hlt
    have hdvd : spacing (significand * powerOfTwo exponent) ∣ powerOfTwo exponent :=
      powerOfTwo_dvd (by omega)
    exact Nat.dvd_trans hdvd (Nat.dvd_mul_left _ _)

theorem spacing_dvd_spacing (h : m.log2 ≤ n.log2) : spacing m ∣ spacing n :=
  powerOfTwo_dvd (by omega)

/-- The grid has no number between a magnitude and the last multiple of the spacing before it. -/
theorem OnGrid.le_div_mul (hm : OnGrid m) (h : m ≤ n) : m ≤ n / spacing n * spacing n := by
  by_cases hn : n = 0
  · rw [hn] at h
    rw [Nat.le_zero.mp h]
    exact Nat.zero_le _
  by_cases hlog : n.log2 ≤ m.log2
  · exact le_div_mul_of_dvd (spacing_pos n)
      (Nat.dvd_trans (spacing_dvd_spacing hlog) hm.spacing_dvd) h
  · -- the power of two between them is a multiple of the spacing
    have hbetween : m ≤ powerOfTwo n.log2 := by
      have hself : m < powerOfTwo (m.log2 + 1) := Nat.lt_log2_self
      have hpower : powerOfTwo (m.log2 + 1) ≤ powerOfTwo n.log2 :=
        Nat.pow_le_pow_right (by decide) (by omega)
      exact Nat.le_of_lt (Nat.lt_of_lt_of_le hself hpower)
    have hdvd : spacing n ∣ powerOfTwo n.log2 := powerOfTwo_dvd (by omega)
    exact Nat.le_trans hbetween (le_div_mul_of_dvd (spacing_pos n) hdvd (Nat.log2_self_le hn))

/-- The grid has no number between a magnitude and the first multiple of the spacing behind it. -/
theorem OnGrid.div_add_one_mul_le (hm : OnGrid m) (h : n < m) :
    (n / spacing n + 1) * spacing n ≤ m := by
  have hlog : n.log2 ≤ m.log2 := by
    by_cases hn : n = 0
    · rw [hn]
      exact Nat.zero_le _
    · rw [Nat.le_log2 (by omega)]
      exact Nat.le_trans (Nat.log2_self_le hn) (Nat.le_of_lt h)
  exact div_add_one_mul_le_of_dvd (spacing_pos n)
    (Nat.dvd_trans (spacing_dvd_spacing hlog) hm.spacing_dvd) h

/-! ## Rounding -/

theorem roundUnits_one (n : Nat) : roundUnits n 1 = divideToEven n (spacing n) * spacing n := by
  rw [roundUnits, Nat.div_one, Nat.one_mul]

/-- **A magnitude is not rounded past a number on the grid that is not below it.** -/
theorem roundUnits_le (hm : OnGrid m) (h : n ≤ m) : roundUnits n 1 ≤ m := by
  rw [roundUnits_one]
  rcases divideToEven_cases n (spacing n) with ⟨hq, -⟩ | ⟨hq, hmod⟩
  · rw [hq]
    exact Nat.le_trans (Nat.div_mul_le_self n (spacing n)) h
  · -- what is rounded up is not on the grid itself
    have hne : n ≠ m := by
      rintro rfl
      have hpos := spacing_pos n
      rw [Nat.mod_eq_zero_of_dvd hm.spacing_dvd] at hmod
      omega
    rw [hq]
    exact hm.div_add_one_mul_le (Nat.lt_of_le_of_ne h hne)

/-- **A magnitude is not rounded past a number on the grid that is not above it.** -/
theorem le_roundUnits (hm : OnGrid m) (h : m ≤ n) : m ≤ roundUnits n 1 := by
  refine Nat.le_trans (hm.le_div_mul h) ?_
  rw [roundUnits_one]
  refine Nat.mul_le_mul_right _ ?_
  rcases divideToEven_cases n (spacing n) with ⟨hq, -⟩ | ⟨hq, -⟩ <;> omega

theorem roundUnits_of_onGrid (hm : OnGrid m) : roundUnits m 1 = m :=
  Nat.le_antisymm (roundUnits_le hm (Nat.le_refl m)) (le_roundUnits hm (Nat.le_refl m))

/-- **No number on the grid is nearer than what a magnitude is rounded to.** -/
theorem natAbs_roundUnits_sub_le (hm : OnGrid m) :
    ((roundUnits n 1 : Int) - n).natAbs ≤ ((m : Int) - n).natAbs := by
  have hsplit : n / spacing n * spacing n + n % spacing n = n := Nat.div_add_mod' n (spacing n)
  have hnext : (n / spacing n + 1) * spacing n = n / spacing n * spacing n + spacing n :=
    Nat.succ_mul _ _
  have hmod : n % spacing n < spacing n := Nat.mod_lt n (spacing_pos n)
  have hside : m ≤ n / spacing n * spacing n ∨ (n / spacing n + 1) * spacing n ≤ m := by
    rcases Nat.lt_or_ge n m with h | h
    · exact Or.inr (hm.div_add_one_mul_le h)
    · exact Or.inl (hm.le_div_mul h)
  rw [roundUnits_one]
  rcases divideToEven_cases n (spacing n) with ⟨hq, hhalf⟩ | ⟨hq, hhalf⟩
  · rw [hq]
    omega
  · rw [hq, hnext]
    omega

end Binary64

end DocumentModel
