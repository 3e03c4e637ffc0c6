import Mathlib.Data.List.Basic
import Mathlib.Order.Basic
import DocumentModel.Text.CharRanges

/-!
# Membership in ascending ranges

A set of characters is searched by halving. In ranges of which each begins after the end of the one
before it, the search finds exactly the code points that a range holds (`CharRanges.has_iff`). Sets
that are written down as gaps and lengths are such ranges, whatever the numbers are
(`CharRanges.ascending_decode`).
-/

namespace DocumentModel

namespace Text

namespace CharRanges

/-- A range of the list holds the code point. -/
def Covers (ranges : List (Nat × Nat)) (n : Nat) : Prop := ∃ r ∈ ranges, r.1 ≤ n ∧ n ≤ r.2

instance (ranges : List (Nat × Nat)) (n : Nat) : Decidable (Covers ranges n) :=
  inferInstanceAs (Decidable (∃ r ∈ ranges, r.1 ≤ n ∧ n ≤ r.2))

/-- No range is empty, and each begins after the one before it; the first not before a position. -/
def Ascending : Nat → List (Nat × Nat) → Prop
  | _, [] => True
  | position, (first, final) :: rest =>
    position ≤ first ∧ first ≤ final ∧ Ascending (final + 1) rest

variable {position position' n : Nat} {range : Nat × Nat} {list others : List (Nat × Nat)}

/-! ## Lists of ranges -/

@[simp]
theorem not_covers_nil : ¬ Covers [] n := by
  simp [Covers]

/-- A number is covered by the first range or by the others. -/
@[simp]
theorem covers_cons : Covers (range :: list) n ↔ (range.1 ≤ n ∧ n ≤ range.2) ∨ Covers list n := by
  simp [Covers]

@[simp]
theorem covers_append : Covers (list ++ others) n ↔ Covers list n ∨ Covers others n := by
  simp [Covers, or_and_right, exists_or]

/-- The order of the ranges does not matter for what they cover. -/
theorem covers_congr (h : list.Perm others) : Covers list n ↔ Covers others n := by
  simp only [Covers, h.mem_iff]

theorem Ascending.mono (h : Ascending position list) (hle : position' ≤ position) :
    Ascending position' list := by
  cases list with
  | nil => trivial
  | cons range list => exact ⟨Nat.le_trans hle h.1, h.2⟩

/-- Ranges in ascending order start after the position and do not end before they start. -/
theorem Ascending.bounds (h : Ascending position list) (hr : range ∈ list) :
    position ≤ range.1 ∧ range.1 ≤ range.2 := by
  induction list generalizing position with
  | nil => cases hr
  | cons first list ih =>
    rcases List.mem_cons.mp hr with rfl | hr
    · exact ⟨h.1, h.2.1⟩
    · have := ih h.2.2 hr
      have := h.1
      have := h.2.1
      omega

/-- They cover nothing before the position. -/
theorem Ascending.le_of_covers (h : Ascending position list) (hn : Covers list n) :
    position ≤ n := by
  obtain ⟨r, hr, hfirst, -⟩ := hn
  exact Nat.le_trans (h.bounds hr).1 hfirst

/-- Every range ends before the next one starts. -/
theorem Ascending.pairwise (h : Ascending position list) : list.Pairwise fun r s => r.2 < s.1 := by
  induction list generalizing position with
  | nil => exact List.Pairwise.nil
  | cons first list ih => exact List.Pairwise.cons (fun r hr => (h.2.2.bounds hr).1) (ih h.2.2)

/-! ## The search -/

section

variable {ranges : CharRanges} {i j : Nat} {r s : Nat × Nat}

theorem Ascending.le_of_getElem? (h : Ascending position ranges.toList) (hr : ranges[i]? = some r) :
    r.1 ≤ r.2 :=
  (h.bounds (Array.mem_toList_iff.mpr (Array.mem_of_getElem? hr))).2

/-- So does it before every later one. -/
theorem Ascending.lt_of_getElem? (h : Ascending position ranges.toList) (hij : i < j)
    (hr : ranges[i]? = some r) (hs : ranges[j]? = some s) : r.2 < s.1 := by
  rw [← Array.getElem?_toList, List.getElem?_eq_some_iff] at hr hs
  obtain ⟨hi, rfl⟩ := hr
  obtain ⟨hj, rfl⟩ := hs
  exact List.pairwise_iff_getElem.mp h.pairwise i j hi hj hij

end

/-- The search between two places finds what a range between them holds. -/
theorem search_iff {ranges : CharRanges} (h : Ascending position ranges.toList) {low high : Nat}
    (hhigh : high ≤ ranges.size) : search ranges n low high = true ↔
      ∃ i r, low ≤ i ∧ i < high ∧ ranges[i]? = some r ∧ r.1 ≤ n ∧ n ≤ r.2 := by
  fun_induction search ranges n low high with
  | case1 low high hlt middle hnone =>
    have : ranges.size ≤ middle := Array.getElem?_eq_none_iff.mp hnone
    omega
  | case2 low high hlt middle first last hmiddle hn ih =>
    refine (ih (by omega)).trans ?_
    -- the ranges from the middle on begin behind the code point
    refine exists_congr fun i => exists_congr fun r => ⟨?_, ?_⟩
    · rintro ⟨hlow, hi, hr⟩
      exact ⟨hlow, by omega, hr⟩
    · rintro ⟨hlow, hi, hr, hfirst, hlast⟩
      refine ⟨hlow, Nat.lt_of_not_le fun hle => ?_, hr, hfirst, hlast⟩
      rcases Nat.eq_or_lt_of_le hle with rfl | hlt
      · obtain rfl := Option.some.inj (hmiddle.symm.trans hr)
        omega
      · have := h.lt_of_getElem? hlt hmiddle hr
        have := h.le_of_getElem? hmiddle
        omega
  | case3 low high hlt middle first last hmiddle hn hlast ih =>
    refine (ih (by omega)).trans ?_
    -- the ranges up to the middle end before the code point
    refine exists_congr fun i => exists_congr fun r => ⟨?_, ?_⟩
    · rintro ⟨hlow, hi, hr⟩
      exact ⟨by omega, hi, hr⟩
    · rintro ⟨hlow, hi, hr, hfirst, hlast'⟩
      refine ⟨Nat.lt_of_not_le fun hle => ?_, hi, hr, hfirst, hlast'⟩
      rcases Nat.eq_or_lt_of_le hle with rfl | hlt
      · obtain rfl := Option.some.inj (hmiddle.symm.trans hr)
        omega
      · have := h.lt_of_getElem? hlt hr hmiddle
        have := h.le_of_getElem? hmiddle
        omega
  | case4 low high hlt middle first last hmiddle hfirst hlast =>
    exact iff_of_true rfl ⟨middle, _, by omega, by omega, hmiddle, by omega, by omega⟩
  | case5 low high hlt =>
    refine iff_of_false Bool.false_ne_true ?_
    rintro ⟨i, r, hlow, hhigh, -⟩
    omega

/-- **The search finds exactly what a range holds.** -/
theorem has_iff {ranges : CharRanges} (h : Ascending position ranges.toList) :
    ranges.has n = true ↔ Covers ranges.toList n := by
  rw [has, search_iff h (Nat.le_refl _)]
  constructor
  · rintro ⟨i, r, -, -, hr, hn⟩
    exact ⟨r, Array.mem_toList_iff.mpr (Array.mem_of_getElem? hr), hn⟩
  · rintro ⟨r, hr, hn⟩
    obtain ⟨i, hi, rfl⟩ := Array.mem_iff_getElem.mp (Array.mem_toList_iff.mp hr)
    exact ⟨i, ranges[i], Nat.zero_le i, hi, Array.getElem?_eq_getElem hi, hn⟩

theorem has_singleton_iff {m : Nat} : has #[(m, m)] n = true ↔ n = m := by
  have h : Ascending m (#[(m, m)] : CharRanges).toList := ⟨Nat.le_refl m, Nat.le_refl m, trivial⟩
  rw [has_iff h]
  simp
  omega

/-! ## Written sets -/

/-- Ranges that are written by their gaps are in ascending order. -/
theorem ascending_ofGaps (numbers : List Nat) : Ascending position (ofGaps position numbers) := by
  fun_induction ofGaps position numbers with
  | case1 position gap length rest first ih => exact ⟨by omega, by omega, ih⟩
  | case2 => trivial

/-- **Gaps and lengths write ascending ranges.** -/
theorem ascending_decode (text : String) : Ascending 0 (decode text).toList :=
  ascending_ofGaps _

/-- What was read before stays in front of what is read. -/
theorem foldl_readDigit (cs : List Char) (before : Array Nat) (digits : Nat) :
    (cs.foldl readDigit (before, digits)).1.toList
      = before.toList ++ (cs.foldl readDigit (#[], digits)).1.toList := by
  induction cs generalizing before digits with
  | nil => simp
  | cons c cs ih =>
    simp only [List.foldl_cons, readDigit]
    split
    · rw [ih, ih (Array.push _ _)]
      simp
    · exact ih before _

/-- **A set whose text begins with whole ranges begins with these ranges.** -/
theorem decode_append {front text : String} {read : List Nat}
    (h : front.toList.foldl readDigit (#[], 0) = (read.toArray, 0)) :
    (decode (front ++ text)).toList = ofGaps 0 (read ++ (numbers text).toList) := by
  rw [decode, numbers, String.toList_append, List.foldl_append, h, foldl_readDigit]
  rfl

end CharRanges

end Text

end DocumentModel
