import Mathlib.Data.List.DropRight
import DocumentModel.Schema.Check

/-!
# Trimming

A trimmed string is not trimmed further (`Text.trim_trim`). So the checks of a string find in the
string they leave what they found before, as long as no check sees a string that is trimmed only
later (`checkString_checkString`).
-/

namespace DocumentModel

namespace Text

theorem trimChars_eq (cs : List Char) : trimChars cs = (trimStart cs).rdropWhile isBlank := rfl

/-- Nothing blank is in front of what trimming leaves, since dropping at the end keeps the front. -/
theorem trimStart_trimChars (cs : List Char) : trimStart (trimChars cs) = trimChars cs := by
  refine List.dropWhile_eq_self_iff.mpr fun hl => ?_
  have hp : trimChars cs <+: trimStart cs := List.rdropWhile_prefix isBlank (trimStart cs)
  have hfront := List.dropWhile_eq_self_iff.mp
    (List.dropWhile_idempotent isBlank cs) (hl.trans_le hp.length_le)
  rwa [hp.getElem hl]

theorem trimChars_trimChars (cs : List Char) : trimChars (trimChars cs) = trimChars cs := by
  rw [trimChars_eq, trimStart_trimChars, trimChars_eq]
  exact List.rdropWhile_idempotent isBlank _

/-- **Trimming a trimmed string changes nothing.** -/
theorem trim_trim (s : String) : trim (trim s) = trim s := by
  rw [trim, trim, String.toList_ofList, trimChars_trimChars]

end Text

/-! ## Checks that trim before they look -/

namespace StringCheck

/-- No check other than trimming comes before trimming. -/
def TrimFirst (checks : List StringCheck) : Prop :=
  checks.Pairwise fun check later => later = .trim → check = .trim

theorem conform_of_ne_trim {check : StringCheck} (h : check ≠ .trim) (raw : String) :
    check.conform raw = raw := by
  cases check with
  | trim => exact absurd rfl h
  | _ => rfl

/-- Behind a check other than trimming nothing trims. -/
theorem TrimFirst.trim_notMem {check : StringCheck} {rest : List StringCheck}
    (h : TrimFirst (check :: rest)) (hc : check ≠ .trim) : .trim ∉ check :: rest := by
  intro hm
  rcases List.mem_cons.mp hm with he | hm
  · exact hc he.symm
  · exact hc ((List.pairwise_cons.mp h).1 .trim hm rfl)

end StringCheck

theorem checkString_of_not_trim {checks : List StringCheck} (h : StringCheck.trim ∉ checks)
    (raw : String) : (checkString checks raw).2 = raw := by
  induction checks with
  | nil => rfl
  | cons check rest ih =>
    have hc : check ≠ .trim := fun he => h (he ▸ List.mem_cons_self)
    rw [checkString, StringCheck.conform_of_ne_trim hc]
    exact ih fun hm => h (List.mem_cons_of_mem _ hm)

/-- Checks that trim first, if at all, leave a trimmed string alone. -/
theorem checkString_of_trimmed {checks : List StringCheck} (h : StringCheck.TrimFirst checks)
    {raw : String} (hr : Text.trim raw = raw) : (checkString checks raw).2 = raw := by
  induction checks with
  | nil => rfl
  | cons check rest ih =>
    by_cases hc : check = .trim
    · subst hc
      rw [checkString]
      show (checkString rest (Text.trim raw)).2 = raw
      rw [hr]
      exact ih (List.pairwise_cons.mp h).2
    · exact checkString_of_not_trim (h.trim_notMem hc) raw

/-- **Checks that trim first, if at all, find the same in the string that they leave.** -/
theorem checkString_checkString {checks : List StringCheck} (h : StringCheck.TrimFirst checks)
    (raw : String) : checkString checks (checkString checks raw).2 = checkString checks raw := by
  cases checks with
  | nil => rfl
  | cons check rest =>
    by_cases hc : check = .trim
    · -- the other checks see the trimmed string both times
      subst hc
      have hrest : (checkString rest (Text.trim raw)).2 = Text.trim raw :=
        checkString_of_trimmed (List.pairwise_cons.mp h).2 (Text.trim_trim raw)
      have hleft : (checkString (.trim :: rest) raw).2 = Text.trim raw := hrest
      rw [hleft]
      simp only [checkString, StringCheck.conform, Text.trim_trim, StringCheck.fault?]
    · rw [checkString_of_not_trim (h.trim_notMem hc)]

end DocumentModel
