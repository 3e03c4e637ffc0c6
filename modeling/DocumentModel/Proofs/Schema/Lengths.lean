import DocumentModel.Schema.Check

/-!
# Lengths and counts

Checks on the length of a string, and bounds on the number of elements of a list, as inequalities.
-/

namespace DocumentModel

namespace StringCheck

/-- The length a check asks for at least. -/
def least? : StringCheck → Option Nat
  | .min length => some length
  | _ => none

/-- The length a check allows at most. -/
def most? : StringCheck → Option Nat
  | .max length => some length
  | _ => none

/-- Whether a check is one of the length. -/
def isLength : StringCheck → Bool
  | .min _ | .max _ => true
  | _ => false

theorem conform_of_isLength {c : StringCheck} (h : c.isLength = true) (raw : String) :
    c.conform raw = raw := by
  cases c <;> first | rfl | cases h

/-- A length is met by the strings that are long enough, or short enough. -/
theorem fault?_eq_none_iff {c : StringCheck} (h : c.isLength = true) {raw : String} :
    c.fault? raw = none ↔ (∀ k ∈ c.least?, k ≤ raw.length) ∧ ∀ k ∈ c.most?, raw.length ≤ k := by
  cases c with
  | min k | max k => simp [fault?, least?, most?]
  | _ => cases h

end StringCheck

/-- **Checks of the length leave a string alone, and ask for each of their bounds.** -/
theorem checkString_of_isLength {checks : List StringCheck}
    (h : ∀ c ∈ checks, c.isLength = true) (raw : String) :
    (checkString checks raw).2 = raw
    ∧ ((checkString checks raw).1 = []
      ↔ (∀ k ∈ checks.filterMap StringCheck.least?, k ≤ raw.length)
        ∧ ∀ k ∈ checks.filterMap StringCheck.most?, raw.length ≤ k) := by
  induction checks with
  | nil => simp [checkString]
  | cons c rest ih =>
    obtain ⟨hc, hrest⟩ := List.forall_mem_cons.mp h
    obtain ⟨ihv, ihf⟩ := ih hrest
    rw [checkString, StringCheck.conform_of_isLength hc]
    refine ⟨ihv, ?_⟩
    rw [List.append_eq_nil_iff, Option.toList_eq_nil_iff, StringCheck.fault?_eq_none_iff hc, ihf]
    simp only [List.forall_mem_filterMap, List.forall_mem_cons]
    exact and_and_and_comm

/-- A number of elements has no fault when it is within both bounds. -/
theorem Bounds.faults_eq_nil_iff {b : Bounds} {count : Nat} :
    b.faults count = [] ↔ b.least.all (· ≤ count) = true ∧ b.most.all (count ≤ ·) = true := by
  obtain ⟨least, most⟩ := b
  cases least <;> cases most <;> simp [faults]

end DocumentModel
