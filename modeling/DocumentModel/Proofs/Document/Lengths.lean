import DocumentModel.Proofs.Document.Leaves

/-!
# Repeated lengths

A string is parsed if its length is within the bounds of all checks, while a document has room for
one bound on either side and keeps the last one of the checks. So the document allows what is
parsed, and allows nothing else exactly if the last bounds are the strictest ones, or leave no
length at all (`checkString_iff_allowsLength_iff`).
-/

namespace DocumentModel

/-- The last entry counts for all of them. -/
theorem forall_mem_iff_getLast? {p : Nat → Prop} {bounds : List Nat}
    (h : ∀ last ∈ bounds.getLast?, ∀ bound ∈ bounds, p last → p bound) :
    (∀ bound ∈ bounds, p bound) ↔ ∀ last ∈ bounds.getLast?, p last := by
  refine ⟨fun hall last hlast => hall last (List.mem_of_getLast? hlast), fun hlast bound hb => ?_⟩
  have hne : bounds ≠ [] := List.ne_nil_of_mem hb
  have hmem := List.getLast?_eq_some_getLast hne
  exact h _ hmem bound hb (hlast _ hmem)

section

variable {leasts mosts : List Nat}

/-- No number is above the last bound below and below the last bound above. -/
def LastCross (leasts mosts : List Nat) : Prop :=
  ∃ least ∈ leasts.getLast?, ∃ most ∈ mosts.getLast?, most < least

/-- The last bounds are the strictest ones. -/
structure LastStrictest (leasts mosts : List Nat) : Prop where
  least : ∀ last ∈ leasts.getLast?, ∀ k ∈ leasts, k ≤ last
  most : ∀ last ∈ mosts.getLast?, ∀ k ∈ mosts, last ≤ k

/-- **The last bounds stand for all of them exactly if they are the strictest ones, or cross.** -/
theorem within_iff_last_iff :
    (∀ n, ((∀ k ∈ leasts, k ≤ n) ∧ ∀ k ∈ mosts, n ≤ k) ↔
        ((∀ k ∈ leasts.getLast?, k ≤ n) ∧ ∀ k ∈ mosts.getLast?, n ≤ k))
      ↔ LastCross leasts mosts ∨ LastStrictest leasts mosts := by
  constructor
  · intro h
    by_cases hcross : LastCross leasts mosts
    · exact Or.inl hcross
    · -- bounds that do not cross leave their own numbers, and those have to be left by all bounds
      have hle : ∀ least ∈ leasts.getLast?, ∀ most ∈ mosts.getLast?, least ≤ most :=
        fun least hl most hm => Nat.le_of_not_lt fun hlt => hcross ⟨least, hl, most, hm, hlt⟩
      refine Or.inr ⟨fun last hlast => ?_, fun last hlast => ?_⟩
      · refine ((h last).mpr ⟨fun k hk => ?_, hle last hlast⟩).1
        cases hlast.symm.trans hk
        exact Nat.le_refl last
      · refine ((h last).mpr ⟨fun k hk => hle k hk last hlast, fun k hk => ?_⟩).2
        cases hlast.symm.trans hk
        exact Nat.le_refl last
  · rintro (⟨least, hl, most, hm, hlt⟩ | h) n
    · have hnone : ¬ (least ≤ n ∧ n ≤ most) := fun hn => by omega
      refine iff_of_false (fun hn => hnone ⟨?_, ?_⟩) fun hn => hnone ⟨hn.1 least hl, hn.2 most hm⟩
      · exact hn.1 least (List.mem_of_getLast? hl)
      · exact hn.2 most (List.mem_of_getLast? hm)
    · exact and_congr
        (forall_mem_iff_getLast? fun last hlast k hk hn =>
          Nat.le_trans (h.least last hlast k hk) hn)
        (forall_mem_iff_getLast? fun last hlast k hk hn => Nat.le_trans hn (h.most last hlast k hk))

end

/-- A string of this length keeps the lengths of the document. -/
def Document.AllowsLength (d : Document) (length : Nat) : Prop :=
  (∀ least ∈ d.minLength, least ≤ length) ∧ ∀ most ∈ d.maxLength, length ≤ most

variable {checks : List StringCheck}

/-- Strings have every length. -/
theorem forall_length_iff {p : Nat → Prop} : (∀ s : String, p s.length) ↔ ∀ n, p n := by
  refine ⟨fun h n => ?_, fun h s => h s.length⟩
  have hn := h (String.ofList (List.replicate n 'x'))
  rwa [String.length_ofList, List.length_replicate] at hn

/-- **The document of lengths allows every string that is parsed, and no other one exactly if the
last lengths are the strictest ones, or cross.** -/
theorem checkString_iff_allowsLength_iff (h : ∀ c ∈ checks, c.isLength = true) :
    (∀ s : String, (checkString checks s).1 = [] →
        (Document.ofStringChecks checks).AllowsLength s.length)
    ∧ ((∀ s : String, (checkString checks s).1 = [] ↔
          (Document.ofStringChecks checks).AllowsLength s.length)
      ↔ LastCross (checks.filterMap StringCheck.least?) (checks.filterMap StringCheck.most?)
        ∨ LastStrictest (checks.filterMap StringCheck.least?)
          (checks.filterMap StringCheck.most?)) := by
  have hallows : ∀ n, (Document.ofStringChecks checks).AllowsLength n ↔
      (∀ k ∈ (checks.filterMap StringCheck.least?).getLast?, k ≤ n)
        ∧ ∀ k ∈ (checks.filterMap StringCheck.most?).getLast?, n ≤ k := by
    intro n
    rw [Document.AllowsLength, Document.ofStringChecks_of_isLength h]
  simp only [(checkString_of_isLength h _).2, hallows]
  constructor
  · rintro s ⟨hl, hm⟩
    exact ⟨fun k hk => hl k (List.mem_of_getLast? hk), fun k hk => hm k (List.mem_of_getLast? hk)⟩
  · exact forall_length_iff.trans within_iff_last_iff

/-- Bounds that become stricter. -/
theorem checkString_iff_allowsLength_iff_stricter :
    (∀ c ∈ [StringCheck.min 2, .max 5, .min 3], c.isLength = true)
    ∧ ∀ s : String, (checkString [.min 2, .max 5, .min 3] s).1 = [] ↔
      (Document.ofStringChecks [.min 2, .max 5, .min 3]).AllowsLength s.length := by
  have h : ∀ c ∈ [StringCheck.min 2, .max 5, .min 3], c.isLength = true := by
    simp [StringCheck.isLength]
  refine ⟨h, (checkString_iff_allowsLength_iff h).2.mpr (Or.inr ⟨?_, ?_⟩)⟩
  · rintro _ ⟨⟩
    decide
  · rintro _ ⟨⟩
    decide

/-- Of two lower bounds the document keeps the last one, and allows four characters. -/
theorem allows_refused_length :
    (checkString [.min 5, .min 3] "abcd").1 ≠ []
    ∧ (Document.ofStringChecks [.min 5, .min 3]).AllowsLength "abcd".length := by
  refine ⟨by decide, ?_, nofun⟩
  rintro _ ⟨⟩
  decide

end DocumentModel
