import DocumentModel.Document.Translate
import DocumentModel.Format.Identifier
import DocumentModel.Proofs.Pattern.CharSets
import DocumentModel.Proofs.Pattern.Matching

/-!
# Collision-resistant ids and their pattern

A string is checked to be a collision-resistant id character by character, and a document asks for
the same by a pattern. Both want eight or more characters behind a `c` that are neither white space
nor a hyphen, but the check takes a `C` as well. They agree on every string that does not begin with
a `C` (`Format.isCuid_eq_isFoundIn_iff`).
-/

namespace DocumentModel

/-- Eight or more characters, none of them white space or a hyphen. -/
def CuidBody (body : List Char) : Prop :=
  8 ≤ body.length ∧ ∀ c ∈ body, Text.isBlank c = false ∧ c ≠ '-'

namespace Format

/-- The check asks for a letter in either case and a body. -/
theorem isCuid_iff {s : String} : isCuid s = true ↔
    ∃ first body, s.toList = first :: body ∧ (first = 'c' ∨ first = 'C') ∧ CuidBody body := by
  rw [isCuid]
  cases s.toList with
  | nil => simp
  | cons first body => simp [CuidBody, and_assoc]

end Format

/-! ## The pattern -/

namespace FormatPattern

open Pattern Pattern.Expression

/-- The characters that the pattern takes behind the first one. -/
def cuidSet : Text.CharRanges :=
  CharSet.complement (CharSet.ofList (spaceRanges.toList ++ [('-'.toNat, '-'.toNat)]))

theorem has_cuidSet_iff {c : Char} :
    cuidSet.has c.toNat = true ↔ Text.isBlank c = false ∧ c ≠ '-' := by
  have hranges : ∀ r ∈ spaceRanges.toList ++ [('-'.toNat, '-'.toNat)], r.1 ≤ r.2 := by decide
  rw [cuidSet, CharSet.has_complement (CharSet.ascending_ofList hranges) (CharSet.toNat_le_last c),
    Bool.not_eq_true', ← Bool.not_eq_true, CharSet.has_ofList_iff hranges,
    Text.CharRanges.covers_append, covers_spaceRanges_iff, not_or, Bool.not_eq_true]
  refine and_congr_right fun _ => not_congr ?_
  rw [← Char.toNat_inj]
  simp
  omega

def cuidExpression : Expression :=
  .seq (.look .startText)
    (literals ['c'] (.seq (.repeated (.chars cuidSet) 8 none) (.look .endText)))

/-- **The pattern asks for the small letter**, and for the same body. -/
theorem finds_cuidExpression_iff (cs : List Char) :
    cuidExpression.finds cs = true ↔ ∃ body, cs = 'c' :: body ∧ CuidBody body := by
  have hfeasible : cuidExpression.Feasible :=
    ⟨trivial, feasible_literals ⟨⟨nofun, trivial⟩, trivial⟩⟩
  rw [finds_iff hfeasible]
  simp only [cuidExpression, matches_startText_seq_iff, matches_literals_iff,
    matches_seq_endText_iff, matches_repeated_chars_iff, has_cuidSet_iff]
  constructor
  · rintro ⟨_, _, _, rfl, rfl, body, rfl, rfl, hbody⟩
    exact ⟨body, by simp, hbody⟩
  · rintro ⟨body, rfl, hbody⟩
    exact ⟨[], 'c' :: body, [], by simp, rfl, body, rfl, rfl, hbody⟩

set_option maxRecDepth 4000 in
theorem readTerm?_cuid : readTerm? cuid = some (.concat [.assertion .startLine,
    .literal ⟨'c', false⟩, .repetition (.charClass (.bracketed true (.union [.letter .space false,
      .range ⟨'-', false⟩ ⟨'-', false⟩]))) 8 none, .assertion .endLine]) := by
  with_unfolding_all rfl

theorem cuidSet_eq : cuidSet = #[(0, 8), (14, 31), (33, 44), (46, 132), (134, 159), (161, 5759),
    (5761, 8191), (8203, 8231), (8234, 8238), (8240, 8286), (8288, 12287), (12289, 1114111)] := by
  have h : CharSet.ofList (spaceRanges.toList ++ [('-'.toNat, '-'.toNat)])
      = #[(9, 13), (32, 32), (45, 45), (133, 133), (160, 160), (5760, 5760), (8192, 8202),
        (8232, 8233), (8239, 8239), (8287, 8287), (12288, 12288)] := by
    simp [CharSet.ofList, CharSet.merge, CharSet.mergeFrom, List.mergeSort,
      List.MergeSort.Internal.splitInTwo, spaceRanges]
  rw [cuidSet, h]
  decide

/-- The pattern is well formed and not too large. -/
theorem compile?_cuid : compile? cuid = some ⟨cuid, cuidExpression⟩ := by
  have hsize : stateSize + (setFootprint #[('c'.toNat, 'c'.toNat)]
      + (repetitionFootprint (setFootprint cuidSet) 8 none + (stateSize + 0))) ≤ sizeLimit := by
    rw [cuidSet_eq]
    decide +kernel
  rw [compile?, readTerm?_cuid]
  exact if_pos hsize

end FormatPattern

/-! ## Agreement -/

namespace Format

/-- **The check and the pattern agree on every string but those that pass only with a `C` in
front.** -/
theorem isCuid_eq_isFoundIn_iff (s : String) : ∃ pattern,
    StringCheck.cuid.pattern?.bind Pattern.compile? = some pattern
      ∧ (pattern.isFoundIn s = true ↔ ∃ body, s.toList = 'c' :: body ∧ CuidBody body)
      ∧ (isCuid s = true ↔
        ∃ first body, s.toList = first :: body ∧ (first = 'c' ∨ first = 'C') ∧ CuidBody body)
      ∧ (isCuid s = pattern.isFoundIn s ↔ ¬ ∃ body, s.toList = 'C' :: body ∧ CuidBody body) := by
  have hfound := FormatPattern.finds_cuidExpression_iff s.toList
  refine ⟨_, FormatPattern.compile?_cuid, hfound, isCuid_iff, ?_⟩
  rw [Bool.eq_iff_iff, isCuid_iff]
  refine (iff_congr Iff.rfl hfound).trans ?_
  constructor
  · rintro h ⟨body, hs, hbody⟩
    obtain ⟨body', hs', -⟩ := h.mp ⟨_, body, hs, Or.inr rfl, hbody⟩
    exact absurd (hs.symm.trans hs') (by simp)
  · intro h
    constructor
    · rintro ⟨first, body, hs, rfl | rfl, hbody⟩
      · exact ⟨body, hs, hbody⟩
      · exact absurd ⟨body, hs, hbody⟩ h
    · rintro ⟨body, hs, hbody⟩
      exact ⟨_, body, hs, Or.inl rfl, hbody⟩

/-- An id with a `C` in front passes the check and is refused by the pattern. -/
theorem isCuid_and_not_found_upper : isCuid "C12345678" = true ∧ ∃ pattern,
    StringCheck.cuid.pattern?.bind Pattern.compile? = some pattern
      ∧ pattern.isFoundIn "C12345678" = false := by
  refine ⟨by decide, _, FormatPattern.compile?_cuid, ?_⟩
  rw [← Bool.not_eq_true]
  intro hfound
  obtain ⟨body, hs, -⟩ := (FormatPattern.finds_cuidExpression_iff _).mp hfound
  exact absurd hs (by simp)

end Format

end DocumentModel
