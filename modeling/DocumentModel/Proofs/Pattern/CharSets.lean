import DocumentModel.Pattern.Property
import DocumentModel.Proofs.Text.Ranges

/-!
# Operations on sets of characters

Each operation keeps the ranges ascending and has the members its name says: what a list of ranges
covers is in the set made of it (`CharSet.has_ofList_iff`), and up to the last code point a
complement has what the set has not (`CharSet.has_complement`). The characters of words below the
letters of other scripts are those of ASCII (`has_wordRanges_iff_of_lt`).
-/

namespace DocumentModel

namespace Pattern

open Text (CharRanges)
open Text.CharRanges (Covers Ascending covers_cons covers_append)

namespace CharSet

variable {position n : Nat} {range : Nat × Nat} {list : List (Nat × Nat)} {a b : CharRanges}

/-! ## Union -/

/-- Ranges in the order of their first points. -/
def Sorted (list : List (Nat × Nat)) : Prop := list.Pairwise fun r s => r.1 ≤ s.1

/-- A range may take in the one after it if it reaches up to it. -/
theorem Sorted.take_in {next : Nat × Nat} (h : Sorted (range :: next :: list)) {final : Nat} :
    Sorted ((range.1, final) :: list) := by
  have h := List.pairwise_cons.mp h
  exact List.Pairwise.cons (fun r hr => h.1 r (List.mem_cons_of_mem _ hr))
    (List.Pairwise.of_cons h.2)

/-- Taking in the ranges that overlap or touch changes nothing about what is covered. -/
theorem covers_mergeFrom (h : Sorted (range :: list)) :
    Covers (mergeFrom range list) n ↔ Covers (range :: list) n := by
  fun_induction mergeFrom range list with
  | case1 => rfl
  | case2 range next rest hle ih =>
    have hnext : range.1 ≤ next.1 := List.rel_of_pairwise_cons h List.mem_cons_self
    have hmax : range.2.max next.2 = max range.2 next.2 := rfl
    rw [ih h.take_in]
    simp only [covers_cons, ← or_assoc, hmax]
    refine or_congr_left ?_
    omega
  | case3 range next rest hlt ih => rw [covers_cons, ih (List.Pairwise.of_cons h), ← covers_cons]

example : merge [(0x61, 0x7A), (0x62, 0x63), (0x6D, 0x6E)] = [(0x61, 0x7A)] := by decide

/-- Ranges that are merged in the order of their first points ascend. -/
theorem ascending_mergeFrom (hsorted : Sorted (range :: list))
    (h : ∀ r ∈ range :: list, r.1 ≤ r.2) : Ascending range.1 (mergeFrom range list) := by
  fun_induction mergeFrom range list with
  | case1 range => exact ⟨Nat.le_refl _, h range List.mem_cons_self, trivial⟩
  | case2 range next rest hle ih =>
    obtain ⟨hrange, -, hrest⟩ : range.1 ≤ range.2 ∧ next.1 ≤ next.2 ∧ ∀ r ∈ rest, r.1 ≤ r.2 := by
      simpa using h
    exact ih hsorted.take_in
      (List.forall_mem_cons.mpr ⟨Nat.le_trans hrange (Nat.le_max_left ..), hrest⟩)
  | case3 range next rest hlt ih =>
    refine ⟨Nat.le_refl _, h range List.mem_cons_self, ?_⟩
    exact (ih (List.Pairwise.of_cons hsorted) (List.forall_mem_cons.mp h).2).mono (by omega)

theorem sorted_mergeSort (list : List (Nat × Nat)) :
    Sorted (list.mergeSort fun a b => a.1 ≤ b.1) := by
  have h : (list.mergeSort fun a b => a.1 ≤ b.1).Pairwise fun a b => decide (a.1 ≤ b.1) = true :=
    List.pairwise_mergeSort (fun a b c => by simpa using Nat.le_trans)
      (fun a b => by simpa using Nat.le_total _ _) list
  exact h.imp of_decide_eq_true

/-- Ranges that are not empty make a set of ascending ranges. -/
theorem ascending_ofList (h : ∀ r ∈ list, r.1 ≤ r.2) : Ascending 0 (ofList list).toList := by
  have hsorted := sorted_mergeSort list
  have hmem : ∀ r ∈ list.mergeSort fun a b => a.1 ≤ b.1, r.1 ≤ r.2 := fun r hr =>
    h r (List.mem_mergeSort.mp hr)
  simp only [ofList]
  cases hlist : list.mergeSort fun a b => a.1 ≤ b.1 with
  | nil => trivial
  | cons range rest =>
    rw [hlist] at hsorted hmem
    exact (ascending_mergeFrom hsorted hmem).mono (Nat.zero_le _)

/-- The ranges of a set cover what the list covers. -/
theorem covers_ofList : Covers (ofList list).toList n ↔ Covers list n := by
  have hsorted := sorted_mergeSort list
  rw [← Text.CharRanges.covers_congr (List.mergeSort_perm list fun a b => a.1 ≤ b.1)]
  simp only [ofList]
  cases hlist : list.mergeSort fun a b => a.1 ≤ b.1 with
  | nil => rfl
  | cons range rest =>
    rw [hlist] at hsorted
    exact covers_mergeFrom hsorted

/-- **The set made of a list of ranges has what a range of the list holds.** -/
theorem has_ofList_iff (h : ∀ r ∈ list, r.1 ≤ r.2) :
    (ofList list).has n = true ↔ Covers list n := by
  rw [Text.CharRanges.has_iff (ascending_ofList h), covers_ofList]

/-! ## Complement -/

theorem toNat_le_last (c : Char) : c.toNat ≤ last := by
  have h : c.toNat.isValidChar := c.valid
  rw [last]
  unfold Nat.isValidChar at h
  omega

theorem ascending_gaps (h : Ascending position list) : Ascending position (gaps position list) := by
  induction list generalizing position with
  | nil =>
    rw [gaps]
    split
    · exact ⟨Nat.le_refl _, ‹_›, trivial⟩
    · trivial
  | cons range list ih =>
    obtain ⟨hfirst, hfinal, hrest⟩ := h
    rw [gaps]
    split
    · exact ⟨Nat.le_refl _, by omega, (ih hrest).mono (by omega)⟩
    · exact (ih hrest).mono (by omega)

/-- Between ascending ranges lies what they leave out. -/
theorem covers_gaps (h : Ascending position list) (hn : n ≤ last) :
    Covers (gaps position list) n ↔ position ≤ n ∧ ¬ Covers list n := by
  induction list generalizing position with
  | nil =>
    rw [gaps]
    split
    · simp [hn]
    · simp
      omega
  | cons range list ih =>
    obtain ⟨hfirst, hfinal, hrest⟩ := h
    -- what the later ranges hold lies behind this one
    have hlater : Covers list n → range.2 + 1 ≤ n := hrest.le_of_covers
    rw [gaps]
    split
    · rw [covers_cons, ih hrest, covers_cons]
      grind
    · rw [ih hrest, covers_cons]
      grind

theorem ascending_complement (h : Ascending 0 a.toList) : Ascending 0 (complement a).toList :=
  ascending_gaps h

/-- **A complement has what the set has not.** -/
theorem has_complement (h : Ascending 0 a.toList) (hn : n ≤ last) :
    (complement a).has n = !a.has n := by
  rw [Bool.eq_iff_iff, Bool.not_eq_true', ← Bool.not_eq_true,
    Text.CharRanges.has_iff (ascending_complement h), Text.CharRanges.has_iff h]
  exact (covers_gaps h hn).trans (by simp)

/-! ## The other operations -/

theorem nonempty_of_ascending (ha : Ascending 0 a.toList) (hb : Ascending 0 b.toList) :
    ∀ r ∈ a.toList ++ b.toList, r.1 ≤ r.2 := fun _ hr =>
  (List.mem_append.mp hr).elim (fun hr => (ha.bounds hr).2) (fun hr => (hb.bounds hr).2)

theorem ascending_union (ha : Ascending 0 a.toList) (hb : Ascending 0 b.toList) :
    Ascending 0 (union a b).toList :=
  ascending_ofList (nonempty_of_ascending ha hb)

/-- The union has what one of the sets has. -/
theorem has_union (ha : Ascending 0 a.toList) (hb : Ascending 0 b.toList) :
    (union a b).has n = (a.has n || b.has n) := by
  rw [Bool.eq_iff_iff, Bool.or_eq_true, Text.CharRanges.has_iff ha, Text.CharRanges.has_iff hb,
    union, has_ofList_iff (nonempty_of_ascending ha hb), covers_append]

theorem ascending_inter (ha : Ascending 0 a.toList) (hb : Ascending 0 b.toList) :
    Ascending 0 (inter a b).toList :=
  ascending_complement (ascending_union (ascending_complement ha) (ascending_complement hb))

/-- The intersection has what both have. -/
theorem has_inter (ha : Ascending 0 a.toList) (hb : Ascending 0 b.toList) (hn : n ≤ last) :
    (inter a b).has n = (a.has n && b.has n) := by
  have ha' := ascending_complement ha
  have hb' := ascending_complement hb
  rw [inter, has_complement (ascending_union ha' hb') hn, has_union ha' hb', has_complement ha hn,
    has_complement hb hn]
  simp

theorem ascending_diff (ha : Ascending 0 a.toList) (hb : Ascending 0 b.toList) :
    Ascending 0 (diff a b).toList :=
  ascending_inter ha (ascending_complement hb)

/-- The difference has what the first set has and the second one has not. -/
theorem has_diff (ha : Ascending 0 a.toList) (hb : Ascending 0 b.toList) (hn : n ≤ last) :
    (diff a b).has n = (a.has n && !b.has n) := by
  rw [diff, has_inter ha (ascending_complement hb) hn, has_complement hb hn]

theorem has_symmDiff (ha : Ascending 0 a.toList) (hb : Ascending 0 b.toList) (hn : n ≤ last) :
    (symmDiff a b).has n = (a.has n != b.has n) := by
  rw [symmDiff, has_union (ascending_diff ha hb) (ascending_diff hb ha), has_diff ha hb hn,
    has_diff hb ha hn]
  cases a.has n <;> cases b.has n <;> rfl

end CharSet

/-! ## White space -/

/-- **The class of white space has what trimming drops.** -/
theorem covers_spaceRanges_iff {c : Char} :
    Covers spaceRanges.toList c.toNat ↔ Text.isBlank c = true := by
  simp [spaceRanges, Text.isBlank]
  omega

/-! ## The characters of words -/

/-- Digits, letters and the underscore come first among the characters of words. -/
theorem exists_wordRanges_eq : ∃ numbers, wordRanges.toList
    = (0x30, 0x39) :: (0x41, 0x5A) :: (0x5F, 0x5F) :: (0x61, 0x7A)
      :: CharRanges.ofGaps 0x7B numbers := by
  have hfront : ∀ front rest : String, "xg97p401p".toList <+: front.toList →
      ∃ text, CharRanges.decode (front ++ rest) = CharRanges.decode ("xg97p401p" ++ text) := by
    rintro front rest ⟨more, hmore⟩
    refine ⟨String.ofList more ++ rest, congrArg _ (String.toList_inj.mp ?_)⟩
    simp [← hmore]
  obtain ⟨text, htext⟩ : ∃ text, wordRanges = CharRanges.decode ("xg97p401p" ++ text) := by
    rw [wordRanges]
    simp only [String.append_assoc]
    exact hfront _ _ (by decide)
  have hread : "xg97p401p".toList.foldl CharRanges.readDigit (#[], 0)
      = ([48, 9, 7, 25, 4, 0, 1, 25].toArray, 0) := by decide
  refine ⟨(CharRanges.numbers text).toList, ?_⟩
  rw [htext, CharRanges.decode_append hread]
  rfl

/-- **Below the letters of other scripts the characters of words are those of ASCII.** -/
theorem has_wordRanges_iff_of_lt {n : Nat} (hn : n < 0x7B) :
    wordRanges.has n = true ↔ Covers LetterClass.word.asciiRanges.toList n := by
  obtain ⟨numbers, hlist⟩ := exists_wordRanges_eq
  -- the set itself is not to be computed
  generalize wordRanges = set at hlist ⊢
  have hgaps : Ascending 0x7B (CharRanges.ofGaps 0x7B numbers) :=
    CharRanges.ascending_ofGaps numbers
  have hset : Ascending 0 set.toList := by
    rw [hlist]
    simp [Ascending, hgaps]
  have hlater : ¬ Covers (CharRanges.ofGaps 0x7B numbers) n := fun h =>
    Nat.not_lt.mpr (hgaps.le_of_covers h) hn
  rw [CharRanges.has_iff hset, hlist]
  simp [hlater, LetterClass.asciiRanges]

end Pattern

end DocumentModel
