import Mathlib.Data.List.Basic
import Mathlib.Data.Option.Basic
import Mathlib.Order.Nat
import Mathlib.Tactic.Tauto
import DocumentModel.Pattern.Match
import DocumentModel.Proofs.Text.Ranges

/-!
# What patterns match

`Expression.Matches` says which part of a text an expression matches, by the form of the expression:
the text in front of the part, the part, and the text after it. Matching goes through a text
once and keeps what may still follow. It finds exactly the texts of which some part is matched
(`Expression.finds_iff`); this needs no more than counts of repetitions that can be met.
-/

namespace DocumentModel

namespace Pattern

/-- The place between two texts. -/
def Place.between (before after : List Char) : Place := ⟨before.getLast?, after.head?⟩

/-! ## Parts that are matched -/

/-- Several rounds, one after the other. -/
def Rounds (round : List Char → List Char → List Char → Prop) :
    Nat → List Char → List Char → List Char → Prop
  | 0, _, read, _ => read = []
  | n + 1, before, read, after => ∃ first rest, read = first ++ rest
      ∧ round before first (rest ++ after) ∧ Rounds round n (before ++ first) rest after

namespace Expression

/-- The expression matches a part of a text between the text before it and the text after it. -/
def Matches : Expression → List Char → List Char → List Char → Prop
  | .empty, _, read, _ => read = []
  | .chars set, _, read, _ => ∃ c, read = [c] ∧ set.has c.toNat = true
  | .look test, before, read, after =>
    read = [] ∧ (Place.between before after).holds test = true
  | .seq a b, before, read, after => ∃ first rest, read = first ++ rest
      ∧ a.Matches before first (rest ++ after) ∧ b.Matches (before ++ first) rest after
  | .choice a b, before, read, after =>
    a.Matches before read after ∨ b.Matches before read after
  | .repeated inner least most, before, read, after => ∃ n, least ≤ n ∧ (∀ m ∈ most, n ≤ m)
      ∧ Rounds inner.Matches n before read after

/-- A match of which none begins further to the left. -/
structure LeftmostMatch (e : Expression) (text before read after : List Char) : Prop where
  text_eq : text = before ++ read ++ after
  reads : e.Matches before read after
  leftmost : ∀ before' read' after', text = before' ++ read' ++ after' →
    e.Matches before' read' after' → before.length ≤ before'.length

/-- Every repetition has a count that it can meet. -/
def Feasible : Expression → Prop
  | .empty | .chars _ | .look _ => True
  | .seq a b | .choice a b => a.Feasible ∧ b.Feasible
  | .repeated inner least most => (∀ m ∈ most, least ≤ m) ∧ inner.Feasible

end Expression

/-- The expressions of a row match a part of a text one after the other. -/
def RowMatches : List Expression → List Char → List Char → List Char → Prop
  | [], _, read, _ => read = []
  | e :: row, before, read, after => ∃ first rest, read = first ++ rest
      ∧ e.Matches before first (rest ++ after) ∧ RowMatches row (before ++ first) rest after

variable {round : List Char → List Char → List Char → Prop} {n : Nat} {c : Char}
  {e : Expression} {row others : List Expression} {before read after : List Char}

theorem rowMatches_singleton :
    RowMatches [e] before read after ↔ e.Matches before read after := by
  simp [RowMatches]

theorem rowMatches_append :
    RowMatches (row ++ others) before read after ↔ ∃ first rest, read = first ++ rest
      ∧ RowMatches row before first (rest ++ after)
      ∧ RowMatches others (before ++ first) rest after := by
  induction row generalizing before read with
  | nil => simp [RowMatches]
  | cons e row ih =>
    simp only [List.cons_append, RowMatches, ih]
    constructor
    · rintro ⟨u, _, rfl, he, v, w, rfl, hrow, hothers⟩
      exact ⟨u ++ v, w, (List.append_assoc ..).symm, ⟨u, v, rfl, by rwa [List.append_assoc] at he,
        hrow⟩, by rwa [List.append_assoc] at hothers⟩
    · rintro ⟨_, w, rfl, ⟨u, v, rfl, he, hrow⟩, hothers⟩
      exact ⟨u, v ++ w, List.append_assoc .., by rwa [List.append_assoc], v, w, rfl, hrow,
        by rwa [List.append_assoc]⟩

/-! ## Nothing at all -/

/-- Rounds over nothing are no rounds, or rounds over nothing each. -/
theorem rounds_nil_iff : Rounds round n before [] after ↔ n = 0 ∨ round before [] after := by
  induction n with
  | zero => simp [Rounds]
  | succ n ih =>
    have hsplit : Rounds round (n + 1) before [] after
        ↔ round before [] after ∧ Rounds round n before [] after := by
      simp [Rounds, and_assoc]
    rw [hsplit, ih]
    simp
    tauto

namespace Expression

/-- **What is accepted without reading is what matches nothing at all.** -/
theorem matches_nil_iff (h : e.Feasible) :
    e.Matches before [] after ↔ e.accepts (Place.between before after) = true := by
  induction e generalizing before after with
  | empty => simp [Matches, accepts]
  | chars set => simp [Matches, accepts]
  | look test => simp [Matches, accepts]
  | seq a b iha ihb =>
    rw [accepts, Bool.and_eq_true, ← iha h.1, ← ihb h.2]
    simp [Matches, and_assoc]
  | choice a b iha ihb => rw [accepts, Bool.or_eq_true, ← iha h.1, ← ihb h.2, Matches]
  | repeated inner least most ih =>
    rw [accepts, Bool.or_eq_true, ← ih h.2, beq_iff_eq]
    simp only [Matches, rounds_nil_iff]
    constructor
    · rintro ⟨n, hleast, -, rfl | hinner⟩
      · exact Or.inl (Nat.le_zero.mp hleast)
      · exact Or.inr hinner
    · rintro (rfl | hinner)
      · exact ⟨0, le_rfl, fun m _ => Nat.zero_le m, Or.inl rfl⟩
      · exact ⟨least, le_rfl, h.1, Or.inr hinner⟩

end Expression

/-! ## One character -/

theorem cons_eq_append_iff {first rest : List Char} : c :: read = first ++ rest ↔
    first = [] ∧ rest = c :: read ∨ ∃ more, first = c :: more ∧ read = more ++ rest := by
  cases first with
  | nil => simp [eq_comm]
  | cons d more =>
    simp only [List.cons_append, List.cons.injEq, List.cons_ne_nil, false_and, false_or]
    constructor
    · rintro ⟨rfl, h⟩
      exact ⟨more, ⟨rfl, rfl⟩, h⟩
    · rintro ⟨_, ⟨rfl, rfl⟩, h⟩
      exact ⟨rfl, h⟩

/-- Of rounds that read something, the first ones may read nothing. -/
theorem rounds_cons_iff : Rounds round n before (c :: read) after ↔
    ∃ empty rest, n = empty + 1 + rest ∧ (empty = 0 ∨ round before [] (c :: read ++ after))
      ∧ ∃ more others, read = more ++ others ∧ round before (c :: more) (others ++ after)
        ∧ Rounds round rest (before ++ c :: more) others after := by
  induction n with
  | zero =>
    refine iff_of_false (by simp [Rounds]) ?_
    rintro ⟨empty, rest, h, -⟩
    omega
  | succ n ih =>
    constructor
    · rintro ⟨first, rest, hread, hfirst, hrest⟩
      rcases cons_eq_append_iff.mp hread with ⟨rfl, rfl⟩ | ⟨more, rfl, rfl⟩
      · rw [List.append_nil, ih] at hrest
        obtain ⟨empty, later, rfl, -, h⟩ := hrest
        exact ⟨empty + 1, later, by omega, Or.inr hfirst, h⟩
      · exact ⟨0, n, by omega, Or.inl rfl, more, rest, rfl, hfirst, hrest⟩
    · rintro ⟨empty, later, hn, hempty, h⟩
      cases empty with
      | zero =>
        obtain ⟨more, others, rfl, hfirst, hrest⟩ := h
        obtain rfl : n = later := by omega
        exact ⟨c :: more, others, rfl, hfirst, hrest⟩
      | succ empty =>
        have hnil := hempty.resolve_left (Nat.succ_ne_zero empty)
        refine ⟨[], c :: read, rfl, hnil, ?_⟩
        rw [List.append_nil, ih]
        exact ⟨empty, later, by omega, Or.inr hnil, h⟩

namespace Expression

theorem feasible_of_mem_residuals {p : Place} (h : e.Feasible) {row : List Expression}
    (hrow : row ∈ e.residuals p c) : ∀ x ∈ row, x.Feasible := by
  induction e generalizing row with
  | empty | look => simp [residuals] at hrow
  | chars set =>
    simp only [residuals] at hrow
    split at hrow
    · obtain rfl := List.mem_singleton.mp hrow
      exact nofun
    · cases hrow
  | seq a b iha ihb =>
    simp only [residuals, List.mem_append, List.mem_map] at hrow
    rcases hrow with ⟨first, hfirst, rfl⟩ | hrow
    · intro x hx
      rcases List.mem_append.mp hx with hx | hx
      · exact iha h.1 hfirst x hx
      · exact List.mem_singleton.mp hx ▸ h.2
    · split at hrow
      · exact ihb h.2 hrow
      · cases hrow
  | choice a b iha ihb =>
    rcases List.mem_append.mp hrow with hrow | hrow
    · exact iha h.1 hrow
    · exact ihb h.2 hrow
  | repeated inner least most ih =>
    simp only [residuals, List.mem_flatMap, List.mem_map] at hrow
    obtain ⟨n, -, first, hfirst, rfl⟩ := hrow
    intro x hx
    rcases List.mem_append.mp hx with hx | hx
    · exact ih h.2 hfirst x hx
    · obtain rfl := List.mem_singleton.mp hx
      refine ⟨fun m hm => ?_, h.2⟩
      obtain ⟨most, hmost, rfl⟩ := Option.mem_map.mp hm
      exact Nat.sub_le_sub_right (h.1 most hmost) n

/-- The rounds that a repetition may spend up to the first one that reads something. -/
theorem mem_allowed_iff {least m : Nat} {most : Option Nat} {nothing : Bool} :
    m ∈ ((List.range ((if nothing then least - 1 else 0) + 1)).map (· + 1)).filter
        (fun n => most.all (n ≤ ·))
      ↔ 1 ≤ m ∧ (m = 1 ∨ nothing = true ∧ m ≤ least) ∧ ∀ k ∈ most, m ≤ k := by
  simp only [List.mem_filter, List.mem_map, List.mem_range, Option.all_eq_true,
    decide_eq_true_eq]
  refine ⟨?_, ?_⟩
  · rintro ⟨⟨k, hk, rfl⟩, hmost⟩
    refine ⟨by omega, ?_, hmost⟩
    cases nothing <;> simp at hk ⊢ <;> omega
  · rintro ⟨hone, hm, hmost⟩
    refine ⟨⟨m - 1, ?_, by omega⟩, hmost⟩
    cases nothing <;> simp at hm ⊢ <;> omega

/-- A row reads its first character in the first expression, or beyond it if that accepts
nothing. -/
theorem rowMatches_cons_of_cons {rows : List (List Expression)} (h : e.Feasible)
    (he : ∀ read after, e.Matches before (c :: read) after ↔
      ∃ first ∈ e.residuals ⟨before.getLast?, some c⟩ c,
        RowMatches first (before ++ [c]) read after)
    (hrow : RowMatches row before (c :: read) after ↔
      ∃ others ∈ rows, RowMatches others (before ++ [c]) read after) :
    RowMatches (e :: row) before (c :: read) after ↔
      ∃ others ∈ (e.residuals ⟨before.getLast?, some c⟩ c).map (· ++ row)
          ++ (if e.accepts ⟨before.getLast?, some c⟩ then rows else []),
        RowMatches others (before ++ [c]) read after := by
  have hnothing : e.Matches before [] (c :: read ++ after)
      ↔ e.accepts ⟨before.getLast?, some c⟩ = true := matches_nil_iff h
  constructor
  · rintro ⟨first, rest, hread, hfirst, hrest⟩
    rcases cons_eq_append_iff.mp hread with ⟨rfl, rfl⟩ | ⟨more, rfl, rfl⟩
    · rw [List.append_nil, hrow] at hrest
      obtain ⟨others, hothers, hmatches⟩ := hrest
      refine ⟨others, List.mem_append_right _ ?_, hmatches⟩
      rwa [if_pos (hnothing.mp hfirst)]
    · obtain ⟨others, hothers, hmatches⟩ := (he _ _).mp hfirst
      refine ⟨others ++ row, List.mem_append_left _ (List.mem_map_of_mem hothers), ?_⟩
      rw [rowMatches_append]
      refine ⟨more, rest, rfl, hmatches, ?_⟩
      rwa [List.append_assoc]
  · rintro ⟨others, hothers, hmatches⟩
    rcases List.mem_append.mp hothers with hothers | hothers
    · obtain ⟨first, hfirst, rfl⟩ := List.mem_map.mp hothers
      obtain ⟨more, rest, rfl, hmatches, hrest⟩ := rowMatches_append.mp hmatches
      rw [List.append_assoc] at hrest
      exact ⟨c :: more, rest, rfl, (he _ _).mpr ⟨first, hfirst, hmatches⟩, hrest⟩
    · split at hothers
      · next haccepts =>
        refine ⟨[], c :: read, rfl, hnothing.mpr haccepts, ?_⟩
        rw [List.append_nil]
        exact hrow.mpr ⟨others, hothers, hmatches⟩
      · cases hothers

/-- A repetition reads a first character in a round that may come after rounds over nothing. Of
these no more count than are asked for. -/
theorem matches_repeated_cons_iff {least : Nat} {most : Option Nat} :
    (repeated e least most).Matches before (c :: read) after ↔ ∃ m,
      (1 ≤ m ∧ (m = 1 ∨ e.Matches before [] (c :: read ++ after) ∧ m ≤ least) ∧ ∀ k ∈ most, m ≤ k)
        ∧ ∃ more others, read = more ++ others ∧ e.Matches before (c :: more) (others ++ after)
          ∧ (remaining e least most m).Matches (before ++ c :: more) others after := by
  simp only [remaining, Matches, rounds_cons_iff]
  constructor
  · rintro ⟨_, hleast, hmost, empty, rest, rfl, hempty, more, others, hread, he, hrest⟩
    obtain ⟨m, hone, hle, hm, hrest'⟩ : ∃ m, 1 ≤ m ∧ m ≤ empty + 1
        ∧ (m = 1 ∨ empty ≠ 0 ∧ m ≤ least) ∧ least - m ≤ rest :=
      ⟨min (empty + 1) (max least 1), by omega, by omega, by omega, by omega⟩
    refine ⟨m, ⟨hone, hm.imp_right fun hm => ⟨hempty.resolve_left hm.1, hm.2⟩, fun k hk => ?_⟩,
      more, others, hread, he, rest, hrest', fun k hk => ?_, hrest⟩
    · have := hmost k hk
      omega
    · obtain ⟨limit, hlimit, rfl⟩ := Option.mem_map.mp hk
      have := hmost limit hlimit
      omega
  · rintro ⟨m, ⟨hone, hm, hmost⟩, more, others, hread, he, rest, hleast, hmost', hrest⟩
    refine ⟨m - 1 + 1 + rest, by omega, fun k hk => ?_, m - 1, rest, rfl, ?_, more, others, hread,
      he, hrest⟩
    · have := hmost k hk
      have := hmost' (k - m) (Option.mem_map_of_mem _ hk)
      omega
    · exact hm.imp (by omega) And.left

/-- **What is left of an expression after a character matches the rest.** -/
theorem matches_cons_iff (h : e.Feasible) : e.Matches before (c :: read) after ↔
    ∃ row ∈ e.residuals ⟨before.getLast?, some c⟩ c,
      RowMatches row (before ++ [c]) read after := by
  induction e generalizing read after with
  | empty => simp [Matches, residuals]
  | look test => simp [Matches, residuals]
  | chars set =>
    by_cases hc : set.has c.toNat = true <;> simp [Matches, residuals, RowMatches, hc]
  | choice a b iha ihb =>
    simp only [Matches, residuals, List.mem_append, or_and_right, exists_or, iha h.1, ihb h.2]
  | seq a b iha ihb =>
    have hrow : (seq a b).Matches before (c :: read) after
        ↔ RowMatches [a, b] before (c :: read) after := by
      simp [Matches, RowMatches]
    rw [hrow, residuals]
    refine rowMatches_cons_of_cons h.1 (fun _ _ => iha h.1) ?_
    rw [rowMatches_singleton, ihb h.2]
  | repeated inner least most ih =>
    have hnothing : inner.Matches before [] (c :: read ++ after)
        ↔ inner.accepts ⟨before.getLast?, some c⟩ = true := matches_nil_iff h.2
    have hrow : ∀ m, (∃ row ∈ inner.residuals ⟨before.getLast?, some c⟩ c,
          RowMatches (row ++ [remaining inner least most m]) (before ++ [c]) read after)
        ↔ ∃ more others, read = more ++ others ∧ inner.Matches before (c :: more) (others ++ after)
          ∧ (remaining inner least most m).Matches (before ++ c :: more) others after := by
      intro m
      simp only [rowMatches_append, rowMatches_singleton, ih h.2, List.append_assoc,
        List.singleton_append]
      constructor
      · rintro ⟨row, hrow, more, others, hread, hmatches, hlater⟩
        exact ⟨more, others, hread, ⟨row, hrow, hmatches⟩, hlater⟩
      · rintro ⟨more, others, hread, ⟨row, hrow, hmatches⟩, hlater⟩
        exact ⟨row, hrow, more, others, hread, hmatches, hlater⟩
    rw [matches_repeated_cons_iff]
    simp only [residuals, List.mem_flatMap, List.mem_map, ← hrow, hnothing, ← mem_allowed_iff]
    constructor
    · rintro ⟨m, hm, row, hrow, hmatches⟩
      exact ⟨_, ⟨m, hm, row, hrow, rfl⟩, hmatches⟩
    · rintro ⟨_, ⟨m, hm, row, hrow, rfl⟩, hmatches⟩
      exact ⟨m, hm, row, hrow, hmatches⟩

end Expression

/-! ## Rows -/

theorem rowMatches_nil_iff (h : ∀ x ∈ row, x.Feasible) :
    RowMatches row before [] after ↔ rowAccepts (Place.between before after) row = true := by
  rw [rowAccepts]
  induction row generalizing before with
  | nil => simp [RowMatches]
  | cons e row ih =>
    obtain ⟨he, hrow⟩ := List.forall_mem_cons.mp h
    rw [List.all_cons, Bool.and_eq_true, ← Expression.matches_nil_iff he, ← ih hrow]
    simp [RowMatches, and_assoc]

theorem feasible_of_mem_rowResiduals {p : Place} (h : ∀ x ∈ row, x.Feasible)
    (hothers : others ∈ rowResiduals p c row) : ∀ x ∈ others, x.Feasible := by
  induction row with
  | nil => cases hothers
  | cons e row ih =>
    obtain ⟨he, hrow⟩ := List.forall_mem_cons.mp h
    simp only [rowResiduals, List.mem_append, List.mem_map] at hothers
    rcases hothers with ⟨first, hfirst, rfl⟩ | hothers
    · intro x hx
      rcases List.mem_append.mp hx with hx | hx
      · exact Expression.feasible_of_mem_residuals he hfirst x hx
      · exact hrow x hx
    · split at hothers
      · exact ih hrow hothers
      · cases hothers

theorem rowMatches_cons_iff (h : ∀ x ∈ row, x.Feasible) :
    RowMatches row before (c :: read) after ↔
      ∃ others ∈ rowResiduals ⟨before.getLast?, some c⟩ c row,
        RowMatches others (before ++ [c]) read after := by
  induction row with
  | nil => simp [RowMatches, rowResiduals]
  | cons e row ih =>
    obtain ⟨he, hrow⟩ := List.forall_mem_cons.mp h
    exact Expression.rowMatches_cons_of_cons he (fun _ _ => Expression.matches_cons_iff he)
      (ih hrow)

/-! ## Whole texts -/

theorem mem_distinctRows_iff {rows : List (List Expression)} :
    row ∈ distinctRows rows ↔ row ∈ rows := by
  have hfold : ∀ kept : List (List Expression),
      row ∈ rows.foldl (fun kept row => if kept.contains row then kept else row :: kept) kept
        ↔ row ∈ kept ∨ row ∈ rows := by
    induction rows with
    | nil => simp
    | cons first rows ih =>
      intro kept
      rw [List.foldl_cons, ih, List.mem_cons]
      split
      · next h => rw [List.contains_iff_mem] at h; constructor <;> grind
      · simp [or_assoc, or_comm, or_left_comm]
  rw [distinctRows, List.mem_reverse, hfold]
  simp

/-- Beginnings of a text that rows match are read at once, or go on after its first character. -/
theorem exists_rowMatches_cons_iff {rows : List (List Expression)} {rest : List Char}
    (h : ∀ row ∈ rows, ∀ x ∈ row, x.Feasible) :
    (∃ row ∈ rows, ∃ read after, c :: rest = read ++ after ∧ RowMatches row before read after) ↔
      rows.any (rowAccepts ⟨before.getLast?, some c⟩) = true
        ∨ ∃ row ∈ distinctRows (rows.flatMap (rowResiduals ⟨before.getLast?, some c⟩ c)),
          ∃ read after, rest = read ++ after ∧ RowMatches row (before ++ [c]) read after := by
  simp only [List.any_eq_true, mem_distinctRows_iff, List.mem_flatMap]
  constructor
  · rintro ⟨row, hrow, read, after, hread, hmatches⟩
    rcases cons_eq_append_iff.mp hread with ⟨rfl, rfl⟩ | ⟨more, rfl, rfl⟩
    · exact Or.inl ⟨row, hrow, (rowMatches_nil_iff (h row hrow)).mp hmatches⟩
    · obtain ⟨others, hothers, hmatches⟩ := (rowMatches_cons_iff (h row hrow)).mp hmatches
      exact Or.inr ⟨others, ⟨row, hrow, hothers⟩, more, after, rfl, hmatches⟩
  · rintro (⟨row, hrow, haccepts⟩ | ⟨others, ⟨row, hrow, hothers⟩, read, after, rfl, hmatches⟩)
    · exact ⟨row, hrow, [], c :: rest, rfl, (rowMatches_nil_iff (h row hrow)).mpr haccepts⟩
    · exact ⟨row, hrow, c :: read, after, rfl,
        (rowMatches_cons_iff (h row hrow)).mpr ⟨others, hothers, hmatches⟩⟩

/-- A part that an expression matches begins at once or after the first character. -/
theorem exists_matches_cons_iff {rest : List Char} :
    (∃ skipped read after, c :: rest = skipped ++ read ++ after
        ∧ e.Matches (before ++ skipped) read after)
      ↔ (∃ read after, c :: rest = read ++ after ∧ e.Matches before read after)
        ∨ ∃ skipped read after, rest = skipped ++ read ++ after
          ∧ e.Matches (before ++ [c] ++ skipped) read after := by
  constructor
  · rintro ⟨skipped, read, after, heq, hmatches⟩
    rw [List.append_assoc] at heq
    rcases cons_eq_append_iff.mp heq with ⟨rfl, heq⟩ | ⟨more, rfl, rfl⟩
    · rw [List.append_nil] at hmatches
      exact Or.inl ⟨read, after, heq, hmatches⟩
    · exact Or.inr ⟨more, read, after, (List.append_assoc ..).symm, by simpa using hmatches⟩
  · rintro (⟨read, after, heq, hmatches⟩ | ⟨skipped, read, after, rfl, hmatches⟩)
    · exact ⟨[], read, after, heq, by simpa using hmatches⟩
    · exact ⟨c :: skipped, read, after, rfl, by simpa using hmatches⟩

/-- The rows match beginnings of what is left of a text, or the expression matches a later part. -/
theorem findsFrom_iff (h : e.Feasible) {rows : List (List Expression)}
    (hrows : ∀ row ∈ rows, ∀ x ∈ row, x.Feasible) (before rest : List Char) :
    findsFrom e before.getLast? rows rest = true ↔
      (∃ row ∈ rows, ∃ read after, rest = read ++ after ∧ RowMatches row before read after)
        ∨ ∃ skipped read after, rest = skipped ++ read ++ after
          ∧ e.Matches (before ++ skipped) read after := by
  induction rest generalizing before rows with
  | nil =>
    have hrow : ∀ row ∈ [e] :: rows, ∀ x ∈ row, x.Feasible := by
      simpa [h] using hrows
    have haccepts : ([e] :: rows).any (rowAccepts ⟨before.getLast?, none⟩) = true
        ↔ ∃ row ∈ [e] :: rows, RowMatches row before [] [] := by
      rw [List.any_eq_true]
      refine exists_congr fun row => and_congr_right fun hmem => ?_
      have hnil : RowMatches row before [] [] ↔ _ := rowMatches_nil_iff (hrow row hmem)
      exact hnil.symm
    rw [findsFrom, haccepts]
    simp [rowMatches_singleton, or_comm]
  | cons c rest ih =>
    have hrow : ∀ row ∈ [e] :: rows, ∀ x ∈ row, x.Feasible := by
      simpa [h] using hrows
    have hrows' : ∀ row ∈ distinctRows
        (([e] :: rows).flatMap (rowResiduals ⟨before.getLast?, some c⟩ c)),
      ∀ x ∈ row, x.Feasible := by
      intro row hmem
      obtain ⟨first, hfirst, hmem⟩ := List.mem_flatMap.mp (mem_distinctRows_iff.mp hmem)
      exact feasible_of_mem_rowResiduals (hrow first hfirst) hmem
    have hnext := ih hrows' (before ++ [c])
    rw [List.getLast?_concat] at hnext
    rw [findsFrom, Bool.or_eq_true, hnext, ← or_assoc, ← exists_rowMatches_cons_iff hrow,
      exists_matches_cons_iff]
    simp only [List.mem_cons, or_and_right, exists_or, exists_eq_left, rowMatches_singleton]
    rw [or_assoc, or_left_comm]

/-- **A text is found exactly if the expression matches some part of it.** -/
theorem Expression.finds_iff (h : e.Feasible) (text : List Char) :
    e.finds text = true ↔
      ∃ before read after, text = before ++ read ++ after ∧ e.Matches before read after := by
  have hrows : ∀ row ∈ ([] : List (List Expression)), ∀ x ∈ row, x.Feasible := nofun
  refine (findsFrom_iff h hrows [] text).trans ?_
  simp

/-! ## Frequent forms -/

theorem rounds_chars_iff {set : Text.CharRanges} :
    Rounds (Expression.chars set).Matches n before read after
      ↔ read.length = n ∧ ∀ c ∈ read, set.has c.toNat = true := by
  induction n generalizing before read with
  | zero =>
    simp only [Rounds, List.length_eq_zero_iff, iff_self_and]
    rintro rfl
    exact nofun
  | succ n ih =>
    simp only [Rounds, ih]
    constructor
    · rintro ⟨_, rest, rfl, ⟨c, rfl, hc⟩, rfl, hrest⟩
      exact ⟨rfl, List.forall_mem_cons.mpr ⟨hc, hrest⟩⟩
    · rintro ⟨hlength, hread⟩
      obtain ⟨c, rest, rfl⟩ := List.exists_cons_of_length_eq_add_one hlength
      obtain ⟨hc, hrest⟩ := List.forall_mem_cons.mp hread
      exact ⟨[c], rest, rfl, ⟨c, rfl, hc⟩, Nat.succ.inj hlength, hrest⟩

namespace Expression

/-- A set that is repeated without a limit matches the texts over it of a length that is enough. -/
theorem matches_repeated_chars_iff {set : Text.CharRanges} {least : Nat} :
    (repeated (chars set) least none).Matches before read after
      ↔ least ≤ read.length ∧ ∀ c ∈ read, set.has c.toNat = true := by
  rw [Matches]
  simp [rounds_chars_iff]

/-- The expression that matches a text and then goes on. -/
def literals (cs : List Char) (e : Expression) : Expression :=
  cs.foldr (fun c e => .seq (.chars #[(c.toNat, c.toNat)]) e) e

theorem matches_literals_iff {cs : List Char} : (literals cs e).Matches before read after ↔
    ∃ rest, read = cs ++ rest ∧ e.Matches (before ++ cs) rest after := by
  induction cs generalizing before read with
  | nil => simp [literals]
  | cons c cs ih =>
    have hcons : literals (c :: cs) e = .seq (.chars #[(c.toNat, c.toNat)]) (literals cs e) := rfl
    simp only [hcons, Matches, ih, Text.CharRanges.has_singleton_iff, Char.toNat_inj]
    constructor
    · rintro ⟨_, _, rfl, ⟨_, rfl, rfl⟩, rest, rfl, h⟩
      exact ⟨rest, rfl, by simpa using h⟩
    · rintro ⟨rest, rfl, h⟩
      exact ⟨[c], cs ++ rest, rfl, ⟨c, rfl, rfl⟩, rest, rfl, by simpa using h⟩

theorem feasible_literals {cs : List Char} (h : e.Feasible) : (literals cs e).Feasible := by
  induction cs with
  | nil => exact h
  | cons c cs ih => exact ⟨trivial, ih⟩

/-- A test between an expression and the end of a text. -/
theorem matches_seq_endText_iff : (seq e (look .endText)).Matches before read after ↔
    after = [] ∧ e.Matches before read [] := by
  simp only [Matches, Place.holds, Place.isEnd, Place.between, Option.isNone_iff_eq_none,
    List.head?_eq_none_iff]
  constructor
  · rintro ⟨first, _, rfl, h, rfl, rfl⟩
    exact ⟨rfl, by simpa using h⟩
  · rintro ⟨rfl, h⟩
    exact ⟨read, [], by simp, by simpa using h, rfl, rfl⟩

theorem matches_startText_seq_iff : (seq (look .startText) e).Matches before read after ↔
    before = [] ∧ e.Matches [] read after := by
  simp only [Matches, Place.holds, Place.isStart, Place.between, Option.isNone_iff_eq_none,
    List.getLast?_eq_none_iff]
  constructor
  · rintro ⟨_, rest, rfl, ⟨rfl, rfl⟩, h⟩
    exact ⟨rfl, h⟩
  · rintro ⟨rfl, h⟩
    exact ⟨[], read, rfl, ⟨rfl, rfl⟩, h⟩

end Expression

end Pattern

end DocumentModel
