import Mathlib.Data.List.Chain
import DocumentModel.Proofs.Class.Defining
import DocumentModel.Proofs.Compile.Steps

/-!
# Lineages

A lineage is a class followed by the lineage of its base (`Registry.lineage_eq_ok_iff`). So it is a
chain of bases that ends at a class without one (`Registry.isChain_of_lineage`,
`Registry.base?_of_getLast?`), and it is there for every class that is known, once every base is
known (`Registry.BasesKnown.exists_lineage`). A class keeps its lineage while its registry grows.
-/

namespace DocumentModel

namespace Registry

variable {r r' : Registry} {id : ClassId} {levels : List ClassId}

/-! ## From a class to its base -/

theorem declaredLineage_eq (r : Registry) (number : Nat) :
    r.declaredLineage number = match r.entry? number with
      | none => .error (.unknownClass (.declared number))
      | some e => match e.base with
        | none => .ok [.declared number]
        | some (.builtin c) => .ok [.declared number, .builtin c]
        | some (.declared n) => (.declared number :: ·) <$> r.declaredLineage n := by
  rw [declaredLineage]
  split
  · next h => rw [h]
  · next e h =>
    split
    · next hb => simp only [h, hb]
    · next c hb => simp only [h, hb]
    · next n hb =>
      simp only [h, hb]
      cases r.declaredLineage n <;> rfl

theorem lineage_eq (r : Registry) (id : ClassId) :
    r.lineage id = if r.contains id then match r.base? id with
      | none => .ok [id]
      | some base => (id :: ·) <$> r.lineage base
    else .error (.unknownClass id) := by
  cases id with
  | builtin c => rfl
  | declared number =>
    rw [Registry.lineage, declaredLineage_eq, contains, base?]
    cases r.entry? number with
    | none => rfl
    | some e =>
      dsimp only [Option.bind_some, Option.isSome_some]
      rw [if_pos rfl]
      cases e.base with
      | none => rfl
      | some base => cases base <;> rfl

/-- **A lineage is a class that is known, followed by the lineage of its base**, if it has one. -/
theorem lineage_eq_ok_iff : r.lineage id = .ok levels ↔ r.contains id = true
    ∧ (r.base? id = none ∧ levels = [id]
      ∨ ∃ base ancestors, r.base? id = some base ∧ r.lineage base = .ok ancestors
        ∧ levels = id :: ancestors) := by
  rw [lineage_eq]
  by_cases hc : r.contains id = true
  · rw [if_pos hc]
    cases hb : r.base? id with
    | none => simp [hc, eq_comm]
    | some base =>
      dsimp only
      rw [map_eq_ok_iff]
      simp only [hc, Option.some.injEq, reduceCtorEq, false_and, false_or, true_and,
        exists_and_left, exists_eq_left', eq_comm]
  · rw [if_neg hc]
    exact iff_of_false nofun (fun h => hc h.1)

theorem contains_of_lineage (h : r.lineage id = .ok levels) : r.contains id = true :=
  (lineage_eq_ok_iff.mp h).1

/-- The class itself comes first, and the lineage of its base after it. -/
theorem eq_cons_of_lineage (h : r.lineage id = .ok levels) : ∃ rest, levels = id :: rest
    ∧ (r.base? id = none ∧ rest = []
      ∨ ∃ base, r.base? id = some base ∧ r.lineage base = .ok rest) := by
  obtain ⟨-, ⟨hb, rfl⟩ | ⟨base, ancestors, hb, hl, rfl⟩⟩ := lineage_eq_ok_iff.mp h
  · exact ⟨[], rfl, Or.inl ⟨hb, rfl⟩⟩
  · exact ⟨ancestors, rfl, Or.inr ⟨base, hb, hl⟩⟩

/-- **Every end of a lineage is a lineage**, so what comes after an ancestor depends on the ancestor
alone. -/
theorem lineage_of_append {base : ClassId} {younger older : List ClassId}
    (h : r.lineage id = .ok (younger ++ base :: older)) : r.lineage base = .ok (base :: older) := by
  induction younger generalizing id with
  | nil =>
    obtain ⟨rest, hcons, -⟩ := eq_cons_of_lineage h
    obtain ⟨rfl, rfl⟩ := List.cons.inj hcons
    exact h
  | cons first rest ih =>
    obtain ⟨tail, hcons, htail⟩ := eq_cons_of_lineage h
    obtain ⟨-, rfl⟩ := List.cons.inj hcons
    rcases htail with ⟨-, hnil⟩ | ⟨b, -, hb⟩
    · exact absurd hnil (List.append_ne_nil_of_right_ne_nil rest (List.cons_ne_nil base older))
    · exact ih hb

theorem eq_or_base?_of_mem_lineage (h : r.lineage id = .ok levels) {level : ClassId}
    (hm : level ∈ levels) : level = id ∨ ∃ derived, r.base? derived = some level := by
  induction levels generalizing id with
  | nil => cases hm
  | cons first rest ih =>
    obtain ⟨tail, hcons, htail⟩ := eq_cons_of_lineage h
    obtain ⟨rfl, rfl⟩ := List.cons.inj hcons
    rcases List.mem_cons.mp hm with rfl | hm
    · exact Or.inl rfl
    · rcases htail with ⟨-, rfl⟩ | ⟨base, hb, hl⟩
      · cases hm
      · rcases ih hl hm with rfl | hderived
        · exact Or.inr ⟨first, hb⟩
        · exact Or.inr hderived

/-- A class without a base. -/
def rootEntry (number : Nat) (name : String) : ClassEntry := ⟨number, name, none, by simp⟩

/-- Where no class has a base, a class is its only level. -/
theorem eq_of_mem_lineage (hb : ∀ e ∈ r.classes, e.base = none) (h : r.lineage id = .ok levels)
    {level : ClassId} (hm : level ∈ levels) : level = id := by
  obtain ⟨rest, rfl, ⟨-, rfl⟩ | ⟨base, hbase, -⟩⟩ := eq_cons_of_lineage h
  · exact List.mem_singleton.mp hm
  · obtain ⟨e, he, -, hnone⟩ := entry_of_base? hbase
    rw [hb e he] at hnone
    cases hnone

/-! ## From a class to its root -/

/-- **A lineage follows bases.** -/
theorem isChain_of_lineage (h : r.lineage id = .ok levels) :
    levels.IsChain fun level base => r.base? level = some base := by
  induction levels generalizing id with
  | nil => exact List.isChain_nil
  | cons first rest ih =>
    obtain ⟨tail, hcons, htail⟩ := eq_cons_of_lineage h
    obtain ⟨rfl, rfl⟩ := List.cons.inj hcons
    rcases htail with ⟨-, rfl⟩ | ⟨base, hb, hl⟩
    · exact List.isChain_singleton _
    · obtain ⟨older, rfl, -⟩ := eq_cons_of_lineage hl
      exact List.isChain_cons_cons.mpr ⟨hb, ih hl⟩

/-- **It ends at a class without a base.** -/
theorem base?_of_getLast? (h : r.lineage id = .ok levels) {root : ClassId}
    (hroot : root ∈ levels.getLast?) : r.base? root = none := by
  obtain ⟨younger, rfl⟩ := List.getLast?_eq_some_iff.mp hroot
  obtain ⟨rest, hcons, ⟨hb, -⟩ | ⟨base, hb, hl⟩⟩ := eq_cons_of_lineage (lineage_of_append h)
  · exact hb
  · obtain ⟨-, rfl⟩ := List.cons.inj hcons
    obtain ⟨older, hnil, -⟩ := eq_cons_of_lineage hl
    cases hnil

/-- **A class that is known has a lineage**, as following bases leads to smaller numbers. -/
theorem BasesKnown.exists_lineage (hr : r.BasesKnown) (h : r.contains id = true) :
    ∃ ancestors, r.lineage id = .ok (id :: ancestors) := by
  cases id with
  | builtin c => exact ⟨[], rfl⟩
  | declared number =>
    induction number using Nat.strongRecOn with
    | ind number ih =>
      rw [lineage_eq, if_pos h]
      cases hb : r.base? (.declared number) with
      | none => exact ⟨[], rfl⟩
      | some base =>
        have hknown := hr.contains_base hb
        cases base with
        | builtin c => exact ⟨[.builtin c], rfl⟩
        | declared n =>
          obtain ⟨e, -, hnumber, he⟩ := entry_of_base? hb
          cases hnumber
          obtain ⟨ancestors, hl⟩ := ih n (e.base_lt n he) hknown
          exact ⟨.declared n :: ancestors, map_eq_ok_iff.mpr ⟨_, hl, rfl⟩⟩

/-- **A lineage contains no class twice**, as the numbers of its classes go down. -/
theorem Numbered.nodup_lineage {next : Nat} (hr : r.Numbered next)
    (h : r.lineage id = .ok levels) : levels.Nodup := by
  have hchain : (levels.map ClassId.number).IsChain (· > ·) := by
    rw [List.isChain_map]
    exact (isChain_of_lineage h).imp fun level base hb => hr.base_lt hb
  have hnumbers : (levels.map ClassId.number).Nodup :=
    (List.isChain_iff_pairwise.mp hchain).imp fun hlt => Nat.ne_of_gt hlt
  exact List.Nodup.of_map ClassId.number hnumbers

/-! ## Growing registries -/

/-- What a registry knows of its classes another one knows as well. -/
def Within (r r' : Registry) : Prop :=
  ∀ number e, r.entry? number = some e → r'.entry? number = some e

theorem within_of_classes_eq (h : r.classes = r'.classes) : r.Within r' := by
  intro number e he
  unfold entry? at he ⊢
  rwa [← h]

theorem within_append (r : Registry) (e : ClassEntry) :
    r.Within { r with classes := r.classes ++ [e] } := by
  intro number entry he
  have happend := r.entry?_append e number
  rw [happend, he, Option.some_or]

theorem Within.contains (h : r.Within r') (hc : r.contains id = true) : r'.contains id = true := by
  cases id with
  | builtin c => rfl
  | declared number =>
    rw [Registry.contains] at hc ⊢
    obtain ⟨e, he⟩ := Option.isSome_iff_exists.mp hc
    rw [h number e he, Option.isSome_some]

theorem Within.base?_eq (h : r.Within r') (hc : r.contains id = true) :
    r'.base? id = r.base? id := by
  cases id with
  | builtin c => rfl
  | declared number =>
    obtain ⟨e, he⟩ := Option.isSome_iff_exists.mp hc
    rw [base?, base?, he, h number e he]

theorem Within.lineage (h : r.Within r') (hl : r.lineage id = .ok levels) :
    r'.lineage id = .ok levels := by
  induction levels generalizing id with
  | nil =>
    obtain ⟨rest, hcons, -⟩ := eq_cons_of_lineage hl
    cases hcons
  | cons first rest ih =>
    obtain ⟨hc, htail⟩ := lineage_eq_ok_iff.mp hl
    rw [← h.base?_eq hc] at htail
    refine lineage_eq_ok_iff.mpr ⟨h.contains hc, htail.imp_right ?_⟩
    rintro ⟨base, ancestors, hb, hbase, hcons⟩
    obtain ⟨rfl, rfl⟩ := List.cons.inj hcons
    exact ⟨base, rest, hb, ih hbase, rfl⟩

theorem lineage_eq_of_classes_eq (h : r.classes = r'.classes) : r.lineage id = r'.lineage id := by
  cases id with
  | builtin c => rfl
  | declared number =>
    rw [Registry.lineage, Registry.lineage]
    -- a class is younger than its base
    induction number using Nat.strongRecOn with
    | ind number ih =>
      have hentry : r.entry? number = r'.entry? number := by
        unfold entry?
        rw [h]
      rw [declaredLineage_eq, declaredLineage_eq, hentry]
      cases he : r'.entry? number with
      | none => rfl
      | some e =>
        dsimp only
        split
        · rfl
        · rfl
        · next n hb =>
          have hnumber := number_of_entry? he
          rw [ih n (hnumber ▸ e.base_lt n hb)]

end Registry

end DocumentModel
