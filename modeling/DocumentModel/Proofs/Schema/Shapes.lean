import DocumentModel.Schema.Shape
import Mathlib.Data.List.Induction
import Mathlib.Data.List.Nodup

/-!
# Properties of shapes

What a key has in a shape after properties were inserted, one by one or those of another shape. A
shape in which every key stands once is the one that inserting its own properties makes. The keys
stand in the order in which they came up first, wherever their entries come from.
-/

namespace DocumentModel.Shape

variable {α : Type} {key other : String} {entry : α} {shape own : Shape α}

/-! ## One property -/

/-- An insertion changes what is found at its own key only. -/
theorem get?_insert :
    get? key (insert other entry shape) = if other = key then some entry else get? key shape := by
  induction shape with
  | nil => rfl
  | cons first rest ih =>
    obtain ⟨k, e⟩ := first
    rw [insert]
    by_cases hk : k = other
    · subst hk
      rw [if_pos rfl, get?, get?]
      split <;> rfl
    · rw [if_neg hk, get?, get?, ih]
      split
      · next h => rw [if_neg fun ho => hk (h.trans ho.symm)]
      · rfl

/-- It adds its key and no other. -/
theorem mem_keys_insert :
    key ∈ keys (insert other entry shape) ↔ key = other ∨ key ∈ keys shape := by
  induction shape with
  | nil => simp [insert, keys]
  | cons first rest ih =>
    obtain ⟨k, e⟩ := first
    rw [insert]
    split
    · next hk => simp [keys, hk]
    · simp only [keys, List.map_cons, List.mem_cons] at ih ⊢
      rw [ih]
      exact or_left_comm

/-- It lets no key stand twice. -/
theorem nodup_keys_insert (h : (keys shape).Nodup) : (keys (insert other entry shape)).Nodup := by
  induction shape with
  | nil => exact List.nodup_singleton other
  | cons first rest ih =>
    obtain ⟨k, e⟩ := first
    obtain ⟨hk, hrest⟩ := List.nodup_cons.mp h
    rw [insert]
    split
    · exact h
    · next hne =>
      refine List.nodup_cons.mpr ⟨fun hm => ?_, ih hrest⟩
      rcases mem_keys_insert.mp hm with rfl | hm
      · exact hne rfl
      · exact hk hm

/-- A new key is put at the end. -/
theorem insert_of_notMem (h : key ∉ keys shape) :
    insert key entry shape = shape ++ [(key, entry)] := by
  induction shape with
  | nil => rfl
  | cons first rest ih =>
    obtain ⟨k, e⟩ := first
    have hk : key ≠ k := List.ne_of_not_mem_cons h
    have hrest : key ∉ keys rest := List.not_mem_of_not_mem_cons h
    rw [insert, if_neg fun he => hk he.symm, ih hrest, List.cons_append]

theorem get?_eq_none (h : key ∉ keys shape) : get? key shape = none := by
  induction shape with
  | nil => rfl
  | cons first rest ih =>
    obtain ⟨k, e⟩ := first
    have hk : key ≠ k := List.ne_of_not_mem_cons h
    have hrest : key ∉ keys rest := List.not_mem_of_not_mem_cons h
    rw [get?, if_neg fun he => hk he.symm, ih hrest]

theorem exists_get?_of_mem (h : key ∈ keys shape) : ∃ entry, get? key shape = some entry := by
  induction shape with
  | nil => cases h
  | cons first rest ih =>
    obtain ⟨k, e⟩ := first
    rw [get?]
    split
    · exact ⟨e, rfl⟩
    · next hne => exact ih ((List.mem_cons.mp h).resolve_left fun he => hne he.symm)

/-! ## The properties of another shape -/

theorem extend_cons (shape : Shape α) (first : String × α) (rest : Shape α) :
    extend shape (first :: rest) = extend (insert first.1 first.2 shape) rest :=
  rfl

/-- **A key has what the other shape has for it**, and what it had before if there is nothing. -/
theorem get?_extend (h : (keys own).Nodup) :
    get? key (extend shape own) = (get? key own).or (get? key shape) := by
  induction own generalizing shape with
  | nil => rfl
  | cons first rest ih =>
    obtain ⟨k, e⟩ := first
    obtain ⟨hk, hrest⟩ := List.nodup_cons.mp h
    rw [extend_cons, ih hrest, get?_insert, get?]
    split
    · next hkey => rw [get?_eq_none (hkey ▸ hk), Option.none_or, Option.some_or]
    · rfl

/-- Fields with new keys are put at the end, in their order. -/
theorem extend_of_nodup (h : (keys (shape ++ own)).Nodup) : extend shape own = shape ++ own := by
  induction own generalizing shape with
  | nil => exact (List.append_nil shape).symm
  | cons first rest ih =>
    have hfirst : first.1 ∉ keys shape := by
      rw [keys, List.map_append, List.nodup_append] at h
      exact fun hm => h.2.2 first.1 hm first.1 List.mem_cons_self rfl
    rw [extend_cons, insert_of_notMem hfirst, ih, List.append_assoc, List.singleton_append]
    rwa [List.append_assoc, List.singleton_append]

/-! ## Keys in the order of first mention -/

/-- A key that is there keeps its place. -/
theorem keys_insert : keys (insert key entry shape)
    = if key ∈ keys shape then keys shape else keys shape ++ [key] := by
  split
  · next hm =>
    induction shape with
    | nil => cases hm
    | cons first rest ih =>
      obtain ⟨k, e⟩ := first
      rw [insert]
      split
      · rfl
      · next hne =>
        have hrest : key ∈ keys rest := (List.mem_cons.mp hm).resolve_left fun he => hne he.symm
        exact congrArg (k :: ·) (ih hrest)
  · next hm => rw [insert_of_notMem hm, keys, List.map_append]; rfl

theorem eraseDups_concat (names : List String) (key : String) :
    (names ++ [key]).eraseDups
      = if key ∈ names then names.eraseDups else names.eraseDups ++ [key] := by
  rw [List.eraseDups_append]
  by_cases h : key ∈ names
  · simp [h, List.removeAll]
  · simp [h, List.removeAll, List.eraseDups_cons]

/-- Names without their later repetitions stand once each. -/
theorem nodup_eraseDups (names : List String) : names.eraseDups.Nodup := by
  induction names using List.reverseRecOn with
  | nil => exact List.nodup_nil
  | append_singleton names key ih =>
    rw [eraseDups_concat]
    split
    · exact ih
    · next hm =>
      refine List.nodup_append.mpr ⟨ih, List.nodup_singleton key, fun a ha b hb => ?_⟩
      rw [List.mem_singleton.mp hb]
      exact fun he => hm (he ▸ List.mem_eraseDups.mp ha)

/-- Names that came up before may be left out of a list that is appended. -/
theorem eraseDups_append_eraseDups (names others : List String) :
    (names ++ others.eraseDups).eraseDups = (names ++ others).eraseDups := by
  induction others using List.reverseRecOn with
  | nil => rfl
  | append_singleton others key ih =>
    rw [eraseDups_concat, ← List.append_assoc, eraseDups_concat (names ++ others)]
    by_cases h : key ∈ others
    · rw [if_pos h, if_pos (List.mem_append_right names h), ih]
    · rw [if_neg h, ← List.append_assoc, eraseDups_concat, ih]
      simp only [List.mem_append, List.mem_eraseDups]

/-- A property that is inserted is mentioned after those that are there. -/
theorem keys_insert_eraseDups {names : List String} (h : keys shape = names.eraseDups) :
    keys (insert key entry shape) = (names ++ [key]).eraseDups := by
  rw [keys_insert, eraseDups_concat, h]
  simp only [List.mem_eraseDups]

/-- **The properties of another shape are mentioned after those that are there.** -/
theorem keys_extend {names : List String} (h : keys shape = names.eraseDups) :
    keys (extend shape own) = (names ++ keys own).eraseDups := by
  induction own generalizing shape names with
  | nil => rw [extend, List.foldl_nil, h, keys, List.map_nil, List.append_nil]
  | cons first rest ih =>
    rw [extend_cons, ih (keys_insert_eraseDups h), List.append_assoc]
    rfl

end DocumentModel.Shape
