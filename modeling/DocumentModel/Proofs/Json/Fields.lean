import DocumentModel.Json.Basic

/-!
# Looking fields up

What a look-up finds in a list of fields, and what it finds after fields have been put in the order
of their keys. `findField?_sortFields` says that sorting keeps the last field of every key; where no
key stands twice (`Nodup`), sorting changes no look-up at all.
-/

namespace DocumentModel

namespace Json

variable {α : Type}

/-! ## Look-up and membership -/

/-- A field that is found is there. -/
theorem mem_of_findField? {key : String} {value : α} {fields : List (String × α)}
    (h : findField? key fields = some value) : (key, value) ∈ fields := by
  induction fields with
  | nil => simp [findField?] at h
  | cons field rest ih =>
    obtain ⟨k, v⟩ := field
    simp only [findField?] at h
    split at h
    · next hk =>
      obtain rfl := hk
      obtain rfl := Option.some.inj h
      exact List.mem_cons_self
    · exact List.mem_cons_of_mem _ (ih h)

/-- No field is found exactly if no field has the key. -/
theorem findField?_eq_none_iff {key : String} {fields : List (String × α)} :
    findField? key fields = none ↔ key ∉ fields.map Prod.fst := by
  induction fields with
  | nil => simp [findField?]
  | cons field rest ih =>
    obtain ⟨k, v⟩ := field
    by_cases hk : k = key
    · simp [findField?, hk]
    · simp [findField?, hk, Ne.symm hk, ih]

/-- A field is found exactly if one has the key. -/
theorem findField?_isSome_iff {key : String} {fields : List (String × α)} :
    (findField? key fields).isSome = true ↔ key ∈ fields.map Prod.fst := by
  rw [Option.isSome_iff_ne_none, ne_eq, findField?_eq_none_iff, Classical.not_not]

theorem findField?_isNone_iff {key : String} {fields : List (String × α)} :
    (findField? key fields).isNone = true ↔ key ∉ fields.map Prod.fst := by
  rw [Option.isNone_iff_eq_none, findField?_eq_none_iff]

/-- **Where no key stands twice, every field is the one that its key finds.** -/
theorem findField?_of_mem {key : String} {value : α} {fields : List (String × α)}
    (hnd : (fields.map Prod.fst).Nodup) (h : (key, value) ∈ fields) :
    findField? key fields = some value := by
  induction fields with
  | nil => simp at h
  | cons field rest ih =>
    obtain ⟨k, v⟩ := field
    simp only [List.map_cons, List.nodup_cons] at hnd
    rcases List.mem_cons.mp h with he | h
    · obtain ⟨rfl, rfl⟩ := Prod.mk.inj he
      simp [findField?]
    · have hne : k ≠ key := by
        rintro rfl
        exact hnd.1 (List.mem_map_of_mem h)
      rw [findField?, if_neg hne, ih hnd.2 h]

/-- Of two lists of fields the first one counts, where it has the key. -/
theorem findField?_append {key : String} {fields others : List (String × α)} :
    findField? key (fields ++ others) = (findField? key fields).or (findField? key others) := by
  induction fields with
  | nil => simp [findField?]
  | cons field rest ih =>
    obtain ⟨k, v⟩ := field
    by_cases hk : k = key
    · simp [findField?, hk]
    · simp [findField?, hk, ih]

/-- With keys that stand once each, the order of the fields does not matter. -/
theorem findField?_reverse {key : String} {fields : List (String × α)}
    (hnd : (fields.map Prod.fst).Nodup) :
    findField? key fields.reverse = findField? key fields := by
  have hnd' : (fields.reverse.map Prod.fst).Nodup := by
    rw [List.map_reverse]
    exact List.pairwise_reverse.mpr (hnd.imp Ne.symm)
  cases h : findField? key fields with
  | none =>
    rw [findField?_eq_none_iff] at h ⊢
    simpa using h
  | some value => exact findField?_of_mem hnd' (List.mem_reverse.mpr (mem_of_findField? h))

theorem findField?_filter_ne {key k : String} {fields : List (String × α)} :
    findField? k (fields.filter (·.1 != key)) = if k = key then none else findField? k fields := by
  induction fields with
  | nil => simp [findField?]
  | cons field rest ih =>
    obtain ⟨l, v⟩ := field
    by_cases hl : l = key
    · subst hl
      rw [List.filter_cons_of_neg (by simp), ih, findField?]
      split
      · rfl
      · next hk => rw [if_neg (Ne.symm hk)]
    · rw [List.filter_cons_of_pos (by simpa using hl), findField?, findField?, ih]
      by_cases hk : l = k
      · rw [if_pos hk, if_pos hk, if_neg fun he => hl (hk.trans he)]
      · rw [if_neg hk, if_neg hk]

/-! ## Sorting -/

/-- An inserted field is found at its key, and nothing changes at the others. -/
theorem findField?_insertField {key k : String} {value : α} {fields : List (String × α)} :
    findField? k (insertField key value fields)
      = if key = k then some value else findField? k fields := by
  induction fields with
  | nil => rfl
  | cons field rest ih =>
    obtain ⟨l, v⟩ := field
    simp only [insertField]
    split
    · simp [findField?]
    · split
      · next he =>
        subst he
        by_cases hk : key = k <;> simp [findField?, hk]
      · next hne =>
        simp only [findField?, ih]
        by_cases hl : l = k
        · have : key ≠ k := fun he => hne (he.trans hl.symm)
          simp [hl, this]
        · simp [hl]

theorem mem_keys_insertField {key k : String} {value : α} {fields : List (String × α)} :
    k ∈ (insertField key value fields).map Prod.fst ↔ k = key ∨ k ∈ fields.map Prod.fst := by
  rw [← findField?_isSome_iff, findField?_insertField, ← findField?_isSome_iff]
  split
  · next he => simp [he]
  · next hne => simp [Ne.symm hne]

/-- What is in the fields after an insertion was there or is the inserted field. -/
theorem mem_insertField {key : String} {value : α} {fields : List (String × α)}
    {field : String × α} (h : field ∈ insertField key value fields) :
    field = (key, value) ∨ field ∈ fields := by
  induction fields with
  | nil => exact Or.inl (by simpa [insertField] using h)
  | cons first rest ih =>
    obtain ⟨l, v⟩ := first
    simp only [insertField] at h
    split at h
    · simpa using h
    · split at h
      · rcases List.mem_cons.mp h with h | h
        · exact Or.inl h
        · exact Or.inr (List.mem_cons_of_mem _ h)
      · rcases List.mem_cons.mp h with h | h
        · exact Or.inr (h ▸ List.mem_cons_self)
        · exact (ih h).imp_right (List.mem_cons_of_mem _)

/-- Of fields inserted one after the other the last one of a key is found. -/
theorem findField?_foldl_insertField {key : String} (fields sorted : List (String × α)) :
    findField? key (fields.foldl (fun s field => insertField field.1 field.2 s) sorted)
      = (findField? key fields.reverse).or (findField? key sorted) := by
  -- a later field goes over what has been sorted before it
  induction fields generalizing sorted with
  | nil => simp [findField?]
  | cons field rest ih =>
    obtain ⟨k, v⟩ := field
    rw [List.foldl_cons, ih, findField?_insertField, List.reverse_cons, findField?_append]
    by_cases hk : k = key <;> cases findField? key rest.reverse <;> simp [findField?, hk]

/-- **Of two fields with one key, sorting keeps the later one.** -/
theorem findField?_sortFields {key : String} (fields : List (String × α)) :
    findField? key (sortFields fields) = findField? key fields.reverse := by
  rw [sortFields, findField?_foldl_insertField]
  simp [findField?]

theorem mem_of_mem_sortFields {field : String × α} {fields : List (String × α)}
    (h : field ∈ sortFields fields) : field ∈ fields := by
  have key : ∀ (l sorted : List (String × α)),
      field ∈ l.foldl (fun s f => insertField f.1 f.2 s) sorted → field ∈ l ∨ field ∈ sorted := by
    intro l
    induction l with
    | nil => exact fun sorted h => Or.inr h
    | cons first rest ih =>
      intro sorted h
      rcases ih _ h with h | h
      · exact Or.inl (List.mem_cons_of_mem _ h)
      · rcases mem_insertField h with rfl | h
        · exact Or.inl List.mem_cons_self
        · exact Or.inr h
  simpa using key fields [] h

/-- Where no key stands twice, sorting keeps every field. -/
theorem mem_sortFields {field : String × α} {fields : List (String × α)}
    (hnd : (fields.map Prod.fst).Nodup) : field ∈ sortFields fields ↔ field ∈ fields := by
  refine ⟨mem_of_mem_sortFields, fun h => mem_of_findField? ?_⟩
  rw [findField?_sortFields, findField?_reverse hnd, findField?_of_mem hnd h]

/-- Sorting fields keeps their keys. -/
theorem mem_keys_sortFields {key : String} {fields : List (String × α)} :
    key ∈ (sortFields fields).map Prod.fst ↔ key ∈ fields.map Prod.fst := by
  rw [← findField?_isSome_iff, findField?_sortFields, findField?_isSome_iff, List.map_reverse,
    List.mem_reverse]

theorem sortFields_eq_nil_iff {fields : List (String × α)} :
    sortFields fields = [] ↔ fields = [] := by
  constructor
  · intro h
    have hkeys : fields.map Prod.fst = [] := by
      refine List.eq_nil_iff_forall_not_mem.mpr fun key hkey => ?_
      rw [← mem_keys_sortFields, h] at hkey
      cases hkey
    exact List.map_eq_nil_iff.mp hkeys
  · rintro rfl
    rfl

end Json

end DocumentModel
