import DocumentModel.Proofs.Json.Equality
import DocumentModel.Proofs.Json.Order

/-!
# Values as they can be read

A value that was read from a text has the fields of every object in the order of their keys, and
none of its numbers is no number. `Json.WellFormed` says both, and what it means for lists and
objects is said of their parts (`Json.wellFormed_array_iff`, `Json.wellFormed_object_iff`).
Well-formed objects are equal exactly if they agree at every key (`Json.same_object_iff`).
-/

namespace DocumentModel

namespace Json

variable {v w : Json} {items : List Json} {fields others : List (String × Json)}

/-! ## Values that equal themselves -/

/-- A list equals itself when its elements do. -/
theorem sameItems_self_iff : sameItems items items = true ↔ ∀ v ∈ items, v.same v = true := by
  induction items with
  | nil => simp [sameItems]
  | cons item rest ih => rw [sameItems, Bool.and_eq_true, ih, List.forall_mem_cons]

theorem sameFields_self_iff :
    sameFields fields fields = true ↔ ∀ f ∈ fields, f.2.same f.2 = true := by
  induction fields with
  | nil => simp [sameFields]
  | cons f rest ih =>
    rw [sameFields, Bool.and_eq_true, Bool.and_eq_true, ih, List.forall_mem_cons, beq_self_eq_true]
    simp only [true_and]

/-! ## Values in sorted form -/

/-- A list of values that sorting leaves alone is left alone. -/
theorem sorted_array_of_forall (h : ∀ v ∈ items, v.sorted = v) :
    (array items).sorted = array items := by
  rw [sorted, sortedItems_eq_map, List.map_congr_left h, List.map_id']

theorem sorted_array_map {α : Type} {f : α → Json} (h : ∀ a, (f a).sorted = f a) (as : List α) :
    (array (as.map f)).sorted = array (as.map f) :=
  sorted_array_of_forall (List.forall_mem_map.mpr fun a _ => h a)

/-- An object in order, of such values, is left alone as well. -/
theorem sorted_object_of_forall (ha : Ascending fields) (h : ∀ f ∈ fields, f.2.sorted = f.2) :
    (object fields).sorted = object fields := by
  have hmap : fields.map (fun f => (f.1, f.2.sorted)) = fields := by
    refine (List.map_congr_left fun f hf => ?_).trans (List.map_id fields)
    rw [h f hf]
    rfl
  rw [sorted, sortedFields_eq_map, hmap, sortFields_eq ha fun f => Iff.rfl]

/-! ## Well-formed values -/

/-- The value is in sorted form, and no number in it is none. -/
structure WellFormed (v : Json) : Prop where
  sorted : v.sorted = v
  same_self : v.same v = true

theorem wellFormed_null : WellFormed .null := ⟨rfl, rfl⟩

theorem wellFormed_bool (b : Bool) : WellFormed (.bool b) := ⟨rfl, beq_self_eq_true b⟩

theorem wellFormed_string (s : String) : WellFormed (.string s) := ⟨rfl, beq_self_eq_true s⟩

theorem wellFormed_integer (i : Int) : WellFormed (.number (.integer i)) :=
  ⟨rfl, beq_self_eq_true i⟩

/-- A list is well-formed when its elements are. -/
theorem wellFormed_array_iff : WellFormed (.array items) ↔ ∀ v ∈ items, v.WellFormed := by
  constructor
  · intro h v hv
    exact ⟨sorted_of_mem_array h.sorted hv, sameItems_self_iff.mp h.same_self v hv⟩
  · intro h
    exact ⟨sorted_array_of_forall fun v hv => (h v hv).sorted,
      sameItems_self_iff.mpr fun v hv => (h v hv).same_self⟩

/-- An object is well-formed when its fields are in order and their values are well-formed. -/
theorem wellFormed_object_iff :
    WellFormed (.object fields) ↔ Ascending fields ∧ ∀ f ∈ fields, f.2.WellFormed := by
  constructor
  · intro h
    exact ⟨ascending_of_sorted h.sorted,
      fun f hf => ⟨sorted_of_mem_object h.sorted hf, sameFields_self_iff.mp h.same_self f hf⟩⟩
  · rintro ⟨ha, h⟩
    exact ⟨sorted_object_of_forall ha fun f hf => (h f hf).sorted,
      sameFields_self_iff.mpr fun f hf => (h f hf).same_self⟩

mutual

/-- **Sorting a value that equals itself yields a well-formed one.** -/
theorem wellFormed_sorted : ∀ {v : Json}, v.same v = true → v.sorted.WellFormed
  | .null, _ => wellFormed_null
  | .bool b, _ => wellFormed_bool b
  | .number n, h => ⟨rfl, h⟩
  | .string s, _ => wellFormed_string s
  | .array items, h => by
    rw [sorted, sortedItems_eq_map, wellFormed_array_iff, List.forall_mem_map]
    exact wellFormed_sortedItems (sameItems_self_iff.mp (by simpa [same] using h))
  | .object fields, h => by
    rw [sorted, sortedFields_eq_map, wellFormed_object_iff]
    refine ⟨ascending_sortFields _, fun g hg => ?_⟩
    obtain ⟨f, hf, rfl⟩ := List.mem_map.mp (mem_of_mem_sortFields hg)
    exact wellFormed_sortedFields (sameFields_self_iff.mp (by simpa [same] using h)) f hf

/-- Sorting makes the elements of a list well-formed, where they equal themselves. -/
theorem wellFormed_sortedItems : ∀ {items : List Json}, (∀ v ∈ items, v.same v = true) →
    ∀ v ∈ items, v.sorted.WellFormed
  | [], _ => nofun
  | _ :: _, h => List.forall_mem_cons.mpr
    ⟨wellFormed_sorted (h _ List.mem_cons_self),
      wellFormed_sortedItems fun v hv => h v (List.mem_cons_of_mem _ hv)⟩

theorem wellFormed_sortedFields : ∀ {fields : List (String × Json)},
    (∀ f ∈ fields, f.2.same f.2 = true) → ∀ f ∈ fields, f.2.sorted.WellFormed
  | [], _ => nofun
  | (_, _) :: _, h => List.forall_mem_cons.mpr
    ⟨wellFormed_sorted (h _ List.mem_cons_self),
      wellFormed_sortedFields fun f hf => h f (List.mem_cons_of_mem _ hf)⟩

end

/-! ## Equality of lists -/

section

variable {α : Type} {as bs : List α} {f : α → Json} {R : α → α → Prop}

/-- Lists are compared entry by entry. -/
theorem sameItems_map_iff (h : ∀ a ∈ as, ∀ b ∈ bs, (f a).same (f b) = true ↔ R a b) :
    sameItems (as.map f) (bs.map f) = true ↔ List.Forall₂ R as bs := by
  induction as generalizing bs with
  | nil => cases bs <;> simp [sameItems]
  | cons a as ih =>
    cases bs with
    | nil => simp [sameItems]
    | cons b bs =>
      have hrest := ih fun a' ha b' hb =>
        h a' (List.mem_cons_of_mem _ ha) b' (List.mem_cons_of_mem _ hb)
      rw [List.map_cons, List.map_cons, sameItems, Bool.and_eq_true, hrest, List.forall₂_cons,
        h a List.mem_cons_self b List.mem_cons_self]

/-- Lists of written values are equal when what is written is, for writings that can be told
apart. -/
theorem sameItems_map_iff_eq (h : ∀ a b, (f a).same (f b) = true ↔ a = b) :
    sameItems (as.map f) (bs.map f) = true ↔ as = bs := by
  rw [sameItems_map_iff fun a _ b _ => h a b, List.forall₂_eq_eq_eq]

end

/-! ## Equality of objects -/

/-- Equal fields hold equal values at every key, or none. -/
theorem rel_findField?_of_sameFields (h : sameFields fields others = true) (key : String) :
    Option.Rel (fun v w => v.same w = true) (findField? key fields) (findField? key others) := by
  induction fields generalizing others with
  | nil =>
    cases others with
    | nil => exact .none
    | cons g rest => cases h
  | cons f rest ih =>
    cases others with
    | nil => cases h
    | cons g rest' =>
      obtain ⟨k, v⟩ := f
      obtain ⟨l, w⟩ := g
      simp only [sameFields, Bool.and_eq_true, beq_iff_eq] at h
      obtain ⟨⟨rfl, hv⟩, hrest⟩ := h
      rw [findField?, findField?]
      by_cases hk : k = key
      · rw [if_pos hk, if_pos hk]
        exact .some hv
      · rw [if_neg hk, if_neg hk]
        exact ih hrest

theorem sameFields_map_iff {value : String × Json → Json} :
    sameFields fields (fields.map fun f => (f.1, value f)) = true
      ↔ ∀ f ∈ fields, f.2.same (value f) = true := by
  induction fields with
  | nil => simp [sameFields]
  | cons f rest ih =>
    rw [List.map_cons, sameFields, Bool.and_eq_true, Bool.and_eq_true, ih, List.forall_mem_cons,
      beq_self_eq_true]
    simp only [true_and]

/-- A value that is there has an equal one on the other side. -/
theorem exists_same_of_rel {found : Option Json}
    (h : Option.Rel (fun v w => v.same w = true) (some v) found) :
    ∃ w, found = some w ∧ v.same w = true := by
  cases h with
  | some h => exact ⟨_, rfl, h⟩

/-- **Objects with their fields in order are equal exactly if they agree at every key.** -/
theorem same_object_iff (ha : Ascending fields) (hb : Ascending others) :
    (object fields).same (.object others) = true
      ↔ ∀ key, Option.Rel (fun v w => v.same w = true) (findField? key fields)
        (findField? key others) := by
  rw [same]
  refine ⟨rel_findField?_of_sameFields, fun h => ?_⟩
  -- the other fields are those at the keys of these fields
  have hothers : fields.map (fun f => (f.1, (findField? f.1 others).getD .null)) = others := by
    refine List.Pairwise.eq_of_mem_iff ?_ hb fun g => ?_
    · exact List.pairwise_map.mpr ha
    · have hg := h g.1
      constructor
      · intro hm
        obtain ⟨f, hf, rfl⟩ := List.mem_map.mp hm
        rw [ha.findField?_of_mem hf] at hg
        obtain ⟨w, hw, -⟩ := exists_same_of_rel hg
        rw [hw]
        exact mem_of_findField? hw
      · intro hm
        rw [hb.findField?_of_mem hm] at hg
        cases hv : findField? g.1 fields with
        | none =>
          rw [hv] at hg
          cases hg
        | some v =>
          refine List.mem_map.mpr ⟨(g.1, v), mem_of_findField? hv, ?_⟩
          rw [hb.findField?_of_mem hm]
          rfl
  rw [← hothers, sameFields_map_iff]
  intro f hf
  have hkey := h f.1
  rw [ha.findField?_of_mem hf] at hkey
  obtain ⟨w, hw, hsame⟩ := exists_same_of_rel hkey
  rw [hw]
  exact hsame

end Json

end DocumentModel
