import Mathlib.Data.List.Sort
import DocumentModel.Proofs.Json.Fields

/-!
# Fields in the order of their keys

`Json.sortFields` yields fields whose keys go up, every key once, and such fields are determined by
what they hold (`Json.sortFields_eq`). A value is its own `Json.sorted` form when the fields of
every object in it are so; the form is passed on to the parts of the value.
-/

namespace DocumentModel

namespace Json

variable {α : Type} {fields : List (String × α)}

/-- The keys go up, so every key stands once. -/
def Ascending (fields : List (String × α)) : Prop := fields.Pairwise (InvImage (· < ·) Prod.fst)

/-- Fields in the order of their keys are found by their keys. -/
theorem Ascending.findField?_of_mem {f : String × α} (h : Ascending fields) (hf : f ∈ fields) :
    findField? f.1 fields = some f.2 := by
  refine Json.findField?_of_mem ?_ hf
  rw [List.Nodup, List.pairwise_map]
  refine List.Pairwise.imp ?_ h
  intro f g hlt he
  have hlt : f.1 < g.1 := hlt
  exact String.lt_irrefl _ (he ▸ hlt)

/-- They have one value at each key. -/
theorem Ascending.eq_of_mem {key : String} {v w : α} (h : Ascending fields)
    (hv : (key, v) ∈ fields) (hw : (key, w) ∈ fields) : v = w :=
  Option.some.inj ((h.findField?_of_mem hv).symm.trans (h.findField?_of_mem hw))

/-! ## Sorting -/

/-- Inserting a field keeps the order. -/
theorem Ascending.insertField (h : Ascending fields) (key : String) (value : α) :
    Ascending (insertField key value fields) := by
  induction fields with
  | nil => exact List.pairwise_singleton _ _
  | cons first rest ih =>
    obtain ⟨k, v⟩ := first
    obtain ⟨hfirst, hrest⟩ := List.pairwise_cons.mp h
    rw [Json.insertField]
    split
    · next hlt =>
      refine List.pairwise_cons.mpr ⟨List.forall_mem_cons.mpr ⟨hlt, fun f hf => ?_⟩, h⟩
      exact String.lt_trans hlt (hfirst f hf)
    · next hnlt =>
      split
      · next he =>
        subst he
        exact List.pairwise_cons.mpr ⟨hfirst, hrest⟩
      · next hne =>
        refine List.pairwise_cons.mpr ⟨fun f hf => ?_, ih hrest⟩
        rcases mem_insertField hf with rfl | hf
        · exact Std.lt_of_le_of_ne (String.not_lt.mp hnlt) (Ne.symm hne)
        · exact hfirst f hf

/-- Sorted fields are in order. -/
theorem ascending_sortFields (fields : List (String × α)) : Ascending (sortFields fields) := by
  have key : ∀ l sorted : List (String × α), Ascending sorted →
      Ascending (l.foldl (fun s f => Json.insertField f.1 f.2 s) sorted) := by
    intro l
    induction l with
    | nil => exact fun sorted h => h
    | cons f rest ih => exact fun sorted h => ih _ (h.insertField f.1 f.2)
  exact key fields [] List.Pairwise.nil

/-- **Sorting yields the ascending fields that hold the same.** -/
theorem sortFields_eq {others : List (String × α)} (h : Ascending fields)
    (hm : ∀ f, f ∈ others ↔ f ∈ fields) : sortFields others = fields := by
  refine (ascending_sortFields others).eq_of_mem_iff h fun f => ⟨fun hf => ?_, fun hf => ?_⟩
  · exact (hm f).mp (mem_of_mem_sortFields hf)
  · -- the key is sorted in with some value, which can only be the one of the field
    have hk : f.1 ∈ (sortFields others).map Prod.fst :=
      mem_keys_sortFields.mpr (List.mem_map_of_mem ((hm f).mpr hf))
    obtain ⟨⟨k, v⟩, hg, rfl⟩ := List.mem_map.mp hk
    have he : v = f.2 := h.eq_of_mem ((hm _).mp (mem_of_mem_sortFields hg)) hf
    rwa [he] at hg

/-! ## Values in sorted form -/

theorem sortedItems_eq_map (items : List Json) : sortedItems items = items.map sorted := by
  induction items with
  | nil => rfl
  | cons item rest ih => rw [sortedItems, ih, List.map_cons]

theorem sortedFields_eq_map (fields : List (String × Json)) :
    sortedFields fields = fields.map fun f => (f.1, f.2.sorted) := by
  induction fields with
  | nil => rfl
  | cons field rest ih => rw [sortedFields, ih, List.map_cons]

/-- The elements of a list whose objects are all in order have theirs in order. -/
theorem sorted_of_mem_array {items : List Json} (h : (array items).sorted = array items)
    {v : Json} (hv : v ∈ items) : v.sorted = v := by
  simp only [sorted, array.injEq, sortedItems_eq_map] at h
  exact List.map_inj_left.mp (h.trans (List.map_id items).symm) v hv

/-- An object that sorting leaves alone has its fields in order. -/
theorem ascending_of_sorted {fields : List (String × Json)}
    (h : (object fields).sorted = object fields) : Ascending fields := by
  simp only [sorted, object.injEq] at h
  rw [← h]
  exact ascending_sortFields _

/-- The values of its fields are then left alone, too. -/
theorem sorted_of_mem_object {fields : List (String × Json)}
    (h : (object fields).sorted = object fields) {f : String × Json} (hf : f ∈ fields) :
    f.2.sorted = f.2 := by
  have hasc := ascending_of_sorted h
  simp only [sorted, object.injEq] at h
  -- the fields are what sorting makes of the sorted values, and no key stands twice
  have hk : f.1 ∈ (sortFields (sortedFields fields)).map Prod.fst := by
    rw [h]
    exact List.mem_map_of_mem hf
  obtain ⟨⟨k, v⟩, hg, hke⟩ := List.mem_map.mp hk
  have hg' := mem_of_mem_sortFields hg
  rw [sortedFields_eq_map] at hg'
  obtain ⟨g, hgf, he⟩ := List.mem_map.mp hg'
  obtain ⟨rfl, rfl⟩ := Prod.mk.inj he
  rw [h] at hg
  have hfk : (g.1, f.2) ∈ fields := by
    rw [show g.1 = f.1 from hke]
    exact hf
  rw [← hasc.eq_of_mem hfk hgf] at hg
  exact hasc.eq_of_mem hg hfk

end Json

end DocumentModel
