import DocumentModel.Proofs.Json.WellFormed
import DocumentModel.Proofs.Schema.Results

/-!
# Results are well-formed

Where the values that a node states itself are well-formed, a well-formed value is conformed to
another one (`Node.wellFormed_of_parse`): fields stay in order when they are checked, dropped,
filled in and united.
-/

namespace DocumentModel

/-! ## Fields -/

theorem Json.ascending_iff {fields : List (String × Json)} :
    Json.Ascending fields ↔ (fields.map Prod.fst).Pairwise (· < ·) := by
  rw [List.pairwise_map]
  exact Iff.rfl

/-- United fields are well-formed when both sides are. -/
theorem Json.wellFormed_mergeFields {left right : List (String × Json)}
    (hl : Json.WellFormed (.object left)) (hr : Json.WellFormed (.object right)) :
    Json.WellFormed (.object (mergeFields left right)) := by
  rw [Json.wellFormed_object_iff] at hl hr ⊢
  refine ⟨ascending_mergeFields hl.1 right, fun f hf => ?_⟩
  rcases mem_mergeFields hf with hf | hf
  · exact hl.2 f hf
  · exact hr.2 f hf

/-- Well-formedness goes through lists, objects and unions of objects. -/
theorem Json.wellFormed_congruence :
    Json.Congruence fun v out => v.WellFormed → out.WellFormed where
  refl _ h := h
  array {items outs} h hv := by
    rw [Json.wellFormed_array_iff] at hv ⊢
    intro out hout
    obtain ⟨v, hm, himp⟩ := exists_of_forall₂_of_mem h hout
    exact himp (hv v hm)
  fields {fields outs} h hv := by
    rw [Json.wellFormed_object_iff] at hv ⊢
    have hkeys : fields.map Prod.fst = outs.map Prod.fst := by
      rw [← List.forall₂_eq_eq_eq, List.forall₂_map_left_iff, List.forall₂_map_right_iff]
      exact h.imp fun _ _ hfg => hfg.1
    refine ⟨?_, fun g hg => ?_⟩
    · rw [Json.ascending_iff, ← hkeys]
      exact Json.ascending_iff.mp hv.1
    · obtain ⟨f, hf, -, himp⟩ := exists_of_forall₂_of_mem h hg
      exact himp (hv.2 f hf)
  merge hl hr hv := Json.wellFormed_mergeFields (hl hv) (hr hv)

namespace Node

/-! ## Nodes -/

/-- The literal or the default that a node states is well-formed. -/
def StatesWellFormed (n : Node) : Prop :=
  match n.kind with
  | .literal value | .withDefault _ value => value.WellFormed
  | _ => True

/-- Strings and sorted objects are well-formed, and so is what well-formed defaults are parsed
to. -/
theorem changes_wellFormed : Changes (fun v out => v.WellFormed → out.WellFormed) Json.WellFormed
    StatesWellFormed where
  string _ _ _ _ _ := Json.wellFormed_string _
  filled _ _ _ _ h hw := hw h
  object := by
    intro shape unknownKeys catchall description _ hs hc x w hf hw hx
    obtain ⟨fields, he, hfs, hfu⟩ := fits_object.mp hf
    cases he
    rw [result_object] at hw
    cases hw
    rw [Json.wellFormed_object_iff] at hx
    refine Json.wellFormed_object_iff.mpr ⟨Json.ascending_sortFields _, fun f hm => ?_⟩
    rcases of_mem_objectResult (fun _ h => h) hs hc hfs hfu (Json.mem_of_mem_sortFields hm) with
      ⟨v, hv, himp⟩ | hfilled
    · exact himp (hx.2 _ hv)
    · exact hfilled

variable {n : Node} {v out : Json}

theorem wellFormed_of_result (hn : n.Throughout StatesWellFormed) (hv : v.WellFormed)
    (hf : n.Fits (some v)) (hw : n.result (some v) = some out) : out.WellFormed :=
  (resultsIn_of_changes Json.wellFormed_congruence changes_wellFormed hn).1 v out hf hw hv

/-- **What a well-formed value is parsed to is well-formed.** -/
theorem wellFormed_of_parse (hn : n.Throughout StatesWellFormed) (hv : v.WellFormed)
    (h : n.parse v = .ok out) : out.WellFormed := by
  obtain ⟨hf, hw⟩ := parse_eq_ok_iff_result.mp h
  exact wellFormed_of_result hn hv hf hw

end Node

end DocumentModel
