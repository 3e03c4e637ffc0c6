import DocumentModel.Proofs.Json.Fields
import DocumentModel.Proofs.Schema.Fits

/-!
# Values that are there and values that are not

A value that fits a node does not vanish: what it is conformed to is there, too
(`Node.isSome_result`). So the absent parts of a result come from absent parts of the value, and
only at nodes that accept absence. `Node.findField?_objectResult` and
`Node.mem_undeclaredResult_of_mem_objectResult` say from this where the fields of a conformed object
come from.
-/

namespace DocumentModel

namespace Node

/-! ## Presence -/

/-- Two results that go together have a common result if the left one is there. -/
theorem isSome_value_mergeResults {left right : Option Json} {path : String}
    (h : (mergeResults left right path).issues = []) (hl : left.isSome = true) :
    (mergeResults left right path).value.isSome = true := by
  unfold mergeResults at h ⊢
  split at h
  · -- two objects are united
    rfl
  · rw [if_pos (Outcome.issues_ite.mp h)]
    exact hl

/-- **A value that fits does not vanish.** -/
theorem isSome_result (n : Node) {x : Json} (h : n.Fits (some x)) :
    (n.result (some x)).isSome = true := by
  induction n using Node.induction generalizing x with
  | step n ih =>
    obtain ⟨kind, description⟩ := n
    cases kind with
    | string checks =>
      obtain ⟨raw, he, -⟩ := fits_string.mp h
      cases he
      rfl
    | object shape unknownKeys catchall =>
      obtain ⟨fields, he, -⟩ := fits_object.mp h
      cases he
      rw [result_object, Option.isSome_some]
    | record key item =>
      obtain ⟨fields, he, -⟩ := fits_record.mp h
      cases he
      rw [result_record, Option.isSome_some]
    | array element bounds =>
      obtain ⟨items, he, -⟩ := fits_array.mp h
      cases he
      rw [result_array, Option.isSome_some]
    | set element bounds =>
      obtain ⟨items, he, -⟩ := fits_set.mp h
      cases he
      rw [result_set, Option.isSome_some]
    | tuple nodes rest =>
      obtain ⟨items, he, -⟩ := fits_tuple.mp h
      cases he
      rw [result_tuple h, Option.isSome_some]
    | map key item =>
      obtain ⟨entries, he, hf⟩ := fits_map.mp h
      cases he
      rw [result_map hf, Option.isSome_some]
    | union branches =>
      obtain ⟨b, hb, hf, he⟩ := result_union h
      rw [he]
      exact ih b hb hf
    | intersection left right =>
      obtain ⟨_, _, hl, hr, hm⟩ := fits_intersection.mp h
      rw [result_intersection h]
      exact isSome_value_mergeResults hm (ih left List.mem_cons_self hl)
    | optional inner =>
      rcases fits_optional.mp h with he | hi
      · cases he
      · exact ih inner List.mem_cons_self hi
    | nullable inner =>
      rcases fits_nullable.mp h with he | hi
      · cases he
        rfl
      · by_cases hn : some x = some Json.null
        · cases hn
          rfl
        · rw [result_nullable hn]
          exact ih inner List.mem_cons_self hi
    | withDefault inner value => exact ih inner List.mem_cons_self (fits_withDefault.mp h)
    | refined inner refinement =>
      obtain ⟨_, _, hi, -⟩ := fits_refined.mp h
      rw [result_refined]
      exact ih inner List.mem_cons_self hi
    | _ => rw [result_of_keepsValue rfl h, Option.isSome_some]

/-- **Where absence fits, the node says that it accepts absence.** -/
theorem acceptsMissing_of_fits_none (n : Node) (h : n.Fits none) : n.acceptsMissing = true := by
  induction n using Node.induction with
  | step n ih =>
    obtain ⟨kind, description⟩ := n
    cases kind with
    | any | unknown | undefined | void | objectId | optional inner | withDefault inner value => rfl
    | nullable inner =>
      rcases fits_nullable.mp h with he | hi
      · cases he
      · exact ih inner List.mem_cons_self hi
    -- the other kinds look for a value before anything else
    | _ => simp [Fits, check] at h

/-- What a value is parsed to is there, so that nothing has to stand for an absent result. -/
theorem parse_eq_ok_iff_result {n : Node} {v out : Json} :
    n.parse v = .ok out ↔ n.Fits (some v) ∧ n.result (some v) = some out := by
  rw [parse_eq_ok_iff]
  refine and_congr_right fun h => ?_
  obtain ⟨w, hw⟩ := Option.isSome_iff_exists.mp (isSome_result n h)
  rw [hw, Option.getD_some, Option.some_inj]

/-! ## The fields of a conformed object -/

variable {shape : List (String × Node)} {unknownKeys : UnknownKeys} {catchall : Option Node}
  {fields : List (String × Json)}

/-- The fields that a conformed object is made of. -/
def objectResult (shape : List (String × Node)) (unknownKeys : UnknownKeys) (catchall : Option Node)
    (fields : List (String × Json)) : List (String × Json) :=
  Json.sortFields (declaredResult shape fields
    ++ undeclaredResult unknownKeys catchall (undeclared shape fields))

/-- Two objects bring together what each is conformed to. -/
theorem result_intersection_objects {others : List (String × Node)} {otherKeys : UnknownKeys}
    {otherCatchall : Option Node} {ofLeft ofRight description : Option String}
    (h : Fits ⟨.intersection ⟨.object shape unknownKeys catchall, ofLeft⟩
      ⟨.object others otherKeys otherCatchall, ofRight⟩, description⟩ (some (.object fields))) :
    result ⟨.intersection ⟨.object shape unknownKeys catchall, ofLeft⟩
        ⟨.object others otherKeys otherCatchall, ofRight⟩, description⟩ (some (.object fields))
      = some (.object (mergeFields (objectResult shape unknownKeys catchall fields)
          (objectResult others otherKeys otherCatchall fields))) := by
  rw [result_intersection h, result_object, result_object]
  rfl

theorem keys_declaredResult_sublist :
    ((declaredResult shape fields).map Prod.fst).Sublist (shape.map Prod.fst) := by
  induction shape with
  | nil => exact List.Sublist.slnil
  | cons p rest ih =>
    rw [declaredResult, List.filterMap_cons]
    split
    · exact ih.cons _
    · next hr =>
      obtain ⟨w, -, rfl⟩ := Option.map_eq_some_iff.mp hr
      exact ih.cons_cons _

theorem findField?_declaredResult (hnd : (shape.map Prod.fst).Nodup) {key : String} {node : Node}
    (hp : (key, node) ∈ shape) :
    Json.findField? key (declaredResult shape fields)
      = node.result (Json.findField? key fields) := by
  cases hr : node.result (Json.findField? key fields) with
  | some w =>
    refine Json.findField?_of_mem (hnd.sublist keys_declaredResult_sublist) ?_
    exact List.mem_filterMap.mpr ⟨(key, node), hp, by rw [hr]; rfl⟩
  | none =>
    rw [Json.findField?_eq_none_iff]
    intro hk
    obtain ⟨⟨_, w⟩, hf, rfl⟩ := List.mem_map.mp hk
    obtain ⟨⟨k, n⟩, hq, he⟩ := List.mem_filterMap.mp hf
    obtain ⟨w', hw', he⟩ := Option.map_eq_some_iff.mp he
    cases he
    have hn : n = node := Option.some.inj
      ((Json.findField?_of_mem hnd hq).symm.trans (Json.findField?_of_mem hnd hp))
    rw [hn, hr] at hw'
    cases hw'

theorem exists_mem_of_mem_undeclaredResult {field : String × Json} {others : List (String × Json)}
    (h : field ∈ undeclaredResult unknownKeys catchall others) : ∃ f ∈ others, f.1 = field.1 := by
  cases catchall with
  | some node =>
    obtain ⟨f, hf, hr⟩ := List.mem_filterMap.mp h
    obtain ⟨w, -, rfl⟩ := Option.map_eq_some_iff.mp hr
    exact ⟨f, hf, rfl⟩
  | none =>
    cases unknownKeys with
    | passthrough => exact ⟨field, h, rfl⟩
    | strip | strict => simp [undeclaredResult] at h

theorem not_declared_of_mem_undeclared {α : Type} {declared : List (String × α)}
    {field : String × Json} (h : field ∈ undeclared declared fields) :
    field.1 ∉ declared.map Prod.fst :=
  Json.findField?_isNone_iff.mp (List.mem_filter.mp h).2

/-- **A declared key of a conformed object holds what its node makes of the value at the key.** -/
theorem findField?_objectResult (hnd : (shape.map Prod.fst).Nodup) {key : String} {node : Node}
    (hp : (key, node) ∈ shape) :
    Json.findField? key (objectResult shape unknownKeys catchall fields)
      = node.result (Json.findField? key fields) := by
  have hnone : Json.findField? key
      (undeclaredResult unknownKeys catchall (undeclared shape fields)).reverse = none := by
    rw [Json.findField?_eq_none_iff, List.map_reverse, List.mem_reverse]
    intro hk
    obtain ⟨field, hf, rfl⟩ := List.mem_map.mp hk
    obtain ⟨f, hf, he⟩ := exists_mem_of_mem_undeclaredResult hf
    exact not_declared_of_mem_undeclared hf (he ▸ List.mem_map_of_mem hp)
  rw [objectResult, Json.findField?_sortFields, List.reverse_append, Json.findField?_append, hnone,
    Option.none_or, Json.findField?_reverse (hnd.sublist keys_declaredResult_sublist),
    findField?_declaredResult hnd hp]

/-- What stands at other keys comes from the fields without a declaration. -/
theorem mem_undeclaredResult_of_mem_objectResult {field : String × Json}
    (h : field ∈ objectResult shape unknownKeys catchall fields)
    (hk : field.1 ∉ shape.map Prod.fst) :
    field ∈ undeclaredResult unknownKeys catchall (undeclared shape fields) := by
  rcases List.mem_append.mp (Json.mem_of_mem_sortFields h) with h | h
  · exact absurd (keys_declaredResult_sublist.subset (List.mem_map_of_mem h)) hk
  · exact h

end Node

end DocumentModel
