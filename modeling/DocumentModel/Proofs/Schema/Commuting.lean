import DocumentModel.Proofs.Schema.WellFormed

/-!
# Intersections in either order

The two orders of an intersection accept the same values (`Node.fits_intersection_comm`). What they
conform a value to is a union of two objects in which the left side counts: where both sides make
something of one key, the orders agree only if it is the same (`Node.parse_intersection_comm_iff`).
Nothing refuses two different results at a key, although two different results that are no objects
are refused.
-/

namespace DocumentModel

/-! ## Uniting two results -/

theorem sameResult_comm {a b : Option Json} : sameResult a b = sameResult b a := by
  cases a <;> cases b <;> simp [sameResult, Json.same_comm]

/-- Two results can be united when both are objects, or when they are equal. -/
theorem issues_mergeResults_iff {a b : Option Json} {path : String} :
    (mergeResults a b path).issues = []
      ↔ (∃ x y, a = some (.object x) ∧ b = some (.object y)) ∨ sameResult a b = true := by
  unfold mergeResults
  split
  · next x y => exact iff_of_true rfl (Or.inl ⟨x, y, rfl, rfl⟩)
  · next hne =>
    rw [Outcome.issues_ite]
    constructor
    · exact Or.inr
    · rintro (⟨x, y, rfl, rfl⟩ | hsame)
      · exact absurd rfl (hne x y rfl)
      · exact hsame

theorem issues_mergeResults_comm {a b : Option Json} {path : String} :
    (mergeResults a b path).issues = [] ↔ (mergeResults b a path).issues = [] := by
  rw [issues_mergeResults_iff, issues_mergeResults_iff, sameResult_comm]
  refine or_congr_left ?_
  constructor
  · rintro ⟨x, y, ha, hb⟩
    exact ⟨y, x, hb, ha⟩
  · rintro ⟨y, x, hb, ha⟩
    exact ⟨x, y, ha, hb⟩

/-- The values agree at every key that both have. -/
def Json.AgreesWith (a b : Json) : Prop :=
  ∀ key x y, a.field? key = some x → b.field? key = some y → x.same y = true

/-- **Uniting objects in either order yields equal objects exactly if they agree.** -/
theorem same_mergeFields_iff {a b : List (String × Json)} (ha : Json.WellFormed (.object a))
    (hb : Json.WellFormed (.object b)) :
    (Json.object (mergeFields a b)).same (.object (mergeFields b a)) = true
      ↔ Json.AgreesWith (.object a) (.object b) := by
  rw [Json.wellFormed_object_iff] at ha hb
  rw [Json.same_object_iff (ascending_mergeFields ha.1 b) (ascending_mergeFields hb.1 a)]
  refine forall_congr' fun key => ?_
  rw [findField?_mergeFields, findField?_mergeFields]
  show _ ↔ ∀ x y, Json.findField? key a = some x → Json.findField? key b = some y → _
  have hself : ∀ fields : List (String × Json), (∀ f ∈ fields, f.2.WellFormed) →
      ∀ v, Json.findField? key fields = some v → v.same v = true := by
    intro fields h v hv
    exact (h (key, v) (Json.mem_of_findField? hv)).same_self
  cases hx : Json.findField? key a with
  | none =>
    cases hy : Json.findField? key b with
    | none => exact iff_of_true .none nofun
    | some y => exact iff_of_true (.some (hself b hb.2 y hy)) nofun
  | some x =>
    cases hy : Json.findField? key b with
    | none => exact iff_of_true (.some (hself a ha.2 x hx)) nofun
    | some y =>
      constructor
      · rintro ⟨hsame⟩ _ _ ⟨⟩ ⟨⟩
        exact hsame
      · intro h
        exact .some (h x y rfl rfl)

/-- Two objects are united, and of two equal values that are no objects the left one is taken. -/
theorem cases_mergeResults {a b out : Json} {path : String}
    (hi : (mergeResults (some a) (some b) path).issues = [])
    (hv : (mergeResults (some a) (some b) path).value = some out) :
    (∃ x y, a = .object x ∧ b = .object y ∧ out = .object (mergeFields x y))
      ∨ a.same b = true ∧ out = a ∧ ∀ fields, a ≠ .object fields := by
  rcases value_mergeResults hi with ⟨x, y, hx, hy, hunited⟩ | hleft
  · cases hx
    cases hy
    exact Or.inl ⟨x, y, rfl, rfl, Option.some.inj (hv.symm.trans hunited)⟩
  · rcases issues_mergeResults_iff.mp hi with ⟨x, y, hx, hy⟩ | hsame
    · cases hx
      cases hy
      exact Or.inl ⟨x, y, rfl, rfl, (Option.some.inj hv).symm⟩
    · have hsame : a.same b = true := hsame
      cases a with
      | object x =>
        cases b with
        | object y => exact Or.inl ⟨x, y, rfl, rfl, (Option.some.inj hv).symm⟩
        | _ => cases hsame
      | _ => exact Or.inr ⟨hsame, Option.some.inj (hv.symm.trans hleft), nofun⟩

theorem Json.field?_eq_none {a : Json} (h : ∀ fields, a ≠ .object fields) (key : String) :
    a.field? key = none := by
  cases a with
  | object fields => exact absurd rfl (h fields)
  | _ => rfl

/-- **Of what two sides have at a key, the left one is kept.** -/
theorem field?_of_mergeResults {a b out : Json} {path : String}
    (hi : (mergeResults (some a) (some b) path).issues = [])
    (hv : (mergeResults (some a) (some b) path).value = some out) (key : String) :
    out.field? key = (a.field? key).or (b.field? key) := by
  rcases cases_mergeResults hi hv with ⟨x, y, rfl, rfl, rfl⟩ | ⟨hsame, rfl, hne⟩
  · exact findField?_mergeFields x y key
  · have hne' : ∀ fields, b ≠ .object fields := by
      rintro fields rfl
      cases out with
      | object x => exact hne x rfl
      | _ => cases hsame
    rw [Json.field?_eq_none hne, Json.field?_eq_none hne', Option.none_or]

theorem same_of_mergeResults_iff {a b out out' : Json} (ha : a.WellFormed) (hb : b.WellFormed)
    {path : String} (hi : (mergeResults (some a) (some b) path).issues = [])
    (hv : (mergeResults (some a) (some b) path).value = some out)
    (hi' : (mergeResults (some b) (some a) path).issues = [])
    (hv' : (mergeResults (some b) (some a) path).value = some out') :
    out.same out' = true ↔ a.AgreesWith b := by
  rcases cases_mergeResults hi hv with ⟨x, y, rfl, rfl, rfl⟩ | ⟨hsame, rfl, hne⟩
  · cases hv'
    exact same_mergeFields_iff ha hb
  · rcases cases_mergeResults hi' hv' with ⟨y, x, rfl, rfl, -⟩ | ⟨-, rfl, -⟩
    · exact absurd rfl (hne x)
    · refine iff_of_true hsame fun key x y hx => ?_
      rw [Json.field?_eq_none hne] at hx
      cases hx

namespace Node

variable {left right : Node} {description description' : Option String} {v : Json}

/-! ## Both orders -/

/-- **The orders of an intersection accept the same values.** -/
theorem fits_intersection_comm {v : Option Json} :
    Fits ⟨.intersection left right, description⟩ v
      ↔ Fits ⟨.intersection right left, description'⟩ v := by
  rw [fits_intersection, fits_intersection]
  refine exists_congr fun x => and_congr_right fun _ => ?_
  rw [issues_mergeResults_comm]
  tauto

/-- What an intersection parses a value to is united from what its sides parse it to. -/
theorem exists_of_parse_intersection {out : Json}
    (h : parse ⟨.intersection left right, description⟩ v = .ok out) :
    ∃ a b, left.parse v = .ok a ∧ right.parse v = .ok b
      ∧ (mergeResults (some a) (some b) "").issues = []
      ∧ (mergeResults (some a) (some b) "").value = some out := by
  obtain ⟨hf, hw⟩ := parse_eq_ok_iff_result.mp h
  obtain ⟨_, -, hfl, hfr, hm⟩ := fits_intersection.mp hf
  rw [result_intersection hf] at hw
  obtain ⟨a, ha⟩ := Option.isSome_iff_exists.mp (isSome_result left hfl)
  obtain ⟨b, hb⟩ := Option.isSome_iff_exists.mp (isSome_result right hfr)
  rw [ha, hb] at hm hw
  exact ⟨a, b, parse_eq_ok_iff_result.mpr ⟨hfl, ha⟩, parse_eq_ok_iff_result.mpr ⟨hfr, hb⟩, hm, hw⟩

/-- **An intersection fails in one order exactly if it fails in the other**, and where it does not,
its results are those of both sides at every key, with the left side first. So the two results are
equal exactly if both sides agree at all keys that they share. -/
theorem parse_intersection_comm_iff (hl : left.Throughout StatesWellFormed)
    (hr : right.Throughout StatesWellFormed) (hv : v.WellFormed) :
    ((∃ out, parse ⟨.intersection left right, description⟩ v = .ok out)
      ↔ ∃ out, parse ⟨.intersection right left, description'⟩ v = .ok out)
    ∧ ∀ out out', parse ⟨.intersection left right, description⟩ v = .ok out →
      parse ⟨.intersection right left, description'⟩ v = .ok out' →
      ∃ a b, left.parse v = .ok a ∧ right.parse v = .ok b
        ∧ (∀ key, out.field? key = (a.field? key).or (b.field? key))
        ∧ (∀ key, out'.field? key = (b.field? key).or (a.field? key))
        ∧ (out.same out' = true ↔ a.AgreesWith b) := by
  constructor
  · have hparse : ∀ n : Node, (∃ out, n.parse v = .ok out) ↔ n.Fits (some v) := by
      intro n
      constructor
      · rintro ⟨out, h⟩
        exact (parse_eq_ok_iff.mp h).1
      · intro hf
        exact ⟨_, parse_eq_ok_iff.mpr ⟨hf, rfl⟩⟩
    rw [hparse, hparse]
    exact fits_intersection_comm
  · intro out out' h h'
    obtain ⟨a, b, ha, hb, hi, hout⟩ := exists_of_parse_intersection h
    obtain ⟨b', a', hb', ha', hi', hout'⟩ := exists_of_parse_intersection h'
    cases hb.symm.trans hb'
    cases ha.symm.trans ha'
    have hwa : a.WellFormed := wellFormed_of_parse hl hv ha
    have hwb : b.WellFormed := wellFormed_of_parse hr hv hb
    exact ⟨a, b, ha, hb, field?_of_mergeResults hi hout, field?_of_mergeResults hi' hout',
      same_of_mergeResults_iff hwa hwb hi hout hi' hout'⟩

/-- A label that is trimmed. -/
def trimmedLabel : Node := ofShape [("label", ofKind (.string [.trim]))]

/-- A label as it is. -/
def rawLabel : Node := ofShape [("label", string)]

/-- A label with white space before it. -/
def paddedLabel : Json := .object [("label", .string " x")]

theorem parse_trimmed_then_raw :
    parse (ofKind (.intersection trimmedLabel rawLabel)) paddedLabel
      = .ok (.object [("label", .string "x")]) :=
  have hfits : (ofKind (.intersection trimmedLabel rawLabel)).Fits (some paddedLabel) := by
    decide +kernel
  parse_eq_ok_iff_result.mpr ⟨hfits, (result_intersection_objects hfits).trans rfl⟩

theorem parse_raw_then_trimmed :
    parse (ofKind (.intersection rawLabel trimmedLabel)) paddedLabel = .ok paddedLabel :=
  have hfits : (ofKind (.intersection rawLabel trimmedLabel)).Fits (some paddedLabel) := by
    decide +kernel
  parse_eq_ok_iff_result.mpr ⟨hfits, (result_intersection_objects hfits).trans rfl⟩

/-- **The side that comes first decides whether a label is trimmed.** -/
theorem intersection_of_labels_not_comm :
    parse (ofKind (.intersection trimmedLabel rawLabel)) paddedLabel
        = .ok (.object [("label", .string "x")])
      ∧ parse (ofKind (.intersection rawLabel trimmedLabel)) paddedLabel = .ok paddedLabel
      ∧ (Json.object [("label", .string "x")]).same paddedLabel = false :=
  ⟨parse_trimmed_then_raw, parse_raw_then_trimmed, by decide⟩

theorem parse_intersection_comm_iff_labels :
    trimmedLabel.Throughout StatesWellFormed ∧ rawLabel.Throughout StatesWellFormed
    ∧ paddedLabel.WellFormed
    ∧ ∃ a b, trimmedLabel.parse paddedLabel = .ok a ∧ rawLabel.parse paddedLabel = .ok b
      ∧ ¬ a.AgreesWith b := by
  have htrimmed : trimmedLabel.Throughout StatesWellFormed := by
    simp [trimmedLabel, ofShape, ofKind, Throughout.mk_iff, StatesWellFormed, NodeKind.parts]
  have hraw : rawLabel.Throughout StatesWellFormed := by
    simp [rawLabel, ofShape, ofKind, string, Throughout.mk_iff, StatesWellFormed, NodeKind.parts]
  have hv : paddedLabel.WellFormed := by
    refine Json.wellFormed_object_iff.mpr ⟨List.pairwise_singleton _ _, ?_⟩
    exact List.forall_mem_singleton.mpr (Json.wellFormed_string " x")
  obtain ⟨a, b, ha, hb, -, -, hiff⟩ :=
    (parse_intersection_comm_iff htrimmed hraw hv).2 _ _ parse_trimmed_then_raw
      parse_raw_then_trimmed
  refine ⟨htrimmed, hraw, hv, a, b, ha, hb, fun hagree => ?_⟩
  have hsame := hiff.mpr hagree
  have hdiffer : (Json.object [("label", .string "x")]).same paddedLabel = false := by decide
  rw [hdiffer] at hsame
  cases hsame

end Node

end DocumentModel
