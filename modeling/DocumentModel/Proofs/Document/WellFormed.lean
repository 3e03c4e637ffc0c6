import DocumentModel.Compile.Model
import DocumentModel.Proofs.Document.Leaves
import DocumentModel.Proofs.Document.Translating
import DocumentModel.Proofs.Schema.WellFormed

/-!
# Documents are written as well-formed values

A document that states nothing but well-formed values is written as one
(`Document.wellFormed_toJson`). The document of a node states the literals of the node, and bounds
that are no numbers do not get into it, so that it is a well-formed value if the literals are
(`Model.wellFormed_of_validator?`).
-/

namespace DocumentModel

/-! ## Writing -/

namespace Document

variable {d : Document}

/-- The values and the numbers that a document states itself are well-formed. -/
structure StatesWellFormed (d : Document) : Prop where
  enumeration : ∀ values ∈ d.enumeration, ∀ v ∈ values, v.WellFormed
  multipleOf : ∀ n ∈ d.multipleOf, (Json.number n).WellFormed
  minimum : ∀ n ∈ d.minimum, (Json.number n).WellFormed
  maximum : ∀ n ∈ d.maximum, (Json.number n).WellFormed

theorem writtenList_eq_map (ds : List Document) : writtenList ds = ds.map written := by
  induction ds with
  | nil => rfl
  | cons d rest ih => rw [writtenList, ih, List.map_cons]

theorem writtenFields_eq_map (ps : List (String × Document)) :
    writtenFields ps = ps.map fun p => (p.1, p.2.written) := by
  induction ps with
  | nil => rfl
  | cons p rest ih => rw [writtenFields, ih, List.map_cons]

/-- A rule without a value writes no field. -/
theorem forall_mem_field?_iff {key : String} {value : Option Json} :
    (∀ f ∈ field? key value, f.2.same f.2 = true) ↔ ∀ v ∈ value, v.same v = true := by
  cases value <;> simp [field?]

theorem same_of_mem_map {α : Type} {o : Option α} {f : α → Json}
    (h : ∀ a ∈ o, (f a).same (f a) = true) : ∀ v ∈ o.map f, v.same v = true := by
  intro v hv
  obtain ⟨a, ha, rfl⟩ := Option.map_eq_some_iff.mp hv
  exact h a ha

/-- A list is written with the values of its entries. -/
theorem same_array_map {α : Type} {l : List α} {f : α → Json}
    (h : ∀ a ∈ l, (f a).same (f a) = true) :
    (Json.array (l.map f)).same (.array (l.map f)) = true := by
  rw [Json.same, Json.sameItems_self_iff]
  exact List.forall_mem_map.mpr h

/-- Types are written as texts, and those equal themselves. -/
theorem same_toJson (types : BsonTypes) : types.toJson.same types.toJson = true := by
  cases types with
  | one type => exact beq_self_eq_true type.name
  | many types => exact same_array_map fun t _ => beq_self_eq_true t.name

/-- What is written for items equals itself when the documents of the items do. -/
theorem same_writtenItems {items : Option (ItemRules Document)}
    (h : ∀ e ∈ (items.map ItemRules.parts).getD [], e.written.same e.written = true) :
    ∀ v ∈ writtenItems items, v.same v = true := by
  rintro v hv
  match items with
  | none => cases hv
  | some (.every d) =>
    cases hv
    exact h d (List.mem_singleton.mpr rfl)
  | some (.each ds) =>
    cases hv
    rw [writtenList_eq_map]
    exact same_array_map h

theorem same_writtenExtra {extra : Option (Extra Document)}
    (h : ∀ e ∈ (extra.map Extra.parts).getD [], e.written.same e.written = true) :
    ∀ v ∈ writtenExtra extra, v.same v = true := by
  rintro v hv
  match extra with
  | none => cases hv
  | some (.allowed b) =>
    cases hv
    exact beq_self_eq_true b
  | some (.schema d) =>
    cases hv
    exact h d (List.mem_singleton.mpr rfl)

/-- What is written for properties equals itself when their documents do. -/
theorem same_writtenProperties {properties : Option (List (String × Document))}
    (h : ∀ e ∈ (properties.getD []).map Prod.snd, e.written.same e.written = true) :
    ∀ v ∈ writtenProperties properties, v.same v = true := by
  rintro v hv
  cases properties with
  | none => cases hv
  | some ps =>
    cases hv
    rw [writtenFields_eq_map, Json.same, Json.sameFields_self_iff]
    exact List.forall_mem_map.mpr (List.forall_mem_map.mp h)

theorem same_writtenDocuments {documents : Option (List Document)}
    (h : ∀ e ∈ documents.getD [], e.written.same e.written = true) :
    ∀ v ∈ writtenDocuments documents, v.same v = true := by
  rintro v hv
  cases documents with
  | none => cases hv
  | some ds =>
    cases hv
    rw [writtenList_eq_map]
    exact same_array_map h

theorem same_writtenSome {document : Option Document}
    (h : ∀ e ∈ document.toList, e.written.same e.written = true) :
    ∀ v ∈ writtenSome document, v.same v = true := by
  rintro v hv
  cases document with
  | none => cases hv
  | some d =>
    cases hv
    exact h d (List.mem_singleton.mpr rfl)

/-- **What a document is written as equals itself**, if what the documents in it state does. -/
theorem same_written (h : d.Throughout StatesWellFormed) : d.written.same d.written = true := by
  induction d using Document.induction with
  | step d ih =>
    have hparts : ∀ e ∈ d.parts, e.written.same e.written = true := fun e he => ih e he (h.part he)
    obtain ⟨henum, hmultiple, hminimum, hmaximum⟩ := h.here
    clear ih h
    simp only [parts, List.forall_mem_append, and_assoc] at hparts
    obtain ⟨hitems, hadditional, hproperties, hextra, hall, hany, hone, hno⟩ := hparts
    have hstring : ∀ s : String, (Json.string s).same (.string s) = true :=
      fun s => beq_self_eq_true s
    have hbool : ∀ b : Bool, (Json.bool b).same (.bool b) = true := fun b => beq_self_eq_true b
    have hnat : ∀ n : Nat, (Json.ofNat n).same (.ofNat n) = true :=
      fun n => beq_self_eq_true (n : Int)
    cases d
    dsimp only at *
    rw [written, Json.same, Json.sameFields_self_iff]
    simp only [List.forall_mem_append, forall_mem_field?_iff, and_assoc]
    exact ⟨same_of_mem_map fun _ _ => hstring _, same_of_mem_map fun _ _ => hstring _,
      same_of_mem_map fun _ _ => same_toJson _,
      same_of_mem_map fun values hv =>
        Json.sameItems_self_iff.mpr fun v hm => (henum values hv v hm).same_self,
      same_of_mem_map fun n hn => (hmultiple n hn).same_self,
      same_of_mem_map fun n hn => (hminimum n hn).same_self,
      same_of_mem_map fun _ _ => hbool _,
      same_of_mem_map fun n hn => (hmaximum n hn).same_self,
      same_of_mem_map fun _ _ => hbool _, same_of_mem_map fun _ _ => hnat _,
      same_of_mem_map fun _ _ => hnat _, same_of_mem_map fun _ _ => hstring _,
      same_writtenItems hitems, same_writtenExtra hadditional,
      same_of_mem_map fun _ _ => hnat _, same_of_mem_map fun _ _ => hnat _,
      same_of_mem_map fun _ _ => hbool _,
      same_of_mem_map fun keys _ => same_array_map fun key _ => hstring key,
      same_writtenProperties hproperties, same_writtenExtra hextra, same_writtenDocuments hall,
      same_writtenDocuments hany, same_writtenDocuments hone, same_writtenSome hno⟩

/-- **A document that states well-formed values is written as a well-formed value.** -/
theorem wellFormed_toJson (h : d.Throughout StatesWellFormed) : d.toJson.WellFormed :=
  Json.wellFormed_sorted (same_written h)

/-- So is the validator that is made of it. -/
theorem wellFormed_validator (h : d.Throughout StatesWellFormed) : d.validator.WellFormed := by
  rw [validator, Json.wellFormed_object_iff]
  exact ⟨List.pairwise_singleton _ _, List.forall_mem_singleton.mpr (wellFormed_toJson h)⟩

/-! ## Building -/

theorem statesWellFormed_ofType (type : BsonType) : (ofType type).StatesWellFormed :=
  ⟨nofun, nofun, nofun, nofun⟩

/-- A document of listed values states these only. -/
theorem statesWellFormed_enumeration {types : Option BsonTypes} {values : List Json}
    (h : ∀ v ∈ values, v.WellFormed) :
    StatesWellFormed { bsonType := types, enumeration := some values } where
  enumeration := by
    rintro _ ⟨⟩
    exact h
  multipleOf := nofun
  minimum := nofun
  maximum := nofun

/-- A description is a text, whatever it says. -/
theorem StatesWellFormed.annotate (h : d.StatesWellFormed) (description : Option String) :
    (d.annotate description).StatesWellFormed := by
  obtain ⟨types, text, hd, -⟩ := exists_annotate_eq description d
  rw [hd]
  exact ⟨h.enumeration, h.multipleOf, h.minimum, h.maximum⟩

/-- Checks on strings state lengths and patterns, which are well-formed. -/
theorem statesWellFormed_ofStringChecks (checks : List StringCheck) :
    (ofStringChecks checks).StatesWellFormed := by
  obtain ⟨least, most, pattern, allOf, hd, -⟩ := exists_ofStringChecks_eq checks
  rw [hd]
  exact ⟨nofun, nofun, nofun, nofun⟩

/-- **A bound that is stated is a number.** -/
theorem wellFormed_of_mem_bound? {value : Binary64} {n : JsonNumber} (h : n ∈ bound? value) :
    (Json.number n).WellFormed := by
  refine ⟨rfl, ?_⟩
  simp only [bound?, Option.mem_def] at h
  split at h
  · obtain ⟨i, -, rfl⟩ := Option.map_eq_some_iff.mp h
    exact beq_self_eq_true i
  · split at h
    · next hfinite =>
      cases h
      cases value with
      | finite negative units => exact beq_self_eq_true (Binary64.signed negative units)
      | infinite negative => cases hfinite
      | nan => cases hfinite
    · cases h

/-- Checks on numbers state numbers, none of which is no number. -/
theorem statesWellFormed_ofNumberChecks (checks : List NumberCheck) :
    (ofNumberChecks checks).StatesWellFormed := by
  rw [ofNumberChecks]
  refine List.foldlRecOn checks withNumberCheck (statesWellFormed_ofType .number)
    fun d hd check _ => ?_
  cases check with
  | int => exact ⟨hd.enumeration, hd.multipleOf, hd.minimum, hd.maximum⟩
  | min value inclusive =>
    exact ⟨hd.enumeration, hd.multipleOf, fun _ => wellFormed_of_mem_bound?, hd.maximum⟩
  | max value inclusive =>
    exact ⟨hd.enumeration, hd.multipleOf, hd.minimum, fun _ => wellFormed_of_mem_bound?⟩
  | multipleOf step =>
    exact ⟨hd.enumeration, fun _ => wellFormed_of_mem_bound?, hd.minimum, hd.maximum⟩

theorem wellFormed_strings (texts : List String) : ∀ v ∈ texts.map Json.string, v.WellFormed :=
  List.forall_mem_map.mpr fun text _ => Json.wellFormed_string text

/-- Leaving out repetitions adds nothing. -/
theorem mem_of_mem_uniqueBy {α : Type} {same : α → α → Bool} {l : List α} {a : α}
    (h : a ∈ uniqueBy same l) : a ∈ l := by
  have hsub : l.foldl (pushUnique same) [] ⊆ l := by
    refine List.foldlRecOn (motive := (· ⊆ l)) l _ (List.nil_subset l) fun kept hkept b hb => ?_
    rw [pushUnique]
    split
    · exact hkept
    · exact List.append_subset.mpr ⟨hkept, List.cons_subset.mpr ⟨hb, List.nil_subset l⟩⟩
  exact hsub h

/-- Alternatives in one document state the values of the alternatives. -/
theorem statesWellFormed_of_collapse? {branches : List Node}
    (hs : ∀ b ∈ branches, b.StatesWellFormed) (h : collapse? branches = some d) :
    d.StatesWellFormed := by
  unfold collapse? at h
  split at h
  · cases h
    exact ⟨nofun, nofun, nofun, nofun⟩
  · split at h
    · next literals hliterals =>
      cases h
      -- the values are the literals of branches
      refine statesWellFormed_enumeration fun v hv => ?_
      obtain ⟨⟨_, type⟩, hm, rfl⟩ := List.mem_map.mp (mem_of_mem_uniqueBy hv)
      obtain ⟨⟨kind, description⟩, hb, he⟩ := (Reading.mem_of_mapM_eq_some hliterals).2 _ hm
      obtain ⟨rfl, -⟩ := Reading.literal?_eq_some he
      exact hs _ hb
    · split at h
      · cases h
        exact statesWellFormed_enumeration
          fun v hv => wellFormed_strings _ v (mem_of_mem_uniqueBy hv)
      · cases h

/-- **What a node states in its document is well-formed, if its literals are.** -/
theorem builds_statesWellFormed : Builds StatesWellFormed Node.StatesWellFormed where
  annotate description _ h := h.annotate description
  empty := ⟨nofun, nofun, nofun, nofun⟩
  nothing := ⟨nofun, nofun, nofun, nofun⟩
  ofType := statesWellFormed_ofType
  pattern _ := ⟨nofun, nofun, nofun, nofun⟩
  string checks _ _ := statesWellFormed_ofStringChecks checks
  number checks _ _ := statesWellFormed_ofNumberChecks checks
  literal _ _ h := statesWellFormed_enumeration (List.forall_mem_singleton.mpr h)
  enumeration values _ _ := statesWellFormed_enumeration (wellFormed_strings values)
  nativeEnum members _ _ := by
    refine statesWellFormed_enumeration (List.forall_mem_map.mpr fun m _ => ?_)
    cases m.value with
    | string text => exact Json.wellFormed_string text
    | number i => exact Json.wellFormed_integer i
  object _ _ _ _ _ _ _ _ := ⟨nofun, nofun, nofun, nofun⟩
  record _ := ⟨nofun, nofun, nofun, nofun⟩
  list _ _ := ⟨nofun, nofun, nofun, nofun⟩
  set _ _ := ⟨nofun, nofun, nofun, nofun⟩
  tuple _ rest := by cases rest <;> exact ⟨nofun, nofun, nofun, nofun⟩
  pair _ _ := ⟨nofun, nofun, nofun, nofun⟩
  map _ _ := ⟨nofun, nofun, nofun, nofun⟩
  collapsed _ _ _ hs _ _ hd := statesWellFormed_of_collapse? hs hd
  anyOf _ _ := ⟨nofun, nofun, nofun, nofun⟩
  allOf _ _ := ⟨nofun, nofun, nofun, nofun⟩
  nullable h := ⟨h.enumeration, h.multipleOf, h.minimum, h.maximum⟩

end Document

/-! ## Models -/

/-- **The validator of a model is a well-formed value**, if the literals of its node are. -/
theorem Model.wellFormed_of_validator? {m : Model} {validator : Json}
    (hn : m.node.Throughout Node.StatesWellFormed) (h : m.validator? = .ok validator) :
    validator.WellFormed := by
  obtain ⟨d, hd, rfl⟩ := map_eq_ok_iff.mp h
  rw [document?] at hd
  cases ht : m.node.titledDocument? none with
  | error e =>
    rw [ht] at hd
    cases hd
  | ok e =>
    rw [ht] at hd
    cases hd
    obtain ⟨_, hd, rfl⟩ := map_eq_ok_iff.mp ht
    exact Document.wellFormed_validator
      (Node.throughout_of_document? Document.builds_statesWellFormed hn.translated hd)

end DocumentModel
