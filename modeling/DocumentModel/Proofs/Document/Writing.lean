import DocumentModel.Proofs.Document.Rules

/-!
# Documents and the values they are written as

Where a rule leaves a choice, what it is written as tells what was chosen: a document for all items
is an object and documents for the first items are a list, and a document for what is beyond the
declared part is no truth value. So the values of two documents are equal exactly if the documents
are (`Document.toJson_same_iff`), which needs all lists of fields in the order of their keys;
documents of nodes have them so (`Node.inOrder_of_document?`).
-/

namespace DocumentModel

namespace Document

variable {d e : Document}

/-! ## Comparing documents inside rules -/

/-- The values of two documents are equal exactly if the documents are. -/
def Faithful (d e : Document) : Prop := d.toJson.same e.toJson = true ↔ d.same e = true

theorem exists_toJson_eq (d : Document) : ∃ fields, d.toJson = .object fields :=
  ⟨_, congrArg Json.sorted d.written_eq⟩

theorem sorted_writtenList (ds : List Document) :
    (Json.array (writtenList ds)).sorted = .array (ds.map toJson) := by
  rw [Json.sorted, Json.sortedItems_eq_map, writtenList_eq_map, List.map_map]
  rfl

/-- Lists of documents are compared one by one. -/
theorem sameList_iff {ds es : List Document} :
    sameList ds es = true ↔ List.Forall₂ (fun d e => d.same e = true) ds es := by
  induction ds generalizing es with
  | nil => cases es <;> simp [sameList]
  | cons d ds ih =>
    cases es with
    | nil => simp [sameList]
    | cons e es => rw [sameList, Bool.and_eq_true, ih, List.forall₂_cons]

/-- They are written alike when their documents are. -/
theorem same_writtenList_iff {ds es : List Document} (h : ∀ d ∈ ds, ∀ e ∈ es, Faithful d e) :
    (Json.array (writtenList ds)).sorted.same (Json.array (writtenList es)).sorted = true
      ↔ sameList ds es = true := by
  rw [sorted_writtenList, sorted_writtenList, Json.same, sameList_iff]
  exact Json.sameItems_map_iff h

theorem same_toJson_array_eq_false (d : Document) (items : List Json) :
    d.toJson.same (.array items) = false ∧ (Json.array items).same d.toJson = false := by
  obtain ⟨fields, h⟩ := exists_toJson_eq d
  rw [h]
  exact ⟨rfl, rfl⟩

/-- One document is an object and several ones a list. -/
theorem agree_items_iff {x y : Option (ItemRules Document)}
    (h : ∀ d ∈ (x.map ItemRules.parts).getD [],
      ∀ e ∈ (y.map ItemRules.parts).getD [], Faithful d e) :
    Agree (writtenItems x) (writtenItems y) ↔ sameItems x y = true := by
  match x, y with
  | none, none => exact iff_of_true agree_none rfl
  | none, some (.every _) | none, some (.each _) => exact iff_of_false not_agree_none_some nofun
  | some (.every _), none | some (.each _), none => exact iff_of_false not_agree_some_none nofun
  | some (.every d), some (.every e) =>
    exact agree_some_iff.trans (h d List.mem_cons_self e List.mem_cons_self)
  | some (.each ds), some (.each es) => exact agree_some_iff.trans (same_writtenList_iff h)
  | some (.every d), some (.each es) =>
    refine iff_of_false (fun hagree => ?_) nofun
    have hsame : d.toJson.same _ = true := agree_some_iff.mp hagree
    rw [sorted_writtenList, (same_toJson_array_eq_false d _).1] at hsame
    cases hsame
  | some (.each ds), some (.every e) =>
    refine iff_of_false (fun hagree => ?_) nofun
    have hsame : Json.same _ e.toJson = true := agree_some_iff.mp hagree
    rw [sorted_writtenList, (same_toJson_array_eq_false e _).2] at hsame
    cases hsame

/-- A document is an object and not a truth value. -/
theorem agree_extra_iff {x y : Option (Extra Document)}
    (h : ∀ d ∈ (x.map Extra.parts).getD [], ∀ e ∈ (y.map Extra.parts).getD [], Faithful d e) :
    Agree (writtenExtra x) (writtenExtra y) ↔ sameExtra x y = true := by
  match x, y with
  | none, none => exact iff_of_true agree_none rfl
  | none, some (.allowed _) | none, some (.schema _) =>
    exact iff_of_false not_agree_none_some nofun
  | some (.allowed _), none | some (.schema _), none =>
    exact iff_of_false not_agree_some_none nofun
  | some (.allowed a), some (.allowed b) => exact agree_some_iff
  | some (.schema d), some (.schema e) =>
    exact agree_some_iff.trans (h d List.mem_cons_self e List.mem_cons_self)
  | some (.allowed a), some (.schema e) =>
    refine iff_of_false (fun hagree => ?_) nofun
    have hsame : (Json.bool a).same e.toJson = true := agree_some_iff.mp hagree
    obtain ⟨fields, he⟩ := exists_toJson_eq e
    rw [he] at hsame
    cases hsame
  | some (.schema d), some (.allowed b) =>
    refine iff_of_false (fun hagree => ?_) nofun
    have hsame : d.toJson.same (.bool b) = true := agree_some_iff.mp hagree
    obtain ⟨fields, hd⟩ := exists_toJson_eq d
    rw [hd] at hsame
    cases hsame

/-- Alternatives agree as lists of documents. -/
theorem agree_documents_iff {x y : Option (List Document)}
    (h : ∀ d ∈ x.getD [], ∀ e ∈ y.getD [], Faithful d e) :
    Agree (writtenDocuments x) (writtenDocuments y) ↔ sameDocuments x y = true := by
  match x, y with
  | none, none => exact iff_of_true agree_none rfl
  | none, some _ => exact iff_of_false not_agree_none_some nofun
  | some _, none => exact iff_of_false not_agree_some_none nofun
  | some ds, some es => exact agree_some_iff.trans (same_writtenList_iff h)

theorem agree_no_iff {x y : Option Document} (h : ∀ d ∈ x.toList, ∀ e ∈ y.toList, Faithful d e) :
    Agree (writtenSome x) (writtenSome y) ↔ sameSome x y = true := by
  match x, y with
  | none, none => exact iff_of_true agree_none rfl
  | none, some _ => exact iff_of_false not_agree_none_some nofun
  | some _, none => exact iff_of_false not_agree_some_none nofun
  | some d, some e => exact agree_some_iff.trans (h d List.mem_cons_self e List.mem_cons_self)

/-- Properties in the order of their keys are written in that order. -/
theorem sorted_writtenFields {ps : List (String × Document)} (h : Json.Ascending ps) :
    (Json.object (writtenFields ps)).sorted = .object (ps.map fun p => (p.1, p.2.toJson)) := by
  have hmap : Json.sortedFields (writtenFields ps) = ps.map fun p => (p.1, p.2.toJson) := by
    rw [Json.sortedFields_eq_map, writtenFields_eq_map, List.map_map]
    rfl
  have hasc : Json.Ascending (ps.map fun p => (p.1, p.2.toJson)) := List.pairwise_map.mpr h
  rw [Json.sorted, hmap, Json.sortFields_eq hasc fun _ => Iff.rfl]

/-- Properties are written alike when their names are equal and their documents are written
alike. -/
theorem same_writtenFields_iff {ps qs : List (String × Document)}
    (h : ∀ d ∈ ps.map Prod.snd, ∀ e ∈ qs.map Prod.snd, Faithful d e) :
    Json.sameFields (ps.map fun p => (p.1, p.2.toJson)) (qs.map fun p => (p.1, p.2.toJson)) = true
      ↔ sameFields ps qs = true := by
  induction ps generalizing qs with
  | nil => cases qs <;> simp [Json.sameFields, sameFields]
  | cons p ps ih =>
    cases qs with
    | nil => simp [Json.sameFields, sameFields]
    | cons q qs =>
      obtain ⟨k, d⟩ := p
      obtain ⟨l, e⟩ := q
      have hhere : d.toJson.same e.toJson = true ↔ d.same e = true :=
        h d List.mem_cons_self e List.mem_cons_self
      have hrest := ih fun d hd e he =>
        h d (List.mem_cons_of_mem _ hd) e (List.mem_cons_of_mem _ he)
      rw [List.map_cons, List.map_cons, Json.sameFields, sameFields, Bool.and_eq_true,
        Bool.and_eq_true, Bool.and_eq_true, Bool.and_eq_true, hrest, hhere]

/-- Properties agree when they are the same, since both are in the order of their names. -/
theorem agree_properties_iff {x y : Option (List (String × Document))}
    (hx : ∀ ps ∈ x, Json.Ascending ps) (hy : ∀ ps ∈ y, Json.Ascending ps)
    (h : ∀ d ∈ (x.getD []).map Prod.snd, ∀ e ∈ (y.getD []).map Prod.snd, Faithful d e) :
    Agree (writtenProperties x) (writtenProperties y) ↔ sameProperties x y = true := by
  match x, y with
  | none, none => exact iff_of_true agree_none rfl
  | none, some _ => exact iff_of_false not_agree_none_some nofun
  | some _, none => exact iff_of_false not_agree_some_none nofun
  | some ps, some qs =>
    refine agree_some_iff.trans ?_
    rw [sorted_writtenFields (hx ps rfl), sorted_writtenFields (hy qs rfl), Json.same]
    exact same_writtenFields_iff h

/-! ## Comparing documents -/

/-- A document holds its properties sorted by key, and the objects in its values their fields. -/
structure InOrder (d : Document) : Prop where
  enumeration : ∀ values ∈ d.enumeration, ∀ v ∈ values, v.sorted = v
  properties : ∀ ps ∈ d.properties, Json.Ascending ps

/-- Documents are compared rule by rule. -/
theorem same_iff : d.same e = true ↔
    d.title = e.title ∧ d.description = e.description ∧ d.bsonType = e.bsonType
    ∧ sameOption Json.sameItems d.enumeration e.enumeration = true
    ∧ sameOption JsonNumber.same d.multipleOf e.multipleOf = true
    ∧ sameOption JsonNumber.same d.minimum e.minimum = true
    ∧ d.exclusiveMinimum = e.exclusiveMinimum
    ∧ sameOption JsonNumber.same d.maximum e.maximum = true
    ∧ d.exclusiveMaximum = e.exclusiveMaximum
    ∧ d.minLength = e.minLength ∧ d.maxLength = e.maxLength ∧ d.pattern = e.pattern
    ∧ sameItems d.items e.items = true ∧ sameExtra d.additionalItems e.additionalItems = true
    ∧ d.minItems = e.minItems ∧ d.maxItems = e.maxItems ∧ d.uniqueItems = e.uniqueItems
    ∧ d.required = e.required ∧ sameProperties d.properties e.properties = true
    ∧ sameExtra d.additionalProperties e.additionalProperties = true
    ∧ sameDocuments d.allOf e.allOf = true ∧ sameDocuments d.anyOf e.anyOf = true
    ∧ sameDocuments d.oneOf e.oneOf = true ∧ sameSome d.no e.no = true := by
  cases d
  rw [same]
  simp only [Bool.and_eq_true, beq_iff_eq, and_assoc]

/-- **Documents are written alike exactly if they are the same.** -/
theorem toJson_same_iff (hd : d.Throughout InOrder) (he : e.Throughout InOrder) :
    d.toJson.same e.toJson = true ↔ d.same e = true := by
  induction d using Document.induction generalizing e with
  | step d ih =>
    have hparts : ∀ {ds es : List Document}, ds ⊆ d.parts → es ⊆ e.parts →
        ∀ d' ∈ ds, ∀ e' ∈ es, Faithful d' e' := fun hds hes d' hd' e' he' =>
      ih d' (hds hd') (hd.part (hds hd')) (he.part (hes he'))
    obtain ⟨hitems, hadditional, hproperties, hextra, hall, hany, hone, hno⟩ := subset_parts d
    obtain ⟨hitems', hadditional', hproperties', hextra', hall', hany', hone', hno'⟩ :=
      subset_parts e
    have hk : d.rules.map Prod.fst = e.rules.map Prod.fst := rfl
    rw [toJson, toJson, written_eq, written_eq, same_present_iff hk (nodup_keys_rules d), same_iff]
    simp only [rules, List.forall₂_cons, List.forall₂_nil_left_iff, and_true]
    exact and_congr agree_strings_iff <|
      and_congr agree_strings_iff <|
      and_congr (agree_map_iff_eq same_toJson_iff) <|
      and_congr (agree_enumeration_iff hd.here.enumeration he.here.enumeration) <|
      and_congr agree_numbers_iff <|
      and_congr agree_numbers_iff <|
      and_congr agree_bools_iff <|
      and_congr agree_numbers_iff <|
      and_congr agree_bools_iff <|
      and_congr agree_lengths_iff <|
      and_congr agree_lengths_iff <|
      and_congr agree_strings_iff <|
      and_congr (agree_items_iff (hparts hitems hitems')) <|
      and_congr (agree_extra_iff (hparts hadditional hadditional')) <|
      and_congr agree_lengths_iff <|
      and_congr agree_lengths_iff <|
      and_congr agree_bools_iff <|
      and_congr agree_required_iff <|
      and_congr (agree_properties_iff hd.here.properties he.here.properties
        (hparts hproperties hproperties')) <|
      and_congr (agree_extra_iff (hparts hextra hextra')) <|
      and_congr (agree_documents_iff (hparts hall hall')) <|
      and_congr (agree_documents_iff (hparts hany hany')) <|
      and_congr (agree_documents_iff (hparts hone hone')) <|
      agree_no_iff (hparts hno hno')

/-- A type is not written as the list of that type alone. -/
example : (typed (.one .string)).toJson.same (typed (.many [.string])).toJson = false := rfl

/-! ## Documents without rules -/

theorem writtenItems_eq_none_iff {items : Option (ItemRules Document)} :
    writtenItems items = none ↔ items = none := by
  match items with
  | none | some (.every _) | some (.each _) => simp [writtenItems]

theorem writtenExtra_eq_none_iff {extra : Option (Extra Document)} :
    writtenExtra extra = none ↔ extra = none := by
  match extra with
  | none | some (.allowed _) | some (.schema _) => simp [writtenExtra]

theorem writtenProperties_eq_none_iff {properties : Option (List (String × Document))} :
    writtenProperties properties = none ↔ properties = none := by
  cases properties <;> simp [writtenProperties]

theorem writtenDocuments_eq_none_iff {documents : Option (List Document)} :
    writtenDocuments documents = none ↔ documents = none := by
  cases documents <;> simp [writtenDocuments]

theorem writtenSome_eq_none_iff {document : Option Document} :
    writtenSome document = none ↔ document = none := by
  cases document <;> simp [writtenSome]

theorem isEmpty_of_rules (h : ∀ r ∈ d.rules, r.2 = none) : d.isEmpty = true := by
  cases d
  simp only [rules, List.forall_mem_cons, Option.map_eq_none_iff, writtenItems_eq_none_iff,
    writtenExtra_eq_none_iff, writtenProperties_eq_none_iff, writtenDocuments_eq_none_iff,
    writtenSome_eq_none_iff] at h
  obtain ⟨rfl, rfl, rfl, rfl, rfl, rfl, rfl, rfl, rfl, rfl, rfl, rfl, rfl, rfl, rfl, rfl, rfl, rfl,
    rfl, rfl, rfl, rfl, rfl, rfl, -⟩ := h
  rfl

/-- Only a document without rules is written as the empty object. -/
theorem toJson_eq_empty_iff : d.toJson = .object [] ↔ d.isEmpty = true := by
  constructor
  · intro h
    rw [toJson, written_eq, Json.sorted, Json.object.injEq, Json.sortFields_eq_nil_iff,
      Json.sortedFields_eq_map, List.map_eq_nil_iff, present_eq_nil_iff] at h
    exact isEmpty_of_rules h
  · intro h
    rw [eq_empty_of_isEmpty h]
    rfl

/-- A document without rules is the one that is the same as `{}`. -/
theorem isEmpty_eq_same (hd : d.Throughout InOrder) : d.isEmpty = d.same {} := by
  have hempty : ({} : Document).Throughout InOrder := throughout_of_parts_eq_nil rfl ⟨nofun, nofun⟩
  obtain ⟨fields, hfields⟩ := exists_toJson_eq d
  have hsame : d.toJson.same (.object []) = true ↔ d.toJson = .object [] := by
    rw [hfields, Json.same, Json.object.injEq]
    cases fields <;> simp [Json.sameFields]
  rw [Bool.eq_iff_iff, ← toJson_eq_empty_iff, ← toJson_same_iff hd hempty, ← hsame]
  exact Iff.rfl

/-! ## Documents of nodes -/

/-- Where no properties are declared, well-formed values are all that is asked for. -/
theorem StatesWellFormed.inOrder (h : d.StatesWellFormed) (hp : d.properties = none) :
    d.InOrder where
  enumeration values hv v hm := (h.enumeration values hv v hm).sorted
  properties ps hps := by
    rw [hp] at hps
    cases hps

/-- What is built for a node is in order, if the literals of the node are. -/
theorem builds_inOrder : Builds InOrder Node.StatesWellFormed where
  annotate description d h := by
    obtain ⟨types, text, hd, -⟩ := exists_annotate_eq description d
    rw [hd]
    exact ⟨h.enumeration, h.properties⟩
  empty := builds_statesWellFormed.empty.inOrder rfl
  nothing := builds_statesWellFormed.nothing.inOrder rfl
  ofType type := (builds_statesWellFormed.ofType type).inOrder rfl
  pattern pattern := (builds_statesWellFormed.pattern pattern).inOrder rfl
  string checks description h := by
    refine (builds_statesWellFormed.string checks description h).inOrder ?_
    obtain ⟨least, most, pattern, allOf, hd, -⟩ := exists_ofStringChecks_eq checks
    rw [hd]
  number checks description h := by
    refine (builds_statesWellFormed.number checks description h).inOrder ?_
    obtain ⟨_, _, _, _, _, _, hd, -⟩ := exists_ofNumberChecks_eq checks
    rw [hd]
  literal value description h := (builds_statesWellFormed.literal value description h).inOrder rfl
  enumeration values description h :=
    (builds_statesWellFormed.enumeration values description h).inOrder rfl
  nativeEnum members description h :=
    (builds_statesWellFormed.nativeEnum members description h).inOrder rfl
  object shape unknownKeys catchall description h properties extra hk := by
    have hs := builds_statesWellFormed.object shape unknownKeys catchall description h properties
      extra hk
    by_cases he : properties.isEmpty = true
    · exact hs.inOrder (if_pos he)
    · have hsome : (ofObject shape properties unknownKeys extra).properties
          = some (Json.sortFields properties) := if_neg he
      refine ⟨fun values hv v hm => (hs.enumeration values hv v hm).sorted, fun ps hps => ?_⟩
      cases hsome.symm.trans hps
      exact Json.ascending_sortFields properties
  record item := (builds_statesWellFormed.record item).inOrder rfl
  list element bounds := (builds_statesWellFormed.list element bounds).inOrder rfl
  set element bounds := (builds_statesWellFormed.set element bounds).inOrder rfl
  tuple items rest := (builds_statesWellFormed.tuple items rest).inOrder (by cases rest <;> rfl)
  pair key item := (builds_statesWellFormed.pair key item).inOrder rfl
  map key item := (builds_statesWellFormed.map key item).inOrder rfl
  collapsed branches description h hs hne d hd := by
    refine (builds_statesWellFormed.collapsed branches description h hs hne hd).inOrder ?_
    obtain ⟨types, values, rfl⟩ := exists_eq_of_collapse? hd
    rfl
  anyOf first rest := (builds_statesWellFormed.anyOf first rest).inOrder rfl
  allOf left right := (builds_statesWellFormed.allOf left right).inOrder rfl
  nullable h := ⟨h.enumeration, h.properties⟩

end Document

/-- **The document of a node is in order**, if the values that the node states are. -/
theorem Node.inOrder_of_document? {n : Node} {d : Document}
    (hn : n.Throughout Node.StatesWellFormed) (h : n.document? = .ok d) :
    d.Throughout Document.InOrder :=
  throughout_of_document? Document.builds_inOrder hn.translated h

end DocumentModel
