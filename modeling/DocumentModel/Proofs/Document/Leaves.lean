import DocumentModel.Proofs.Document.Accepting
import DocumentModel.Proofs.Schema.Presence

/-!
# Leaves, and what one document states of several nodes

A node that leaves its value alone has a document that accepts exactly the values that fit it
(`Reading.accepts_iff_fits`); so has a string whose checks are lengths, as far as the last length of
a kind is the one that counts. Null beside a primitive, and a union of plain types, literals or
enumerations, are stated without `anyOf`: `Reading.accepts_ofNullable` and
`Reading.statesUnion_collapse?` say that nothing is lost by that.
-/

namespace DocumentModel

/-! ## Lengths -/

namespace Document

theorem foldl_withLength {checks : List StringCheck} (h : ∀ c ∈ checks, c.isLength = true)
    (d : Document) : checks.foldl withLength d
      = { d with
          minLength := (checks.filterMap StringCheck.least?).getLast?.or d.minLength
          maxLength := (checks.filterMap StringCheck.most?).getLast?.or d.maxLength } := by
  induction checks generalizing d with
  | nil => cases d; rfl
  | cons c rest ih =>
    obtain ⟨hc, hrest⟩ := List.forall_mem_cons.mp h
    rw [List.foldl_cons, ih hrest]
    cases c with
    | min k | max k =>
      simp [withLength, StringCheck.least?, StringCheck.most?, List.getLast?_cons]
    | _ => cases hc

/-- Of several lengths of a kind a document states the last one. -/
theorem ofStringChecks_of_isLength {checks : List StringCheck}
    (h : ∀ c ∈ checks, c.isLength = true) :
    ofStringChecks checks = { ofType .string with
      minLength := (checks.filterMap StringCheck.least?).getLast?
      maxLength := (checks.filterMap StringCheck.most?).getLast? } := by
  have hp : checks.filterMap StringCheck.pattern? = [] := by
    rw [List.filterMap_eq_nil_iff]
    intro c hc
    have := h c hc
    cases c <;> first | rfl | cases this
  -- no check of the length has a pattern
  rw [ofStringChecks, hp, foldl_withLength h]
  simp [uniqueBy, withPatterns, ofType, typed]

end Document

namespace Node

variable {checks : List StringCheck} {description : Option String}

/-- A string meets all its lengths, the least and the most. -/
theorem fits_lengths (h : ∀ c ∈ checks, c.isLength = true) {v : Option Json} :
    Fits ⟨.string checks, description⟩ v ↔ ∃ raw, v = some (.string raw)
      ∧ (∀ k ∈ checks.filterMap StringCheck.least?, k ≤ raw.length)
      ∧ ∀ k ∈ checks.filterMap StringCheck.most?, raw.length ≤ k := by
  rw [fits_string]
  exact exists_congr fun raw => and_congr_right fun _ => (checkString_of_isLength h raw).2

theorem result_lengths (h : ∀ c ∈ checks, c.isLength = true) {raw : String} :
    result ⟨.string checks, description⟩ (some (.string raw)) = some (.string raw) := by
  rw [result_string, (checkString_of_isLength h raw).1]

end Node

namespace Reading

variable {r : Reading} {v : Json} {description : Option String} {d : Document}

/-! ## Leaves -/

theorem hasType_string (hr : r.Standard) : r.hasType .string v = true ↔ ∃ raw, v = .string raw := by
  rw [hr.string]
  cases v <;> simp [Json.string?]

theorem hasType_number (hr : r.Standard) : r.hasType .number v = true ↔ ∃ n, v = .number n := by
  rw [hr.number]
  cases v <;> simp [Json.number?]

theorem accepts_strings (hr : r.Standard) {texts : List String} :
    r.accepts { Document.ofType .string with enumeration := some (texts.map Json.string) } v = true
      ↔ ∃ raw ∈ texts, v = .string raw := by
  rw [Document.ofType, accepts_typed_enumeration, Bool.and_eq_true]
  simp only [BsonTypes.toList, List.any_cons, List.any_nil, Bool.or_false]
  rw [hasType_string hr]
  constructor
  · rintro ⟨⟨raw, rfl⟩, h⟩
    exact ⟨raw, Json.isIn_strings.mp h, rfl⟩
  · rintro ⟨raw, h, rfl⟩
    exact ⟨⟨raw, rfl⟩, Json.isIn_strings.mpr h⟩

/-- What an enumeration member writes has one of the types that are stated for the members. -/
theorem accepts_ofEnumMembers (hr : r.Standard) {members : List EnumMember} :
    r.accepts (.ofEnumMembers members) v = Json.isIn v (members.map (·.value.toJson)) := by
  rw [Document.ofEnumMembers, accepts_typed_enumeration, Bool.and_eq_right_iff_imp]
  intro h
  obtain ⟨w, hw, hs⟩ := Json.isIn_iff.mp h
  obtain ⟨m, hm, rfl⟩ := List.mem_map.mp hw
  rw [List.any_eq_true]
  -- the type of the member is stated, either on its own or next to the other one
  cases hv : m.value with
  | string raw =>
    rw [hv] at hs
    refine ⟨.string, ?_, ?_⟩
    · split
      · exact List.mem_singleton.mpr rfl
      · split
        · next hall =>
          have := List.all_eq_true.mp hall m hm
          simp [hv] at this
        · exact List.mem_cons_self
    · rw [hasType_string hr]
      cases v <;> simp_all [EnumValue.toJson, Json.same]
  | number n =>
    rw [hv] at hs
    refine ⟨.number, ?_, ?_⟩
    · split
      · next hany =>
        have := List.any_eq_false.mp (Bool.not_eq_true' _ |>.mp hany) m hm
        simp [hv] at this
      · split
        · exact List.mem_singleton.mpr rfl
        · exact List.mem_cons_of_mem _ List.mem_cons_self
    · rw [hasType_number hr]
      cases v <;> simp_all [EnumValue.toJson, Json.same, Json.ofInt]

/-- **A leaf and its document accept the same values.** -/
theorem accepts_iff_fits (hr : r.Standard) {kind : NodeKind Node} (hk : kind.keepsValue = true)
    (hn : ∀ checks, kind = .number checks → checks = [])
    (hu : Marker.ofDescription? description = none)
    (hd : Node.document? ⟨kind, description⟩ = .ok d) :
    r.accepts d v = true ↔ Node.Fits ⟨kind, description⟩ (some v) := by
  cases kind with
  | any | unknown =>
    cases hd
    rw [accepts_annotate hu, accepts_empty]
    exact iff_of_true rfl rfl
  | undefined =>
    cases hd
    rw [accepts_annotate hu, accepts_nothing, Node.fits_undefined]
    simp
  | void =>
    cases hd
    rw [accepts_annotate hu, accepts_nothing, Node.fits_void]
    simp
  | never =>
    cases hd
    rw [accepts_annotate hu, accepts_nothing]
    exact iff_of_false Bool.false_ne_true Node.not_fits_never
  | nan =>
    cases hd
    rw [accepts_annotate hu, accepts_nothing]
    exact iff_of_false Bool.false_ne_true Node.not_fits_nan
  | null =>
    cases hd
    rw [accepts_annotate hu, accepts_ofType, hr.null, Node.fits_null]
    simp
  | boolean =>
    cases hd
    rw [accepts_annotate hu, accepts_ofType, hr.bool, Node.fits_boolean]
    simp
  | date =>
    cases hd
    rw [accepts_annotate hu, accepts_ofType, hr.date, Node.fits_date]
    simp
  | bigInt =>
    cases hd
    rw [accepts_annotate hu, accepts_ofType, hr.long, Node.fits_bigInt]
    simp
  | objectId =>
    cases hd
    rw [accepts_annotate hu, accepts_ofType, hr.objectId, Node.fits_objectId]
    simp
  | number checks =>
    obtain rfl := hn checks rfl
    cases hd
    rw [accepts_annotate hu, Document.ofNumberChecks, List.foldl_nil, accepts_ofType,
      hasType_number hr, Node.fits_number]
    simp [checkNumber]
  | literal value =>
    cases hd
    rw [accepts_annotate hu, accepts_enumeration, Node.fits_literal, Json.isIn_iff]
    simp [Json.same_comm]
  | enumeration values =>
    cases hd
    rw [accepts_annotate hu, accepts_strings hr, Node.fits_enumeration]
    simp
  | nativeEnum members =>
    cases hd
    rw [accepts_annotate hu, accepts_ofEnumMembers hr, Node.fits_nativeEnum]
    simp
  | _ => cases hk

/-! ## Null beside a primitive -/

/-- A primitive that has only lengths to check has a document with a type and lengths. -/
theorem document?_primitive {kind : NodeKind Node} {type : BsonType}
    (hp : kind.primitive? = some type)
    (hl : ∀ checks, kind = .string checks → ∀ c ∈ checks, c.isLength = true)
    (hn : ∀ checks, kind = .number checks → checks = [])
    (hu : Marker.ofDescription? description = none)
    (hd : Node.document? ⟨kind, description⟩ = .ok d) :
    ∃ text least most, d =
      { description := text, bsonType := some (.one type),
        minLength := least, maxLength := most } := by
  cases kind with
  | string checks =>
    cases hp
    cases hd
    rw [Document.ofStringChecks_of_isLength (hl checks rfl)]
    obtain ⟨text, ht⟩ := annotate_of_unmarked _ hu
    rw [ht]
    exact ⟨text, _, _, rfl⟩
  | number checks =>
    obtain rfl := hn checks rfl
    cases hp
    cases hd
    obtain ⟨text, ht⟩ := annotate_of_unmarked (Document.ofNumberChecks []) hu
    exact ⟨text, none, none, ht⟩
  | bigInt | objectId | boolean | date | null =>
    cases hp
    cases hd
    obtain ⟨text, ht⟩ := annotate_of_unmarked (Document.ofType _) hu
    exact ⟨text, none, none, ht⟩
  | _ => cases hp

theorem any_withNull (hr : r.Standard) {types : List BsonType} :
    (Document.withNull types).any (r.hasType · v) = (types.any (r.hasType · v) || v.isNull) := by
  rw [Document.withNull, pushUnique]
  split
  · next h =>
    rw [← hr.null, eq_comm, Bool.or_eq_left_iff_imp]
    intro hv
    obtain ⟨t, ht, he⟩ := List.any_eq_true.mp h
    rw [beq_iff_eq] at he
    exact List.any_eq_true.mpr ⟨t, ht, he ▸ hv⟩
  · rw [List.any_append, List.any_cons, List.any_nil, Bool.or_false, hr.null]

/-- **Null beside a primitive is one more type of the same document.** -/
theorem accepts_ofNullable_primitive (hr : r.Standard) {kind : NodeKind Node}
    (hp : kind.primitive?.isSome = true)
    (hl : ∀ checks, kind = .string checks → ∀ c ∈ checks, c.isLength = true)
    (hn : ∀ checks, kind = .number checks → checks = [])
    (hu : Marker.ofDescription? description = none)
    (hd : Node.document? ⟨kind, description⟩ = .ok d) :
    r.accepts (Document.ofNullable true d) v = (v.isNull || r.accepts d v) := by
  obtain ⟨type, hp⟩ := Option.isSome_iff_exists.mp hp
  obtain ⟨text, least, most, rfl⟩ := document?_primitive hp hl hn hu hd
  rw [Document.ofNullable, if_pos rfl, accepts_lengths, accepts_lengths]
  simp only [Option.map_some, Option.getD_some, BsonTypes.toList_ofList, any_withNull hr]
  -- no length is asked of null
  cases v <;> simp [BsonTypes.toList, Json.isNull, Json.string?]

/-- Null beside a document is accepted, and nothing else that was not before. -/
theorem accepts_ofNullable (hr : r.Standard) :
    r.accepts (Document.ofNullable false d) v = (v.isNull || r.accepts d v) := by
  rw [Document.ofNullable, if_neg Bool.false_ne_true, accepts_anyOf]
  simp [accepts_ofType, hr.null, Bool.or_comm]

/-! ## Unions in one document -/

variable {branches : List Node}

theorem mapM_eq_some_iff {α β : Type} {f : α → Option β} {l : List α} {l' : List β} :
    l.mapM f = some l' ↔ l.map f = l'.map some := by
  induction l generalizing l' with
  | nil => cases l' <;> simp
  | cons a rest ih =>
    rw [List.mapM_cons, List.map_cons]
    cases l' with
    | nil => cases f a <;> cases rest.mapM f <;> simp
    | cons b rest' =>
      rw [List.map_cons, List.cons.injEq, ← ih]
      cases f a <;> cases rest.mapM f <;> simp

/-- Every entry is the result of an element, and every element has a result among the entries. -/
theorem mem_of_mapM_eq_some {α β : Type} {f : α → Option β} {l : List α} {l' : List β}
    (h : l.mapM f = some l') :
    (∀ a ∈ l, ∃ b ∈ l', f a = some b) ∧ ∀ b ∈ l', ∃ a ∈ l, f a = some b := by
  rw [mapM_eq_some_iff] at h
  constructor
  · intro a ha
    have : f a ∈ l'.map some := h ▸ List.mem_map_of_mem ha
    obtain ⟨b, hb, he⟩ := List.mem_map.mp this
    exact ⟨b, hb, he.symm⟩
  · intro b hb
    have : some b ∈ l.map f := h ▸ List.mem_map_of_mem hb
    exact List.mem_map.mp this

/-- A condition that same values share is met by an entry of the list, however often it is put
there. -/
theorem any_pushUnique {α : Type} {same : α → α → Bool} {p : α → Bool}
    (hp : ∀ a b, same a b = true → p b = true → p a = true) (l : List α) (b : α) :
    (pushUnique same l b).any p = (l.any p || p b) := by
  rw [pushUnique]
  split
  · next h =>
    obtain ⟨a, ha, hab⟩ := List.any_eq_true.mp h
    rw [eq_comm, Bool.or_eq_left_iff_imp]
    exact fun hb => List.any_eq_true.mpr ⟨a, ha, hp a b hab hb⟩
  · rw [List.any_append, List.any_cons, List.any_nil, Bool.or_false]

/-- **A property that goes over to earlier repetitions survives when later ones are left out.** -/
theorem any_uniqueBy {α : Type} {same : α → α → Bool} {p : α → Bool}
    (hp : ∀ a b, same a b = true → p b = true → p a = true) (l : List α) :
    (uniqueBy same l).any p = l.any p := by
  have hfold : ∀ kept : List α,
      (l.foldl (pushUnique same) kept).any p = (kept.any p || l.any p) := by
    induction l with
    | nil => simp
    | cons b rest ih =>
      intro kept
      rw [List.foldl_cons, ih, any_pushUnique hp, List.any_cons, Bool.or_assoc]
  rw [uniqueBy, hfold, List.any_nil, Bool.false_or]

/-- Leaving out repetitions leaves out no value. -/
theorem isIn_uniqueBy {values : List Json} :
    Json.isIn v (uniqueBy Json.same values) = Json.isIn v values := by
  unfold Json.isIn
  exact any_uniqueBy (fun _ _ h hb => Json.same_trans h hb) values

theorem any_hasType_uniqueBy {types : List BsonType} :
    (uniqueBy (· == ·) types).any (r.hasType · v) = types.any (r.hasType · v) :=
  any_uniqueBy (fun _ _ h hb => beq_iff_eq.mp h ▸ hb) types

/-- Of a primitive without checks nothing but the type is asked. -/
theorem fits_iff_of_plainType? (hr : r.Standard) {b : Node} {type : BsonType}
    (hu : Marker.ofDescription? b.description = none) (ht : b.plainType? = some type) :
    (b.Fits (some v) ↔ r.hasType type v = true)
      ∧ (b.Fits (some v) → b.result (some v) = some v) := by
  obtain ⟨kind, description⟩ := b
  simp only [Node.plainType?, hu, Option.getD_none, Option.map_id'] at ht
  cases kind with
  | string checks =>
    cases checks with
    | cons c rest => simp at ht
    | nil =>
      cases ht
      have hl : ∀ c ∈ ([] : List StringCheck), c.isLength = true := by simp
      rw [hasType_string hr, Node.fits_lengths hl]
      constructor
      · simp
      · rintro ⟨raw, he, -⟩
        cases he
        exact Node.result_lengths hl
  | number checks =>
    cases checks with
    | cons c rest => simp at ht
    | nil =>
      cases ht
      refine ⟨?_, Node.result_of_keepsValue rfl⟩
      rw [← accepts_iff_fits hr rfl (by simp) hu rfl, accepts_annotate hu,
        Document.ofNumberChecks, List.foldl_nil, accepts_ofType]
  | bigInt | objectId | boolean | date | null =>
    cases ht
    refine ⟨?_, Node.result_of_keepsValue rfl⟩
    rw [← accepts_iff_fits hr rfl (by simp) hu rfl, accepts_annotate hu, accepts_ofType]
  | _ => simp [NodeKind.primitive?] at ht

/-- A value that is the same as a literal has the type of the literal. -/
theorem hasType_of_same (hr : r.TypesScalars) {value : Json} {type : BsonType}
    (ht : value.scalarType? = some type) (h : value.same v = true) : r.hasType type v = true := by
  cases value <;> cases ht <;> cases v <;>
    simp_all [Json.same, hr.null, hr.bool, hr.number, hr.string]

theorem literal?_eq_some {b : Node} {value : Json} {type : BsonType}
    (h : b.literal? = some (value, type)) :
    b.kind = .literal value ∧ value.scalarType? = some type := by
  obtain ⟨kind, description⟩ := b
  cases kind with
  | literal expected =>
    obtain ⟨t, ht, he⟩ := Option.map_eq_some_iff.mp h
    cases he
    exact ⟨rfl, ht⟩
  | _ => cases h

theorem enumeration?_eq_some {b : Node} {values : List String} (h : b.enumeration? = some values) :
    b.kind = .enumeration values := by
  obtain ⟨kind, description⟩ := b
  cases kind <;> cases h
  rfl

/-- A document states a union when it accepts what fits a branch, and the branches leave that as it
is. -/
structure StatesUnion (r : Reading) (branches : List Node) (d : Document) : Prop where
  accepts_iff (v : Json) : r.accepts d v = true ↔ ∃ b ∈ branches, b.Fits (some v)
  keeps : ∀ b ∈ branches, ∀ v, b.Fits (some v) → b.result (some v) = some v

/-- Plain types are stated by their list. -/
theorem statesUnion_types (hr : r.Standard)
    (hu : ∀ b ∈ branches, Marker.ofDescription? b.description = none) {types : List BsonType}
    (ht : branches.mapM Node.plainType? = some types) :
    r.StatesUnion branches (.typed (.ofList (uniqueBy (· == ·) types))) := by
  obtain ⟨hbt, htb⟩ := mem_of_mapM_eq_some ht
  constructor
  · intro v
    rw [accepts_typed, BsonTypes.toList_ofList, any_hasType_uniqueBy, List.any_eq_true]
    constructor
    · rintro ⟨t, ht, hv⟩
      obtain ⟨b, hb, he⟩ := htb t ht
      exact ⟨b, hb, (fits_iff_of_plainType? hr (hu b hb) he).1.mpr hv⟩
    · rintro ⟨b, hb, hf⟩
      obtain ⟨t, ht, he⟩ := hbt b hb
      exact ⟨t, ht, (fits_iff_of_plainType? hr (hu b hb) he).1.mp hf⟩
  · intro b hb v
    obtain ⟨t, -, he⟩ := hbt b hb
    exact (fits_iff_of_plainType? hr (hu b hb) he).2

/-- Literals are stated by their values, each of which has one of the types. -/
theorem statesUnion_literals (hr : r.Standard) {literals : List (Json × BsonType)}
    (hl : branches.mapM Node.literal? = some literals) :
    r.StatesUnion branches {
      Document.typed (.ofList (uniqueBy (· == ·) (literals.map Prod.snd))) with
      enumeration := some (uniqueBy Json.same (literals.map Prod.fst)) } := by
  obtain ⟨hbl, hlb⟩ := mem_of_mapM_eq_some hl
  constructor
  · intro v
    rw [accepts_typed_enumeration, BsonTypes.toList_ofList, any_hasType_uniqueBy, isIn_uniqueBy,
      Bool.and_eq_true, List.any_eq_true, Json.isIn_iff]
    constructor
    · rintro ⟨-, w, hw, hs⟩
      obtain ⟨⟨_, t⟩, hm, rfl⟩ := List.mem_map.mp hw
      obtain ⟨⟨kind, description⟩, hb, he⟩ := hlb _ hm
      obtain ⟨rfl, -⟩ := literal?_eq_some he
      exact ⟨_, hb, Node.fits_literal.mpr ⟨v, rfl, Json.same_symm hs⟩⟩
    · -- the type comes with the literal that the value is the same as
      rintro ⟨⟨kind, description⟩, hb, hf⟩
      obtain ⟨⟨w, t⟩, hm, he⟩ := hbl _ hb
      obtain ⟨rfl, ht⟩ := literal?_eq_some he
      obtain ⟨x, hx, hs⟩ := Node.fits_literal.mp hf
      cases hx
      have hs := Json.same_symm hs
      exact ⟨⟨t, List.mem_map_of_mem hm, hasType_of_same hr.typesScalars ht hs⟩,
        w, List.mem_map_of_mem hm, hs⟩
  · rintro ⟨kind, description⟩ hb v hf
    obtain ⟨⟨w, t⟩, -, he⟩ := hbl _ hb
    obtain ⟨rfl, -⟩ := literal?_eq_some he
    exact Node.result_of_keepsValue rfl hf

/-- Enumerations are stated by all their texts. -/
theorem statesUnion_enumerations (hr : r.Standard) {values : List (List String)}
    (hv : branches.mapM Node.enumeration? = some values) :
    r.StatesUnion branches { Document.ofType .string with
      enumeration := some (uniqueBy Json.same (values.flatten.map Json.string)) } := by
  obtain ⟨hbv, hvb⟩ := mem_of_mapM_eq_some hv
  constructor
  · intro v
    rw [Document.ofType, accepts_typed_enumeration, isIn_uniqueBy, ← accepts_typed_enumeration,
      ← Document.ofType, accepts_strings hr]
    constructor
    · rintro ⟨raw, hraw, rfl⟩
      obtain ⟨allowed, ha, hraw⟩ := List.mem_flatten.mp hraw
      obtain ⟨⟨kind, description⟩, hb, he⟩ := hvb _ ha
      obtain rfl := enumeration?_eq_some he
      exact ⟨_, hb, Node.fits_enumeration.mpr ⟨raw, hraw, rfl⟩⟩
    · rintro ⟨⟨kind, description⟩, hb, hf⟩
      obtain ⟨allowed, ha, he⟩ := hbv _ hb
      obtain rfl := enumeration?_eq_some he
      obtain ⟨raw, hraw, hx⟩ := Node.fits_enumeration.mp hf
      cases hx
      exact ⟨raw, List.mem_flatten.mpr ⟨allowed, ha, hraw⟩, rfl⟩
  · rintro ⟨kind, description⟩ hb v hf
    obtain ⟨allowed, -, he⟩ := hbv _ hb
    obtain rfl := enumeration?_eq_some he
    exact Node.result_of_keepsValue rfl hf

/-- **Alternatives that are put into one document are stated by it.** -/
theorem statesUnion_collapse? (hr : r.Standard)
    (hu : ∀ b ∈ branches, Marker.ofDescription? b.description = none)
    (hc : Document.collapse? branches = some d) : r.StatesUnion branches d := by
  unfold Document.collapse? at hc
  split at hc
  · next types ht =>
    cases hc
    exact statesUnion_types hr hu ht
  · split at hc
    · next literals hl =>
      cases hc
      exact statesUnion_literals hr hl
    · split at hc
      · next values hv =>
        cases hc
        exact statesUnion_enumerations hr hv
      · cases hc

end Reading

end DocumentModel
