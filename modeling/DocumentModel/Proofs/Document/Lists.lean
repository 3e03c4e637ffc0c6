import DocumentModel.Proofs.Compile.Layers
import DocumentModel.Proofs.Document.Translating

/-!
# Lists in documents

A database refuses a document in which a list of names, types or alternatives is empty, or in which
a name or a type stands twice. `Document.ListsFit` says of one document that its lists are none of
these; it holds of the document of a node at every depth, and still after the document has been
given the key `_id` (`Node.listsFit_of_titledDocument?`). Names in `required` are different because
no property of a shape stands twice, and the types of alternatives because repetitions are left out.
-/

namespace DocumentModel

/-! ## Entries without repetition -/

/-- No two of the entries that are left are the same. -/
theorem pairwise_uniqueBy {α : Type} {same : α → α → Bool} {l : List α} :
    (uniqueBy same l).Pairwise fun a b => same a b = false := by
  refine List.foldlRecOn l _ List.Pairwise.nil fun entries h a _ => ?_
  rw [pushUnique]
  split
  · exact h
  · next hnot =>
    have hother : ∀ b ∈ entries, same b a = false := by simpa using hnot
    refine List.pairwise_append.mpr ⟨h, List.pairwise_singleton _ a, fun b hb c hc => ?_⟩
    rw [List.mem_singleton.mp hc]
    exact hother b hb

section

variable {α : Type} [BEq α] [LawfulBEq α] {l : List α} {a : α}

theorem nodup_pushUnique (h : l.Nodup) : (pushUnique (· == ·) l a).Nodup := by
  rw [pushUnique]
  split
  · exact h
  · next hnot =>
    have hmem : a ∉ l := by simpa using hnot
    simpa [List.nodup_append] using ⟨h, fun b hb he => hmem (he ▸ hb)⟩

theorem mem_pushUnique_self : a ∈ pushUnique (· == ·) l a := by
  rw [pushUnique]
  split
  · next h => simpa using h
  · exact List.mem_append_right l List.mem_cons_self

/-- Without repetitions every entry stands once. -/
theorem nodup_uniqueBy : (uniqueBy (· == ·) l).Nodup :=
  List.foldlRecOn l _ List.nodup_nil fun _ h _ _ => nodup_pushUnique h

end

/-- The first entry is never left out. -/
theorem uniqueBy_ne_nil {α : Type} {same : α → α → Bool} {l : List α} (h : l ≠ []) :
    uniqueBy same l ≠ [] := by
  have hany : (uniqueBy same l).any (fun _ => true) = l.any fun _ => true :=
    Reading.any_uniqueBy (fun _ _ _ _ => rfl) l
  obtain ⟨a, ha⟩ := List.exists_mem_of_ne_nil l h
  intro hnil
  rw [hnil, List.any_eq_true.mpr ⟨a, ha, rfl⟩] at hany
  cases hany

namespace BsonTypes

/-- A list of types has several entries, and none of them twice. -/
def Fits : BsonTypes → Prop
  | .one _ => True
  | .many types => 2 ≤ types.length ∧ types.Nodup

/-- Different types make a list of types that a database takes. -/
theorem fits_ofList {types : List BsonType} (hne : types ≠ []) (h : types.Nodup) :
    (ofList types).Fits := by
  match types with
  | [] => exact absurd rfl hne
  | [_] => exact trivial
  | _ :: _ :: _ => exact ⟨by simp, h⟩

end BsonTypes

namespace Document

/-! ## One document -/

/-- The lists that a document states itself are such as a database takes. -/
structure ListsFit (d : Document) : Prop where
  required : ∀ keys ∈ d.required,
    keys ≠ [] ∧ keys.Nodup ∧ ∀ key ∈ keys, key ∈ (d.properties.getD []).map Prod.fst
  bsonType : ∀ types ∈ d.bsonType, types.Fits
  anyOf : ∀ documents ∈ d.anyOf, documents ≠ []
  allOf : ∀ documents ∈ d.allOf, documents ≠ []

variable {d : Document}

/-! ## Building -/

theorem listsFit_ofType (type : BsonType) : (ofType type).ListsFit where
  required := nofun
  bsonType := by rintro _ ⟨⟩; exact trivial
  anyOf := nofun
  allOf := nofun

/-- The type of a marker stands alone or beside null, which does not stand there twice. -/
theorem fits_withMarker (d : Document) (type : BsonType) :
    ∀ types ∈ (d.withMarker type).bsonType, types.Fits := by
  -- a marker states its type alone, or together with null if it is another one
  have hfits : ∀ nullable : Bool,
      (if nullable && type != .null then BsonTypes.many [type, .null] else .one type).Fits := by
    intro nullable
    split
    · next h =>
      obtain ⟨-, hne⟩ := Bool.and_eq_true_iff.mp h
      exact ⟨Nat.le_refl 2, by simpa using hne⟩
    · exact trivial
  rintro _ ⟨⟩
  exact hfits _

/-- A description leaves the lists of a document as they are, apart from its types. -/
theorem ListsFit.annotate (h : d.ListsFit) (description : Option String) :
    (d.annotate description).ListsFit := by
  obtain ⟨types, text, hd, htypes⟩ := exists_annotate_eq description d
  rw [hd]
  refine ⟨h.required, ?_, h.anyOf, h.allOf⟩
  rcases htypes with rfl | ⟨type, rfl⟩
  · exact h.bsonType
  · exact fits_withMarker d type

/-- Null as one more type is put in unless it is there already. -/
theorem ListsFit.ofNullable (h : d.ListsFit) : (ofNullable true d).ListsFit := by
  refine ⟨h.required, ?_, h.anyOf, h.allOf⟩
  rintro _ ⟨⟩
  have hnodup : ((d.bsonType.map BsonTypes.toList).getD []).Nodup := by
    cases ht : d.bsonType with
    | none => exact List.nodup_nil
    | some types =>
      have hfits := h.bsonType types ht
      cases types with
      | one type => exact List.nodup_singleton type
      | many types => exact hfits.2
  exact BsonTypes.fits_ofList (List.ne_nil_of_mem mem_pushUnique_self) (nodup_pushUnique hnodup)

/-- Patterns stand in `allOf` only where there are several. -/
theorem listsFit_ofStringChecks (checks : List StringCheck) : (ofStringChecks checks).ListsFit := by
  obtain ⟨least, most, pattern, allOf, hd, hall⟩ := exists_ofStringChecks_eq checks
  rw [hd]
  exact ⟨nofun, (listsFit_ofType .string).bsonType, nofun, fun ds hds => (hall ds hds).1⟩

theorem listsFit_ofNumberChecks (checks : List NumberCheck) : (ofNumberChecks checks).ListsFit := by
  obtain ⟨type, _, _, _, _, _, hd, -⟩ := exists_ofNumberChecks_eq checks
  rw [hd]
  exact ⟨nofun, (listsFit_ofType type).bsonType, nofun, nofun⟩

/-- Required names are among the declared ones. -/
theorem listsFit_ofObject {shape : Shape Node} {properties : List (String × Document)}
    {unknownKeys : UnknownKeys} {extra : Option Document} (hnodup : (Shape.keys shape).Nodup)
    (hkeys : properties.map Prod.fst = Shape.keys shape) :
    (ofObject shape properties unknownKeys extra).ListsFit := by
  refine ⟨?_, (listsFit_ofType .object).bsonType, nofun, nofun⟩
  intro keys hrequired
  simp only [ofObject, Option.mem_def] at hrequired
  split at hrequired
  · cases hrequired
  · next hne =>
    cases hrequired
    have hsub : ((shape.filter fun p => !p.2.acceptsMissing).map Prod.fst).Sublist shape.keys :=
      List.filter_sublist.map Prod.fst
    refine ⟨by simpa using hne, hnodup.sublist hsub, fun key hkey => ?_⟩
    have hmem : key ∈ properties.map Prod.fst := hkeys ▸ hsub.subset hkey
    have hproperties : properties ≠ [] := by
      rintro rfl
      cases hmem
    simpa [ofObject, hproperties] using Json.mem_keys_sortFields.mpr hmem

/-- What is read from each of some branches is as many. -/
theorem ne_nil_of_mapM_eq_some {α : Type} {f : Node → Option α} {branches : List Node} {l : List α}
    (hne : branches ≠ []) (h : branches.mapM f = some l) : l ≠ [] := by
  obtain ⟨b, hb⟩ := List.exists_mem_of_ne_nil branches hne
  obtain ⟨a, ha, -⟩ := (Reading.mem_of_mapM_eq_some h).1 b hb
  exact List.ne_nil_of_mem ha

/-- Types and values of alternatives are listed without repetitions. -/
theorem listsFit_of_collapse? {branches : List Node} (hne : branches ≠ [])
    (h : collapse? branches = some d) : d.ListsFit := by
  have htypes : ∀ {types : List BsonType}, types ≠ [] →
      (BsonTypes.ofList (uniqueBy (· == ·) types)).Fits :=
    fun hl => BsonTypes.fits_ofList (uniqueBy_ne_nil hl) nodup_uniqueBy
  unfold collapse? at h
  split at h
  · next types hl =>
    cases h
    refine ⟨nofun, ?_, nofun, nofun⟩
    rintro _ ⟨⟩
    exact htypes (ne_nil_of_mapM_eq_some hne hl)
  · split at h
    · next literals hl =>
      cases h
      refine ⟨nofun, ?_, nofun, nofun⟩
      rintro _ ⟨⟩
      exact htypes (by simpa using ne_nil_of_mapM_eq_some hne hl)
    · split at h
      · cases h
        exact ⟨nofun, (listsFit_ofType .string).bsonType, nofun, nofun⟩
      · cases h

theorem listsFit_ofEnumMembers (members : List EnumMember) : (ofEnumMembers members).ListsFit := by
  refine ⟨nofun, ?_, nofun, nofun⟩
  rintro _ ⟨⟩
  split
  · exact trivial
  · split
    · exact trivial
    · exact ⟨Nat.le_refl 2, by decide⟩

/-- **The lists in what is built for a node are such as a database takes**, if no property stands
twice. -/
theorem builds_listsFit : Builds ListsFit Node.PropertiesOnce where
  annotate description _ h := h.annotate description
  empty := ⟨nofun, nofun, nofun, nofun⟩
  nothing := ⟨nofun, nofun, nofun, nofun⟩
  ofType := listsFit_ofType
  pattern _ := ⟨nofun, nofun, nofun, nofun⟩
  string checks _ _ := listsFit_ofStringChecks checks
  number checks _ _ := listsFit_ofNumberChecks checks
  literal _ _ _ := ⟨nofun, nofun, nofun, nofun⟩
  enumeration _ _ _ := ⟨nofun, (listsFit_ofType .string).bsonType, nofun, nofun⟩
  nativeEnum members _ _ := listsFit_ofEnumMembers members
  object _ _ _ _ h _ _ hk := listsFit_ofObject (h _ rfl) hk
  record _ := ⟨nofun, (listsFit_ofType .object).bsonType, nofun, nofun⟩
  list _ _ := ⟨nofun, (listsFit_ofType .array).bsonType, nofun, nofun⟩
  set _ _ := ⟨nofun, (listsFit_ofType .array).bsonType, nofun, nofun⟩
  tuple _ rest := by
    cases rest <;> exact ⟨nofun, (listsFit_ofType .array).bsonType, nofun, nofun⟩
  pair _ _ := ⟨nofun, (listsFit_ofType .array).bsonType, nofun, nofun⟩
  map _ _ := ⟨nofun, (listsFit_ofType .array).bsonType, nofun, nofun⟩
  collapsed _ _ _ _ hne _ hd := listsFit_of_collapse? hne hd
  anyOf first rest := by
    refine ⟨nofun, nofun, ?_, nofun⟩
    rintro _ ⟨⟩
    exact List.cons_ne_nil first rest
  allOf left right := by
    refine ⟨nofun, nofun, nofun, ?_⟩
    rintro _ ⟨⟩
    exact List.cons_ne_nil left [right]
  nullable h := h.ofNullable

/-! ## Document ids -/

/-- Where other properties are declared, only their documents are new. -/
theorem mem_parts_properties {properties : List (String × Document)}
    {required : Option (List String)} {e : Document}
    (h : e ∈ parts { d with properties := some properties, required := required }) :
    e ∈ properties.map Prod.snd ∨ e ∈ d.parts := by
  simp only [parts, List.mem_append, Option.getD_some] at h ⊢
  tauto

/-- The key `_id` adds one document at most, which asks for an identifier. -/
theorem mem_parts_withId {e : Document} (h : e ∈ d.withId.parts) :
    e ∈ d.parts ∨ e = ofType .objectId := by
  obtain ⟨-, -, hold, -⟩ := subset_parts d
  unfold withId at h
  split at h
  · rcases mem_parts_properties h with h | h
    · split at h
      · exact Or.inl (hold h)
      · obtain ⟨f, hf, rfl⟩ := List.mem_map.mp h
        rcases Json.mem_insertField hf with rfl | hf
        · exact Or.inr rfl
        · exact Or.inl (hold (List.mem_map_of_mem hf))
    · exact Or.inl h
  · exact Or.inl h

/-- The key `_id` is put before the required ones where it is not required yet. -/
theorem ListsFit.withId (h : d.ListsFit) : d.withId.ListsFit := by
  unfold Document.withId
  split
  · have hrequired : (d.required.getD []).Nodup
        ∧ ∀ key ∈ d.required.getD [], key ∈ (d.properties.getD []).map Prod.fst := by
      cases hr : d.required with
      | none => exact ⟨List.nodup_nil, nofun⟩
      | some keys => exact (h.required keys hr).2
    obtain ⟨hnodup, hdeclared⟩ := hrequired
    refine ⟨?_, h.bsonType, h.anyOf, h.allOf⟩
    rintro _ ⟨⟩
    generalize d.required.getD [] = required at hnodup hdeclared ⊢
    generalize d.properties.getD [] = properties at hdeclared ⊢
    -- the names stay declared, and the new one is declared with them
    have hdeclares : ∀ key, key = "_id" ∨ key ∈ properties.map Prod.fst →
        key ∈ (if (Json.findField? "_id" properties).isSome then properties
          else Json.insertField "_id" (ofType .objectId) properties).map Prod.fst := by
      intro key hkey
      split
      · next hid => exact hkey.elim (fun he => he ▸ Json.findField?_isSome_iff.mp hid) id
      · exact Json.mem_keys_insertField.mpr hkey
    split
    · next hid =>
      have hid : "_id" ∈ required := by simpa using hid
      exact ⟨List.ne_nil_of_mem hid, hnodup,
        fun key hkey => hdeclares key (Or.inr (hdeclared key hkey))⟩
    · next hid =>
      have hid : "_id" ∉ required := by simpa using hid
      refine ⟨List.cons_ne_nil _ _, List.nodup_cons.mpr ⟨hid, hnodup⟩, ?_⟩
      exact List.forall_mem_cons.mpr
        ⟨hdeclares _ (Or.inl rfl), fun key hkey => hdeclares key (Or.inr (hdeclared key hkey))⟩
  · exact h

/-- Nothing changes below the document that is given the key. -/
theorem throughout_withId (h : d.Throughout ListsFit) : d.withId.Throughout ListsFit := by
  refine .intro h.here.withId fun e he => ?_
  rcases mem_parts_withId he with he | rfl
  · exact h.part he
  · exact throughout_of_parts_eq_nil rfl (listsFit_ofType .objectId)

end Document

namespace Node

/-- **The lists in the document of a node are such as a database takes**, at every depth, and so are
those of the document that declares the key `_id`. -/
theorem listsFit_of_titledDocument? {n : Node} {title : Option String} {d : Document}
    (hn : n.Throughout PropertiesOnce) (h : n.titledDocument? title = .ok d) :
    d.Throughout Document.ListsFit ∧ d.withId.Throughout Document.ListsFit := by
  obtain ⟨e, he, rfl⟩ := titledDocument?_eq_ok_iff.mp h
  have hfit : Document.Throughout Document.ListsFit { e with title := title.or e.title } := by
    refine (throughout_titled_iff fun d title => ?_).mpr
      (throughout_of_document? Document.builds_listsFit hn.translated he)
    exact ⟨fun h => ⟨h.required, h.bsonType, h.anyOf, h.allOf⟩,
      fun h => ⟨h.required, h.bsonType, h.anyOf, h.allOf⟩⟩
  exact ⟨hfit, Document.throughout_withId hfit⟩

/-- A ticket has a code of two patterns, perhaps an owner, a state and labels. -/
def ticket : Node :=
  ofShape (Shape.ofEntries [("code", ofKind (.string [.startsWith "T", .cuid])),
    ("owner", (ofKind (.nullable number)).describe "Owner[bsonType:long]"),
    ("state", ofKind (.union [string, number, string])),
    ("labels", ofKind (.optional (arrayOf (ofKind (.union [ofKind (.string [.min 1]),
      ofKind .boolean])))))])

theorem listsFit_of_titledDocument?_ticket : ticket.Throughout PropertiesOnce
    ∧ ∃ d, ticket.titledDocument? (some "Ticket") = .ok d
      ∧ d.required = some ["code", "owner", "state"]
      ∧ d.withId.required = some ["_id", "code", "owner", "state"]
      ∧ d.Throughout Document.ListsFit ∧ d.withId.Throughout Document.ListsFit := by
  have hn : ticket.Throughout PropertiesOnce := by
    simp [ticket, Shape.ofEntries, Shape.extend, Shape.insert, Shape.keys, ofShape, ofKind, number,
      string, arrayOf, describe, Throughout.mk_iff, PropertiesOnce, shape?, NodeKind.parts]
  have hd : ticket.titledDocument? (some "Ticket")
      = .ok { ticket.document with title := some "Ticket" } := rfl
  exact ⟨hn, _, hd, rfl, rfl, listsFit_of_titledDocument? hn hd⟩

end Node

end DocumentModel
