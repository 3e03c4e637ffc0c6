import DocumentModel.Proofs.Document.Marking
import DocumentModel.Proofs.Document.Translating

/-!
# Markers on nullable nodes

A nullable node parses null, and so its document should accept null. A marker on the node decides
the type of the document, and leaves null beside that type only where null already stands in a list
of types. It does so for primitives that are stored as something else than null; other nodes have
null as an alternative, which the marker does not look for
(`Node.accepts_null_iff_of_marked_nullable`).
-/

namespace DocumentModel

namespace Reading

variable {r : Reading} {d : Document}

/-- Null has its own type, and no other. -/
def NullAlone (r : Reading) : Prop := ∀ type, r.hasType type .null = true ↔ type = .null

theorem plain_nullAlone : plain.NullAlone := by
  intro type
  cases type <;> decide

/-- Where nothing else is asked of null, it is accepted if the types that are asked for include
it. -/
theorem accepts_null_iff (hr : r.NullAlone)
    (h : r.accepts { d with bsonType := none } .null = true) :
    r.accepts d .null = true ↔ ∀ types ∈ d.bsonType, BsonType.null ∈ types.toList := by
  rw [accepts_eq_and, h, Bool.and_true]
  cases d.bsonType with
  | none => simp
  | some types => simp [hr _]

end Reading

namespace Document

variable {d : Document} {type : BsonType}

/-! ## Null among the types -/

/-- Null stands in a list of types. -/
def ListsNull (d : Document) : Prop := ∃ types, d.bsonType = some (.many types) ∧ .null ∈ types

/-- **Under a marker null is kept where it stands in a list, or is the type of the marker.** -/
theorem null_mem_withMarker_iff :
    (∀ types ∈ (d.withMarker type).bsonType, .null ∈ types.toList)
      ↔ type = .null ∨ d.ListsNull := by
  have hone : ∀ t : BsonType, .null ∈ [t] ↔ t = .null := fun t => by simp [eq_comm]
  unfold ListsNull
  match hb : d.bsonType with
  | none => simp [withMarker, hb, BsonTypes.toList, hone]
  | some (.one t) => simp [withMarker, hb, BsonTypes.toList, hone]
  | some (.many types) =>
    by_cases ht : type = .null
    · simp [withMarker, ht, BsonTypes.toList]
    · by_cases hnull : .null ∈ types
      · simp [withMarker, hb, ht, hnull, BsonTypes.toList]
      · simp [withMarker, hb, ht, hnull, BsonTypes.toList, Ne.symm ht]

/-- Null is added to a type that is another one. -/
theorem listsNull_ofNullable_iff (h : d.bsonType = some (.one type)) :
    (ofNullable true d).ListsNull ↔ type ≠ .null := by
  have htypes : (ofNullable true d).bsonType = some (.ofList (withNull [type])) := by
    simp [ofNullable, h, BsonTypes.toList]
  unfold ListsNull
  rw [htypes]
  by_cases ht : type = .null
  · simp [ht, withNull, pushUnique, BsonTypes.ofList]
  · simp [ht, withNull, pushUnique, BsonTypes.ofList]

/-! ## Documents of primitives -/

/-- Apart from its type, the document asks nothing of null. -/
structure SparesNull (d : Document) : Prop where
  enumeration : d.enumeration = none
  allOf : ∀ ds ∈ d.allOf, ∀ e ∈ ds, ∃ pattern, e = { pattern := some pattern }
  anyOf : d.anyOf = none
  oneOf : d.oneOf = none
  no : d.no = none

theorem SparesNull.accepts {r : Reading} (h : d.SparesNull) :
    r.accepts { d with bsonType := none } .null = true := by
  have hall : (r.verdicts? d.allOf .null).all (·.all id) = true := by
    cases ha : d.allOf with
    | none => rfl
    | some ds =>
      rw [Reading.verdicts?, Option.all_some, Reading.verdicts_eq_map, List.all_map,
        List.all_eq_true]
      intro e he
      obtain ⟨pattern, rfl⟩ := h.allOf ds ha e he
      simp [Reading.accepts_eq, Reading.ownRules, Json.string?, Json.number?, Json.array?,
        Json.object?]
  rw [Reading.accepts_eq]
  simp [Reading.ownRules, h.enumeration, h.anyOf, h.oneOf, h.no, hall, Json.string?, Json.number?,
    Json.array?, Json.object?]

theorem SparesNull.annotate (h : d.SparesNull) (description : Option String) :
    (d.annotate description).SparesNull := by
  obtain ⟨types, text, hd, -⟩ := exists_annotate_eq description d
  rw [hd]
  exact ⟨h.enumeration, h.allOf, h.anyOf, h.oneOf, h.no⟩

theorem sparesNull_ofType (type : BsonType) : (ofType type).SparesNull :=
  ⟨rfl, nofun, rfl, rfl, rfl⟩

end Document

namespace Node

variable {r : Reading} {inner : Node} {d : Document}

/-- A primitive that is stored as something else than null. -/
def StoresOther (n : Node) : Prop :=
  ∃ base ∈ n.kind.primitive?, (Marker.ofDescription? n.description).getD base ≠ .null

/-- **The document of a primitive asks for one type, and nothing else of null.** -/
theorem document?_of_primitive? {base : BsonType} (hp : inner.kind.primitive? = some base)
    (h : inner.document? = .ok d) :
    d.SparesNull ∧ ∃ type, d.bsonType = some (.one type)
      ∧ (type = .null ↔ (Marker.ofDescription? inner.description).getD base = .null) := by
  obtain ⟨kind, description⟩ := inner
  -- without a marker, a number may ask for integers
  have key : ∀ {e : Document} {own}, e.SparesNull → e.bsonType = some (.one own) →
      (own = .null ↔ base = .null) → d = e.annotate description →
      d.SparesNull ∧ ∃ type, d.bsonType = some (.one type)
        ∧ (type = .null ↔ (Marker.ofDescription? description).getD base = .null) := by
    rintro e own hs ht hown rfl
    refine ⟨hs.annotate description, _, Document.bsonType_annotate_of_one ht description, ?_⟩
    cases Marker.ofDescription? description with
    | none => exact hown
    | some type => exact Iff.rfl
  cases kind with
  | string checks =>
    cases hp
    cases h
    obtain ⟨least, most, pattern, allOf, hd, hall⟩ := Document.exists_ofStringChecks_eq checks
    have hspares : (Document.ofStringChecks checks).SparesNull := by
      rw [hd]
      exact ⟨rfl, fun ds hds => (hall ds hds).2, rfl, rfl, rfl⟩
    exact key hspares (congrArg Document.bsonType hd) Iff.rfl rfl
  | number checks =>
    cases hp
    cases h
    obtain ⟨own, _, _, _, _, _, hd, hown⟩ := Document.exists_ofNumberChecks_eq checks
    have hspares : (Document.ofNumberChecks checks).SparesNull := by
      rw [hd]
      exact ⟨rfl, nofun, rfl, rfl, rfl⟩
    have hne : own ≠ .null := by
      rintro rfl
      rcases hown with h | h <;> cases h
    exact key hspares (congrArg Document.bsonType hd) (iff_of_false hne nofun) rfl
  | bigInt | objectId | boolean | date | null =>
    cases hp
    cases h
    exact key (Document.sparesNull_ofType _) rfl Iff.rfl rfl
  | _ => cases hp

/-- Beside a primitive that is stored as something else null is one more type. -/
theorem listsNull_ofNullable_iff_storesOther (h : inner.document? = .ok d) :
    (Document.ofNullable inner.kind.primitive?.isSome d).ListsNull ↔ inner.StoresOther := by
  unfold StoresOther
  cases hp : inner.kind.primitive? with
  | none => exact iff_of_false (fun ⟨_, ht, _⟩ => nomatch ht) (fun ⟨_, hb, _⟩ => nomatch hb)
  | some base =>
    obtain ⟨-, type, ht, hnull⟩ := document?_of_primitive? hp h
    rw [Option.isSome_some, Document.listsNull_ofNullable_iff ht]
    simp [hnull]

/-- Apart from its type, the document of a nullable node accepts null, and so does one of its
alternatives. -/
theorem accepts_null_ofNullable (hr : r.NullAlone) (h : inner.document? = .ok d) :
    r.accepts { Document.ofNullable inner.kind.primitive?.isSome d with bsonType := none } .null
        = true
      ∧ ∀ ds ∈ (Document.ofNullable inner.kind.primitive?.isSome d).anyOf,
        ∃ e ∈ ds, r.accepts e .null = true := by
  cases hp : inner.kind.primitive? with
  | none =>
    have hnull : r.accepts (.ofType .null) .null = true := by
      rw [Reading.accepts_ofType]
      exact (hr .null).mpr rfl
    have hany : r.accepts { anyOf := some [d, .ofType .null] } .null = true := by
      simp [Reading.accepts_anyOf, hnull]
    refine ⟨hany, ?_⟩
    rintro _ ⟨⟩
    exact ⟨_, List.mem_cons_of_mem _ List.mem_cons_self, hnull⟩
  | some base =>
    obtain ⟨hspares, -⟩ := document?_of_primitive? hp h
    refine ⟨hspares.accepts, fun ds hds => ?_⟩
    have hnone : some ds = none := hds.symm.trans hspares.anyOf
    cases hnone

/-- **A nullable node parses null whatever its marker, and its document accepts null exactly if the
marker is that of null, or the node is a primitive that is stored as something else.** -/
theorem accepts_null_iff_of_marked_nullable (hr : r.NullAlone) {e : Document}
    (h : inner.document? = .ok e) (text : String) (type : BsonType) (title : Option String) :
    ((ofKind (.nullable inner)).describe (Marker.compose text type)).parse .null = .ok .null
    ∧ ∃ d, ((ofKind (.nullable inner)).describe (Marker.compose text type)).titledDocument? title
        = .ok d
      ∧ (∀ ds ∈ d.anyOf, ∃ x ∈ ds, r.accepts x .null = true)
      ∧ ((∀ types ∈ d.bsonType, .null ∈ types.toList) ↔ type = .null ∨ inner.StoresOther)
      ∧ (r.accepts d .null = true ↔ type = .null ∨ inner.StoresOther) := by
  refine ⟨parse_eq_ok_iff.mpr ⟨fits_nullable.mpr (Or.inl rfl), rfl⟩, ?_⟩
  have hmarked : Marker.ofDescription? (some (Marker.compose text type)) = some type :=
    Marker.type?_compose text type
  obtain rfl := document_of_eq_ok h
  obtain ⟨rest, hd⟩ := Reading.annotate_of_marked
    (Document.ofNullable inner.kind.primitive?.isSome inner.document) hmarked
  refine ⟨_, titledDocument?_eq_ok_iff.mpr ⟨_, document?_nullable h, rfl⟩, ?_⟩
  rw [hd]
  obtain ⟨hnull, hany⟩ := accepts_null_ofNullable hr h
  have hkeeps : (∀ types ∈ ((Document.ofNullable inner.kind.primitive?.isSome
        inner.document).withMarker type).bsonType, .null ∈ types.toList) ↔
      type = .null ∨ inner.StoresOther := by
    rw [Document.null_mem_withMarker_iff, listsNull_ofNullable_iff_storesOther h]
  refine ⟨hany, hkeeps, (Reading.accepts_null_iff hr ?_).trans hkeeps⟩
  rw [Reading.accepts_eq] at hnull ⊢
  exact hnull

theorem accepts_null_iff_of_marked_nullable_number :
    Reading.plain.NullAlone
    ∧ number.document? = .ok (.ofType .number)
    ∧ ((ofKind (.nullable number)).describe (Marker.compose "Amount" .long)).parse .null = .ok .null
    ∧ ∃ d,
      ((ofKind (.nullable number)).describe (Marker.compose "Amount" .long)).titledDocument? none
        = .ok d
      ∧ (∀ ds ∈ d.anyOf, ∃ x ∈ ds, Reading.plain.accepts x .null = true)
      ∧ (∀ types ∈ d.bsonType, .null ∈ types.toList)
      ∧ Reading.plain.accepts d .null = true := by
  have hd : number.document? = .ok (.ofType .number) := rfl
  have hkeeps : BsonType.long = .null ∨ number.StoresOther := Or.inr ⟨.number, rfl, nofun⟩
  obtain ⟨hparse, d, hdocument, hany, htypes, haccepts⟩ :=
    accepts_null_iff_of_marked_nullable Reading.plain_nullAlone hd "Amount" .long none
  exact ⟨Reading.plain_nullAlone, hd, hparse, d, hdocument, hany, htypes.mpr hkeeps,
    haccepts.mpr hkeeps⟩

/-- An amount that may be absent or null, and is stored as an integer otherwise. -/
def amount : Node :=
  (ofKind (.nullable (ofKind (.optional number)))).describe "Amount[bsonType:long]"

/-- The marker stands beside the alternative of null and rules it out. -/
theorem amount_loses_null : amount.parse .null = .ok .null
    ∧ ∃ d, amount.titledDocument? none = .ok d
      ∧ d.bsonType = some (.one .long) ∧ Reading.plain.accepts d .null = false := by
  have hd : amount.titledDocument? none = .ok
      { description := some "Amount", bsonType := some (.one .long),
        anyOf := some [{ anyOf := some [.ofType .number, .nothing] }, .ofType .null] } := rfl
  refine ⟨rfl, _, hd, rfl, Bool.eq_false_iff.mpr fun h => ?_⟩
  exact absurd ((Reading.plain_nullAlone _).mp (Reading.hasType_of_accepts rfl h)) (by decide)

end Node

end DocumentModel
