import Mathlib.Logic.Basic
import DocumentModel.Proofs.Document.Translating

/-!
# Documents that declare an id

A document of objects that refuses undeclared keys refuses the key `_id`, which a database gives to
every object. `Document.withId` declares and requires this key. The document of an object node
has no rules but those for keys and a type, so the values that are accepted afterwards are those
of before with an id put to them, wherever the type of the document does not tell objects with an
id from those without (`Node.accepts_withId_iff`). A type that a marker asks for may tell them
apart (`Node.reference_with_id_refused`).
-/

namespace DocumentModel

namespace Json

variable {α : Type}

/-- The fields with other keys. -/
def without (key : String) (fields : List (String × Json)) : List (String × Json) :=
  fields.filter (·.1 != key)

theorem findField?_without_of_ne {key k : String} {fields : List (String × Json)} (h : k ≠ key) :
    findField? k (without key fields) = findField? k fields := by
  rw [without, findField?_filter_ne, if_neg h]

/-- Putting in a key that is not there adds one field. -/
theorem mem_insertField_iff {key : String} {value : α} {fields : List (String × α)}
    (h : key ∉ fields.map Prod.fst) {field : String × α} :
    field ∈ insertField key value fields ↔ field = (key, value) ∨ field ∈ fields := by
  refine ⟨mem_insertField, fun hm => ?_⟩
  induction fields with
  | nil => simpa [insertField] using hm
  | cons first rest ih =>
    obtain ⟨k, v⟩ := first
    obtain ⟨hne, hrest⟩ : key ≠ k ∧ key ∉ rest.map Prod.fst := by simpa using h
    rw [insertField]
    split
    · exact List.mem_cons.mpr hm
    · simp only [List.mem_cons]
      rcases hm with rfl | hm
      · exact Or.inr (ih hrest (Or.inl rfl))
      · exact (List.mem_cons.mp hm).imp_right fun hm => ih hrest (Or.inr hm)

end Json

namespace Document

variable {d : Document}

theorem isClosed_eq_true_iff :
    d.isClosed = true ↔ d.additionalProperties = some (.allowed false) := by
  unfold isClosed
  split
  · next h => simp [h]
  · next h => exact iff_of_false (by simp) h

/-- The keys that have a document of their own. -/
def declared (d : Document) : List String := (d.properties.getD []).map Prod.fst

/-- The document without its rule on types. -/
def untyped (d : Document) : Document := { d with bsonType := none }

/-! ## Documents about keys -/

/-- A document whose only rules beside its type are about keys. It requires declared keys. -/
structure AboutKeys (d : Document) : Prop where
  eq : d = { title := d.title, description := d.description, bsonType := d.bsonType
             required := d.required, properties := d.properties
             additionalProperties := d.additionalProperties }
  required : ∀ key ∈ d.required.getD [], key ∈ d.declared

theorem aboutKeys_ofObject {shape : List (String × Node)} {properties : List (String × Document)}
    {unknownKeys : UnknownKeys} {extra : Option Document}
    (hk : properties.map Prod.fst = shape.map Prod.fst) :
    (ofObject shape properties unknownKeys extra).AboutKeys where
  eq := rfl
  required key hkey := by
    have hshape : key ∈ shape.map Prod.fst := by
      simp only [ofObject, Reading.getD_unless_empty, List.mem_map, List.mem_filter] at hkey
      obtain ⟨p, ⟨hp, -⟩, rfl⟩ := hkey
      exact List.mem_map_of_mem hp
    rw [← hk] at hshape
    have hne : properties.isEmpty = false := by
      cases properties with
      | nil => cases hshape
      | cons p rest => rfl
    have hsorted : (ofObject shape properties unknownKeys extra).properties
        = some (Json.sortFields properties) := by
      simp [ofObject, hne]
    rw [declared, hsorted]
    exact Json.mem_keys_sortFields.mpr hshape

theorem AboutKeys.annotate (h : d.AboutKeys) (description : Option String) :
    (d.annotate description).AboutKeys := by
  obtain ⟨types, text, he, -⟩ := exists_annotate_eq description d
  rw [he, h.eq]
  exact ⟨rfl, h.required⟩

theorem AboutKeys.untyped (h : d.AboutKeys) : d.untyped.AboutKeys where
  eq := by rw [Document.untyped, h.eq]
  required := h.required

end Document

/-! ## What such documents accept -/

namespace Reading

variable {r : Reading} {d : Document} {fields : List (String × Json)}

/-- A value has one of the types that a document asks for. -/
def typed (r : Reading) (d : Document) (v : Json) : Bool :=
  d.bsonType.all fun types => types.toList.any (r.hasType · v)

/-- Where the types of objects are read alike, a document finds one type in all objects. -/
theorem typed_object_congr (h : ∀ (t : BsonType) (fields others : List (String × Json)),
    r.hasType t (.object fields) = r.hasType t (.object others))
    (fields others : List (String × Json)) :
    r.typed d (.object fields) = r.typed d (.object others) := by
  simp only [typed, h _ fields others]

/-- A document without a rule on types finds its type in every value. -/
theorem typed_untyped (v : Json) : r.typed d.untyped v = true := rfl

/-- A document about keys, rule by rule. -/
theorem accepts_aboutKeys_iff (h : d.AboutKeys) :
    r.accepts d (.object fields) = true ↔ r.typed d (.object fields) = true
      ∧ (∀ key ∈ d.required.getD [], (Json.findField? key fields).isSome = true)
      ∧ (∀ p ∈ d.properties.getD [], ∀ w ∈ Json.findField? p.1 fields, r.accepts p.2 w = true)
      ∧ r.acceptsExtra d.additionalProperties
          ((undeclared (d.properties.getD []) fields).map Prod.snd) = true := by
  have hproperties : r.acceptsProperties d.properties fields = true ↔
      ∀ p ∈ d.properties.getD [], ∀ w ∈ Json.findField? p.1 fields, r.accepts p.2 w = true := by
    cases d.properties with
    | none => simp
    | some properties => exact acceptsFields_iff
  rw [← hproperties, accepts_eq_and, h.eq, accepts_eq]
  cases d.required <;> simp [typed, ownRules, keyRules, Json.array?, Json.object?, Json.number?,
    Json.string?]

/-- The rule on types stands beside those on keys. -/
theorem accepts_untyped_iff (h : d.AboutKeys) : r.accepts d (.object fields) = true ↔
    r.typed d (.object fields) = true ∧ r.accepts d.untyped (.object fields) = true := by
  rw [accepts_aboutKeys_iff h, accepts_aboutKeys_iff h.untyped, typed_untyped]
  simp only [true_and]
  exact Iff.rfl

/-- Where undeclared keys are refused, every key has to be declared. -/
theorem acceptsExtra_refused_iff {declared : List (String × Document)} :
    r.acceptsExtra (some (.allowed false)) ((undeclared declared fields).map Prod.snd) = true ↔
      ∀ f ∈ fields, f.1 ∈ declared.map Prod.fst := by
  simp [acceptsExtra, undeclared, List.filter_eq_nil_iff, Json.findField?_eq_none_iff]

end Reading

namespace Document

variable {d : Document}

/-! ## The document with an id -/

theorem withId_of_closed (h : d.additionalProperties = some (.allowed false)) :
    d.withId = { d with
      required := some (if "_id" ∈ d.required.getD [] then d.required.getD []
        else "_id" :: d.required.getD [])
      properties := some (if "_id" ∈ d.declared then d.properties.getD []
        else Json.insertField "_id" (ofType .objectId) (d.properties.getD [])) } := by
  rw [withId, if_pos (isClosed_eq_true_iff.mpr h)]
  simp only [List.contains_iff_mem, Json.findField?_isSome_iff, declared]
  congr

theorem withId_of_open (h : d.additionalProperties ≠ some (.allowed false)) : d.withId = d :=
  if_neg (mt isClosed_eq_true_iff.mp h)

/-- A document that declares and requires the key already. -/
theorem withId_of_required (hr : "_id" ∈ d.required.getD []) (hd : "_id" ∈ d.declared) :
    d.withId = d := by
  obtain ⟨required, hrequired⟩ : ∃ keys, d.required = some keys := by
    cases h : d.required with
    | none => simp [h] at hr
    | some keys => exact ⟨keys, rfl⟩
  obtain ⟨properties, hproperties⟩ : ∃ ps, d.properties = some ps := by
    cases h : d.properties with
    | none => simp [h, declared] at hd
    | some ps => exact ⟨ps, rfl⟩
  by_cases h : d.additionalProperties = some (.allowed false)
  · rw [withId_of_closed h, if_pos hr, if_pos hd, hrequired, hproperties]
    cases d
    cases hrequired
    cases hproperties
    rfl
  · exact withId_of_open h

theorem additionalProperties_withId : d.withId.additionalProperties = d.additionalProperties := by
  unfold withId
  split <;> rfl

theorem bsonType_withId : d.withId.bsonType = d.bsonType := by
  unfold withId
  split <;> rfl

theorem mem_required_withId (h : d.additionalProperties = some (.allowed false)) {key : String} :
    key ∈ d.withId.required.getD [] ↔ key = "_id" ∨ key ∈ d.required.getD [] := by
  rw [withId_of_closed h, Option.getD_some]
  split
  · next hid => exact ⟨Or.inr, fun hk => hk.elim (fun he => he ▸ hid) id⟩
  · exact List.mem_cons

theorem mem_declared_withId (h : d.additionalProperties = some (.allowed false)) {key : String} :
    key ∈ d.withId.declared ↔ key = "_id" ∨ key ∈ d.declared := by
  rw [declared, withId_of_closed h, Option.getD_some]
  split
  · next hid => exact ⟨Or.inr, fun hk => hk.elim (fun he => he ▸ hid) id⟩
  · exact Json.mem_keys_insertField

theorem AboutKeys.withId (h : d.AboutKeys) : d.withId.AboutKeys := by
  by_cases hclosed : d.additionalProperties = some (.allowed false)
  · refine ⟨?_, fun key hkey => ?_⟩
    · rw [withId_of_closed hclosed, h.eq]
    · rw [mem_declared_withId hclosed]
      exact ((mem_required_withId hclosed).mp hkey).imp_right (h.required key)
  · rwa [withId_of_open hclosed]

/-- **Declaring the key a second time changes nothing.** -/
theorem withId_withId (d : Document) : d.withId.withId = d.withId := by
  by_cases h : d.additionalProperties = some (.allowed false)
  · exact withId_of_required ((mem_required_withId h).mpr (Or.inl rfl))
      ((mem_declared_withId h).mpr (Or.inl rfl))
  · rw [withId_of_open h, withId_of_open h]

end Document

namespace Reading

variable {r : Reading} {d : Document} {fields : List (String × Json)}

theorem typed_withId (v : Json) : r.typed d.withId v = r.typed d v := by
  rw [typed, Document.bsonType_withId, typed]

/-- **Where the key is declared, it is required besides.** -/
theorem accepts_withId_of_declared (ha : d.AboutKeys)
    (h : d.additionalProperties = some (.allowed false)) (hd : "_id" ∈ d.declared) :
    r.accepts d.withId (.object fields) = true ↔
      (Json.findField? "_id" fields).isSome = true ∧ r.accepts d (.object fields) = true := by
  have hproperties : d.withId.properties.getD [] = d.properties.getD [] := by
    rw [Document.withId_of_closed h, if_pos hd, Option.getD_some]
  rw [accepts_aboutKeys_iff ha.withId, accepts_aboutKeys_iff ha, hproperties, typed_withId,
    Document.additionalProperties_withId]
  simp only [Document.mem_required_withId h, forall_eq_or_imp, and_assoc, and_left_comm]

/-- **Where the key is not declared, an id is put to what was accepted before**, but the type is
looked for in the value that has the id. -/
theorem accepts_withId_of_undeclared (ha : d.AboutKeys)
    (h : d.additionalProperties = some (.allowed false)) (hd : "_id" ∉ d.declared) :
    r.accepts d.withId (.object fields) = true ↔
      (∃ w, Json.findField? "_id" fields = some w ∧ r.hasType .objectId w = true)
        ∧ r.typed d (.object fields) = true
        ∧ r.accepts d.untyped (.object (Json.without "_id" fields)) = true := by
  have hne : ∀ key, key ∈ d.declared → key ≠ "_id" := fun key hk he => hd (he ▸ hk)
  -- the keys of the document are looked up beside the id as they were without it
  have hrequired : (∀ key ∈ d.withId.required.getD [], (Json.findField? key fields).isSome = true)
      ↔ (Json.findField? "_id" fields).isSome = true ∧ ∀ key ∈ d.required.getD [],
        (Json.findField? key (Json.without "_id" fields)).isSome = true := by
    simp only [Document.mem_required_withId h, forall_eq_or_imp]
    refine and_congr_right fun _ => forall₂_congr fun key hkey => ?_
    rw [Json.findField?_without_of_ne (hne key (ha.required key hkey))]
  have hproperties : (∀ p ∈ d.withId.properties.getD [], ∀ w ∈ Json.findField? p.1 fields,
        r.accepts p.2 w = true)
      ↔ (∀ w ∈ Json.findField? "_id" fields, r.hasType .objectId w = true)
        ∧ ∀ p ∈ d.properties.getD [], ∀ w ∈ Json.findField? p.1 (Json.without "_id" fields),
          r.accepts p.2 w = true := by
    rw [Document.withId_of_closed h, if_neg hd, Option.getD_some]
    simp only [Json.mem_insertField_iff hd, forall_eq_or_imp, accepts_ofType]
    refine and_congr_right fun _ => forall₂_congr fun p hp => ?_
    rw [Json.findField?_without_of_ne (hne p.1 (List.mem_map_of_mem hp))]
  have hextra : (∀ f ∈ fields, f.1 ∈ d.withId.declared)
      ↔ ∀ f ∈ Json.without "_id" fields, f.1 ∈ d.declared := by
    simp only [Document.mem_declared_withId h, Json.without, List.mem_filter, bne_iff_ne, and_imp]
    exact forall₂_congr fun f _ => or_iff_not_imp_left
  have hid : (∃ w, Json.findField? "_id" fields = some w ∧ r.hasType .objectId w = true)
      ↔ (Json.findField? "_id" fields).isSome = true
        ∧ ∀ w ∈ Json.findField? "_id" fields, r.hasType .objectId w = true := by
    cases Json.findField? "_id" fields <;> simp
  have hopen : d.untyped.additionalProperties = some (.allowed false) := h
  rw [accepts_aboutKeys_iff ha.withId, accepts_aboutKeys_iff ha.untyped, typed_withId,
    typed_untyped, Document.additionalProperties_withId, h, hopen, acceptsExtra_refused_iff,
    acceptsExtra_refused_iff, hrequired, hproperties, hid]
  rw [Document.declared, Document.declared] at hextra
  rw [hextra]
  simp only [Document.untyped, true_and, and_assoc, and_left_comm]

end Reading

namespace Node

variable {n : Node} {shape : Shape Node} {unknownKeys : UnknownKeys} {catchall : Option Node}
  {title : Option String} {d : Document}

/-- The document of an object node is about keys, and asks for one type. -/
theorem aboutKeys_of_titledDocument? (hn : n.kind = .object shape unknownKeys catchall)
    (h : n.titledDocument? title = .ok d) : d.AboutKeys
      ∧ d.bsonType = some (.one ((Marker.ofDescription? n.description).getD .object)) := by
  obtain ⟨e, he, rfl⟩ := titledDocument?_eq_ok_iff.mp h
  obtain ⟨kind, description⟩ := n
  obtain rfl : kind = .object shape unknownKeys catchall := hn
  have hparts : ∀ m ∈ (NodeKind.object shape unknownKeys catchall).parts,
      m.document? = .ok m.document := document?_of_mem_translatedParts he
  cases he.symm.trans (document?_object (fun p hp => hparts p.2 (NodeKind.property_mem_parts hp))
    (fun m hm => hparts m (NodeKind.catchall_mem_parts hm)))
  have hkeys : (Document.ofObject shape (propertyDocuments shape) unknownKeys
      (catchall.map document)).AboutKeys := Document.aboutKeys_ofObject keys_propertyDocuments
  refine ⟨⟨?_, (hkeys.annotate description).required⟩,
    Document.bsonType_annotate_of_one rfl description⟩
  rw [(hkeys.annotate description).eq]

/-- **The document with an id accepts what the document accepts, and an id.** A document that takes
undeclared keys stays as it is. Where `_id` is declared, it has to be there; where it is not, it
has to be there and be an object id, the value has to have the type of the document, and the rest
has to meet all other rules. So the rest has to be accepted, where the type of the document is read
alike with and without the key, as it is if a reading takes all objects alike, and of objects that
have no marker by every standard reading. -/
theorem accepts_withId_iff (hn : n.kind = .object shape unknownKeys catchall)
    (h : n.titledDocument? title = .ok d) :
    d.withId.withId = d.withId
      ∧ (d.additionalProperties ≠ some (.allowed false) → d.withId = d)
      ∧ (d.additionalProperties = some (.allowed false) →
        ∀ (r : Reading) (fields : List (String × Json)),
          ("_id" ∈ d.declared →
            (r.accepts d.withId (.object fields) = true ↔
              (Json.findField? "_id" fields).isSome = true
                ∧ r.accepts d (.object fields) = true))
          ∧ ("_id" ∉ d.declared →
            (r.accepts d.withId (.object fields) = true ↔
              (∃ w, Json.findField? "_id" fields = some w ∧ r.hasType .objectId w = true)
                ∧ r.typed d (.object fields) = true
                ∧ r.accepts d.untyped (.object (Json.without "_id" fields)) = true)
            ∧ (r.typed d (.object fields) = r.typed d (.object (Json.without "_id" fields)) →
              (r.accepts d.withId (.object fields) = true ↔
                (∃ w, Json.findField? "_id" fields = some w ∧ r.hasType .objectId w = true)
                  ∧ r.accepts d (.object (Json.without "_id" fields)) = true))))
      ∧ (∀ r : Reading, (∀ (t : BsonType) (fields others : List (String × Json)),
          r.hasType t (.object fields) = r.hasType t (.object others)) →
        ∀ fields others : List (String × Json),
          r.typed d (.object fields) = r.typed d (.object others))
      ∧ (Marker.ofDescription? n.description = none → ∀ r : Reading, r.Standard →
        ∀ fields others : List (String × Json),
          r.typed d (.object fields) = r.typed d (.object others)) := by
  obtain ⟨ha, htype⟩ := aboutKeys_of_titledDocument? hn h
  refine ⟨d.withId_withId, Document.withId_of_open, fun hclosed r fields => ⟨fun hd => ?_,
    fun hd => ⟨?_, fun ht => ?_⟩⟩, fun r => Reading.typed_object_congr,
    fun hm r hr fields others => ?_⟩
  · exact Reading.accepts_withId_of_declared ha hclosed hd
  · exact Reading.accepts_withId_of_undeclared ha hclosed hd
  · rw [Reading.accepts_withId_of_undeclared ha hclosed hd, ht, Reading.accepts_untyped_iff ha]
  · rw [hm] at htype
    simp [Reading.typed, htype, BsonTypes.toList, hr.object, Json.object?]

/-- A note has a body, and may be pinned. -/
def note : Node :=
  ofShape (Shape.ofEntries [("body", string), ("pinned", ofKind (.withDefault (ofKind .boolean)
    (.bool false)))])

/-- A page may have a name for its id. -/
def page : Node :=
  ofShape (Shape.ofEntries [("_id", ofKind (.optional string)), ("body", string)])

/-- A note takes an id, and a page keeps its own. -/
theorem accepts_withId_iff_note_page :
    (∃ d, note.titledDocument? (some "Note") = .ok d ∧ "_id" ∉ d.declared
      ∧ Reading.plain.accepts d.withId
        (.object [("_id", .string "507f1f77bcf86cd799439011"), ("body", .string "hi")]) = true)
    ∧ ∃ d, page.titledDocument? none = .ok d ∧ "_id" ∈ d.declared
      ∧ Reading.plain.accepts d (.object [("body", .string "hi")]) = true
      ∧ Reading.plain.accepts d.withId (.object [("body", .string "hi")]) = false
      ∧ Reading.plain.accepts d.withId (.object [("_id", .string "home"), ("body", .string "hi")])
        = true := by
  have hnote : note.titledDocument? (some "Note")
      = .ok { note.document with title := some "Note" } := rfl
  have hpage : page.titledDocument? none = .ok page.document := rfl
  obtain ⟨-, -, hundeclared, -, halike⟩ := accepts_withId_iff rfl hnote
  obtain ⟨-, -, hdeclared, -⟩ := accepts_withId_iff rfl hpage
  refine ⟨⟨_, hnote, by decide, ?_⟩, _, hpage, by decide, by decide, ?_, ?_⟩
  · refine (((hundeclared rfl Reading.plain _).2 (by decide)).2
      (halike rfl _ Reading.plain_standard _ _)).mpr ⟨⟨_, rfl, by decide⟩, by decide⟩
  · rw [Bool.eq_false_iff]
    exact fun h => absurd (((hdeclared rfl Reading.plain _).1 (by decide)).mp h).1 (by decide)
  · exact ((hdeclared rfl Reading.plain _).1 (by decide)).mpr ⟨by decide, by decide⟩

/-- A reference is an object with the digits of an id, and is stored as the id. -/
def reference : Node := (ofShape [("$oid", string)]).describe "Ref[bsonType:objectId]"

/-- **A type may tell an object with an id from the one without**: a reference is an id, and is none
any more once it has one. -/
theorem reference_with_id_refused :
    let fields : List (String × Json) :=
      [("$oid", .string "507f1f77bcf86cd799439011"), ("_id", .string "507f191e810c19729de860ea")]
    reference.kind = .object [("$oid", string)] .strip none ∧ Reading.plain.Standard
    ∧ ∃ d, reference.titledDocument? none = .ok d
      ∧ d.additionalProperties = some (.allowed false) ∧ "_id" ∉ d.declared
      ∧ ¬ (Reading.plain.accepts d.withId (.object fields) = true ↔
        (∃ w, Json.findField? "_id" fields = some w ∧ Reading.plain.hasType .objectId w = true)
          ∧ Reading.plain.accepts d (.object (Json.without "_id" fields)) = true) := by
  refine ⟨rfl, Reading.plain_standard, _, rfl, rfl, by decide, fun hiff => ?_⟩
  have haccepts := hiff.mpr ⟨⟨_, rfl, by decide⟩, by decide⟩
  revert haccepts
  decide

end Node

end DocumentModel
