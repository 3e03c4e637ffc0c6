import Mathlib.Data.List.Basic
import DocumentModel.Proofs.Document.Reading
import DocumentModel.Proofs.Json.Equality
import DocumentModel.Proofs.Json.Fields
import DocumentModel.Proofs.Schema.Lengths

/-!
# What the documents of nodes accept

For every way of building a document, the values that the document accepts in terms of the documents
it is built from. A document without rules is often left out of another one; such a document accepts
every value, so that the lemmas do not see the difference.
-/

namespace DocumentModel

namespace Document

/-- A document without rules is the empty one. -/
theorem eq_empty_of_isEmpty {d : Document} (h : d.isEmpty = true) : d = {} := by
  unfold isEmpty at h
  split at h
  · rfl
  · cases h

end Document

/-- Elements that are checked for repetition are those that a document asks to be unique. -/
theorem hasDuplicate_eq_false_iff {items : List Json} :
    hasDuplicate items = false ↔ Json.allDistinct items = true := by
  rw [Json.allDistinct, decide_eq_true_iff]
  induction items with
  | nil => exact iff_of_true rfl List.Pairwise.nil
  | cons x rest ih =>
    rw [hasDuplicate, Bool.or_eq_false_iff, ih, List.pairwise_cons, List.any_eq_false]
    simp only [Bool.not_eq_true]

namespace Reading

variable {r : Reading} {v : Json}

/-! ## Rule by rule -/

/-- The rules of a document, one after the other. -/
theorem accepts_eq (d : Document) (v : Json) : r.accepts d v =
    (r.ownRules d v
    && v.array?.all (fun elements => r.acceptsItems d.items elements
      && r.acceptsExtra d.additionalItems (beyond d.items elements))
    && v.object?.all (fun fields => r.acceptsProperties d.properties fields
      && r.acceptsExtra d.additionalProperties
        ((undeclared (d.properties.getD []) fields).map Prod.snd))
    && (r.verdicts? d.allOf v).all (·.all id)
    && (r.verdicts? d.anyOf v).all (·.any id)
    && (r.verdicts? d.oneOf v).all (·.count true == 1)
    && !(r.acceptsSome d.no v)) := by
  cases d
  rw [accepts]

/-- The verdicts of alternatives are given one by one. -/
theorem verdicts_eq_map (ds : List Document) (v : Json) :
    r.verdicts ds v = ds.map (r.accepts · v) := by
  induction ds with
  | nil => rfl
  | cons d rest ih => rw [verdicts, ih, List.map_cons]

@[simp] theorem acceptsItems_none {elements : List Json} :
    r.acceptsItems none elements = true := rfl

@[simp] theorem acceptsExtra_none {others : List Json} : r.acceptsExtra none others = true := rfl

@[simp] theorem acceptsProperties_none {fields : List (String × Json)} :
    r.acceptsProperties none fields = true := rfl

@[simp] theorem acceptsSome_none : r.acceptsSome none v = false := rfl

@[simp] theorem verdicts?_none : r.verdicts? none v = none := rfl

/-- A document without bounds and steps says nothing of numbers. -/
@[simp] theorem numberRules_of_none {d : Document} (hl : d.minimum = none) (hm : d.maximum = none)
    (hs : d.multipleOf = none) : r.numberRules d = fun _ => true := by
  funext n
  simp [numberRules, hl, hm, hs]

/-- Without lengths and a pattern it says nothing of texts. -/
@[simp] theorem textRules_of_none {d : Document} (hl : d.minLength = none) (hm : d.maxLength = none)
    (hp : d.pattern = none) : r.textRules d = fun _ => true := by
  funext s
  simp [textRules, hl, hm, hp]

/-- Without counts it says nothing of lists. -/
@[simp] theorem countRules_of_none {d : Document} (hl : d.minItems = none) (hm : d.maxItems = none)
    (hu : d.uniqueItems = none) : countRules d = fun _ => true := by
  funext items
  simp [countRules, hl, hm, hu]

/-- Where nothing is required, objects may lack any key. -/
@[simp] theorem keyRules_of_none {d : Document} (h : d.required = none) :
    keyRules d = fun _ => true := by
  funext fields
  simp [keyRules, h]

/-! ## Leaves -/

/-- The empty document accepts every value. -/
@[simp] theorem accepts_empty : r.accepts {} v = true := by
  rw [accepts_eq]
  simp [ownRules]

theorem accepts_of_isEmpty {d : Document} (h : d.isEmpty = true) : r.accepts d v = true := by
  rw [Document.eq_empty_of_isEmpty h, accepts_empty]

/-- The document that denies it accepts none. -/
@[simp] theorem accepts_nothing : r.accepts .nothing v = false := by
  rw [accepts_eq]
  simp [acceptsSome, Document.nothing]

/-- Of the types that are listed a value needs to have one. -/
theorem accepts_typed {types : BsonTypes} :
    r.accepts (.typed types) v = types.toList.any (r.hasType · v) := by
  rw [accepts_eq]
  simp [Document.typed, ownRules]

theorem accepts_ofType {type : BsonType} : r.accepts (.ofType type) v = r.hasType type v := by
  rw [Document.ofType, accepts_typed]
  simp [BsonTypes.toList]

/-- Of the values that are listed a value needs to be one. -/
theorem accepts_enumeration {values : List Json} :
    r.accepts { enumeration := some values } v = Json.isIn v values := by
  rw [accepts_eq]
  simp [ownRules]

theorem accepts_typed_enumeration {types : BsonTypes} {values : List Json} :
    r.accepts { Document.typed types with enumeration := some values } v
      = (types.toList.any (r.hasType · v) && Json.isIn v values) := by
  rw [accepts_eq]
  simp [Document.typed, ownRules]

theorem accepts_lengths {text : Option String} {types : BsonTypes} {least most : Option Nat} :
    r.accepts
        { description := text, bsonType := some types, minLength := least, maxLength := most } v
      = (types.toList.any (r.hasType · v)
        && v.string?.all fun raw => least.all (· ≤ raw.length) && most.all (raw.length ≤ ·)) := by
  have ht : r.textRules
      { description := text, bsonType := some types, minLength := least, maxLength := most }
        = fun raw => least.all (· ≤ raw.length) && most.all (raw.length ≤ ·) := by
    funext raw
    simp [textRules]
  rw [accepts_eq]
  simp [ownRules, ht]

/-- Alternatives accept what one of them accepts. -/
theorem accepts_anyOf {ds : List Document} :
    r.accepts { anyOf := some ds } v = ds.any (r.accepts · v) := by
  rw [accepts_eq]
  simp [ownRules, verdicts?, verdicts_eq_map]

/-- Documents that have to hold together accept what all of them accept. -/
theorem accepts_allOf {ds : List Document} :
    r.accepts { allOf := some ds } v = ds.all (r.accepts · v) := by
  rw [accepts_eq]
  simp [ownRules, verdicts?, verdicts_eq_map]

/-! ## Descriptions -/

/-- Without a marker a description ends up in a document as a text, if anything. -/
theorem annotate_of_unmarked {description : Option String} (d : Document)
    (h : Marker.ofDescription? description = none) :
    ∃ text, d.annotate description = { d with description := text } := by
  cases description with
  | none =>
    cases d
    exact ⟨_, rfl⟩
  | some text =>
    have hs : Marker.split text = (Marker.nonEmpty? text, none) := by
      rw [Marker.split, show Marker.type? text = none from h]
    simp only [Document.annotate, hs]
    split
    · exact ⟨_, rfl⟩
    · cases d
      exact ⟨_, rfl⟩

/-- **A description without a marker changes nothing of what a document accepts.** -/
theorem accepts_annotate {description : Option String} {d : Document}
    (h : Marker.ofDescription? description = none) :
    r.accepts (d.annotate description) v = r.accepts d v := by
  obtain ⟨text, ht⟩ := annotate_of_unmarked d h
  rw [ht, accepts_eq, accepts_eq]
  rfl

/-- A type marker, if there is one, allows the value. -/
def MarkerAllows (r : Reading) (description : Option String) (v : Json) : Prop :=
  ∀ type ∈ Marker.ofDescription? description, r.hasType type v = true

/-- A marker changes the type of a document and is taken out of its text. -/
theorem annotate_of_marked {description : Option String} {type : BsonType} (d : Document)
    (h : Marker.ofDescription? description = some type) :
    ∃ text, d.annotate description = { d.withMarker type with description := text } := by
  cases description with
  | none => cases h
  | some text =>
    have hs : ∃ rest, Marker.split text = (rest, some type) := by
      rw [Marker.split, show Marker.type? text = some type from h]
      exact ⟨_, rfl⟩
    obtain ⟨rest, hs⟩ := hs
    simp only [Document.annotate, hs]
    cases rest with
    | some t => exact ⟨some t, rfl⟩
    | none => exact ⟨(d.withMarker type).description, rfl⟩

/-- The types that a document asks for, and its other rules. -/
theorem accepts_eq_and (d : Document) :
    r.accepts d v = (d.bsonType.all (fun types => types.toList.any (r.hasType · v))
      && r.accepts { d with bsonType := none } v) := by
  rw [accepts_eq, accepts_eq { d with bsonType := none }]
  simp only [ownRules, Option.all_none, Bool.true_and, Bool.and_assoc]
  rfl

/-- The type that a document asks for, apart from its other rules. -/
theorem accepts_iff_of_type {d : Document} (type? : Option BsonType)
    (hd : d.bsonType = type?.map .one) :
    r.accepts d v = true ↔ (∀ type ∈ type?, r.hasType type v = true)
      ∧ r.accepts { d with bsonType := none } v = true := by
  have htype : d.bsonType.all (fun types => types.toList.any (r.hasType · v)) = true ↔
      ∀ type ∈ type?, r.hasType type v = true := by
    rw [hd]
    cases type? <;> simp [BsonTypes.toList]
  rw [accepts_eq_and, Bool.and_eq_true, htype]

/-- **A marker takes the place of the one type that a document asks for.** -/
theorem accepts_annotate_iff {description : Option String} {d : Document} {type? : Option BsonType}
    (hd : d.bsonType = type?.map .one) :
    r.accepts (d.annotate description) v = true ↔
      (∀ type ∈ (Marker.ofDescription? description).or type?, r.hasType type v = true)
        ∧ r.accepts { d with bsonType := none } v = true := by
  cases hm : Marker.ofDescription? description with
  | none => rw [accepts_annotate hm, accepts_iff_of_type type? hd, Option.none_or]
  | some type =>
    have hone : d.withMarker type = { d with bsonType := some (.one type) } := by
      rw [Document.withMarker, hd]
      cases type? <;> rfl
    obtain ⟨text, ht⟩ := annotate_of_marked d hm
    rw [ht, hone, accepts_iff_of_type (some type) rfl, Option.some_or, accepts_eq,
      accepts_eq]
    rfl

/-- A value of the type that a document asks for has to be allowed by the marker besides. -/
theorem accepts_annotate_of_hasType {description : Option String} {d : Document} {type : BsonType}
    (hd : d.bsonType = some (.one type)) (ht : r.hasType type v = true) :
    r.accepts (d.annotate description) v = true ↔
      r.MarkerAllows description v ∧ r.accepts d v = true := by
  have hd' : d.bsonType = (some type).map .one := hd
  rw [accepts_annotate_iff hd', accepts_iff_of_type (some type) hd', MarkerAllows]
  cases Marker.ofDescription? description <;> simp [ht]

/-! ## Lists -/

/-- What a document with one type accepts has this type. -/
theorem hasType_of_accepts {d : Document} {type : BsonType} (hb : d.bsonType = some (.one type))
    (h : r.accepts d v = true) : r.hasType type v = true := by
  rw [accepts_eq] at h
  simp only [Bool.and_eq_true, ownRules, hb, Option.all_some, BsonTypes.toList, List.any_cons,
    List.any_nil, Bool.or_false] at h
  exact h.1.1.1.1.1.1.1.1.1.1.1

/-- A document of arrays accepts arrays only. -/
theorem accepts_iff_array (hr : r.Standard) {d : Document} (hb : d.bsonType = some (.one .array)) :
    r.accepts d v = true ↔ ∃ items, v = .array items ∧ r.accepts d (.array items) = true := by
  constructor
  · intro h
    have ht := hasType_of_accepts hb h
    rw [hr.array] at ht
    cases v with
    | array items => exact ⟨items, rfl, h⟩
    | _ => cases ht
  · rintro ⟨items, rfl, h⟩
    exact h

/-- No rule for elements is as good as one that accepts all of them. -/
theorem acceptsItems_elements? {d : Document} {items : List Json} :
    r.acceptsItems (Document.elements? d) items = items.all (r.accepts d) := by
  unfold Document.elements?
  split
  · next h =>
    symm
    rw [acceptsItems_none, List.all_eq_true]
    exact fun x _ => accepts_of_isEmpty h
  · rfl

/-- **The document of an array accepts arrays of as many elements as it may have, which the document
of the elements accepts.** -/
theorem accepts_ofList (hr : r.Standard) {element : Document} {bounds : Bounds} :
    r.accepts (.ofList element bounds) v = true ↔
      ∃ items, v = .array items ∧ bounds.faults items.length = []
        ∧ ∀ x ∈ items, r.accepts element x = true := by
  rw [accepts_iff_array hr rfl]
  refine exists_congr fun items => and_congr_right fun _ => ?_
  rw [accepts_eq, Bounds.faults_eq_nil_iff, ← List.all_eq_true]
  simp [Document.ofList, Document.ofType, Document.typed, ownRules, BsonTypes.toList,
    acceptsItems_elements?, Json.array?, Json.object?, hr.array, countRules]

theorem accepts_ofSet (hr : r.Standard) {element : Document} {bounds : Bounds} :
    r.accepts { Document.ofList element bounds with uniqueItems := some true } v = true ↔
      ∃ items, v = .array items ∧ bounds.faults items.length = []
        ∧ Json.allDistinct items = true ∧ ∀ x ∈ items, r.accepts element x = true := by
  rw [accepts_iff_array hr rfl]
  refine exists_congr fun items => and_congr_right fun _ => ?_
  rw [accepts_eq, Bounds.faults_eq_nil_iff, ← List.all_eq_true]
  simp [Document.ofList, Document.ofType, Document.typed, ownRules, BsonTypes.toList,
    acceptsItems_elements?, Json.array?, Json.object?, hr.array, countRules, and_assoc]

/-- Items are accepted by the documents at their positions. -/
theorem acceptsEach_iff {ds : List Document} {items : List Json} :
    r.acceptsEach ds items = true ↔ ∀ e ∈ ds.zip items, r.accepts e.1 e.2 = true := by
  induction ds generalizing items with
  | nil => simp [acceptsEach]
  | cons d rest ih =>
    cases items with
    | nil => simp [acceptsEach]
    | cons x xs => rw [acceptsEach, Bool.and_eq_true, ih, List.zip_cons_cons, List.forall_mem_cons]

/-- The document of a tuple accepts arrays that are long enough, and not too long without a rest. -/
theorem accepts_ofTuple (hr : r.Standard) {ds : List Document} {rest : Option Document} :
    r.accepts (.ofTuple ds rest) v = true ↔
      ∃ items, v = .array items ∧ ds.length ≤ items.length
        ∧ (rest = none → items.length ≤ ds.length)
        ∧ (∀ e ∈ ds.zip items, r.accepts e.1 e.2 = true)
        ∧ ∀ d ∈ rest, ∀ x ∈ items.drop ds.length, r.accepts d x = true := by
  cases rest with
  | none =>
    rw [accepts_iff_array hr rfl]
    refine exists_congr fun items => and_congr_right fun _ => ?_
    rw [accepts_eq, ← acceptsEach_iff]
    simp [Document.ofTuple, Document.ofType, Document.typed, ownRules, BsonTypes.toList,
      acceptsItems, acceptsExtra, beyond, Json.array?, Json.object?, hr.array, countRules,
      and_assoc]
    exact fun _ h _ => h
  | some d =>
    rw [accepts_iff_array hr rfl]
    refine exists_congr fun items => and_congr_right fun _ => ?_
    rw [accepts_eq, ← acceptsEach_iff]
    simp [Document.ofTuple, Document.ofType, Document.typed, ownRules, BsonTypes.toList,
      acceptsItems, acceptsExtra, beyond, Json.array?, Json.object?, hr.array, countRules]

/-- The document that a map has for its entries. -/
def pairOf (key item : Document) : Document :=
  { Document.ofType .array with
    items := if key.isEmpty && item.isEmpty then none else some (.each [key, item])
    minItems := some 2, maxItems := some 2 }

/-- The document of a pair accepts lists of two. -/
theorem accepts_pairOf (hr : r.Standard) {key item : Document} :
    r.accepts (pairOf key item) v = true ↔
      ∃ k x, v = .array [k, x] ∧ r.accepts key k = true ∧ r.accepts item x = true := by
  have hpair : ∀ k x, r.acceptsItems (pairOf key item).items [k, x]
      = (r.accepts key k && r.accepts item x) := by
    intro k x
    simp only [pairOf]
    split
    · next h =>
      rw [Bool.and_eq_true] at h
      rw [acceptsItems_none, accepts_of_isEmpty h.1, accepts_of_isEmpty h.2, Bool.and_self]
    · simp [acceptsItems, acceptsEach]
  have hall : ∀ k x, r.accepts (pairOf key item) (.array [k, x])
      = (r.accepts key k && r.accepts item x) := by
    intro k x
    rw [accepts_eq, ← hpair]
    simp [pairOf, Document.ofType, Document.typed, ownRules, BsonTypes.toList, Json.array?,
      Json.object?, hr.array, countRules]
  rw [accepts_iff_array hr rfl]
  constructor
  · rintro ⟨items, rfl, h⟩
    have hlen : items.length = 2 := by
      rw [accepts_eq] at h
      simp [pairOf, ownRules, Json.array?, countRules] at h
      omega
    obtain ⟨k, x, rfl⟩ := List.length_eq_two.mp hlen
    rw [hall, Bool.and_eq_true] at h
    exact ⟨k, x, rfl, h⟩
  · rintro ⟨k, x, rfl, h⟩
    exact ⟨_, rfl, by rw [hall, Bool.and_eq_true]; exact h⟩

/-- The document of a map accepts arrays of pairs. -/
theorem accepts_ofMap (hr : r.Standard) {key item : Document} :
    r.accepts (.ofMap key item) v = true ↔
      ∃ entries, v = .array entries ∧ ∀ e ∈ entries,
        ∃ k x, e = .array [k, x] ∧ r.accepts key k = true ∧ r.accepts item x = true := by
  rw [accepts_iff_array hr rfl]
  refine exists_congr fun entries => and_congr_right fun _ => ?_
  simp only [← accepts_pairOf hr]
  rw [← List.all_eq_true, accepts_eq]
  simp [Document.ofMap, pairOf, Document.ofType, Document.typed, ownRules, BsonTypes.toList,
    acceptsItems, Json.array?, Json.object?, hr.array]

/-! ## Objects -/

/-- A document of objects accepts objects only. -/
theorem accepts_iff_object (hr : r.Standard) {d : Document}
    (hb : d.bsonType = some (.one .object)) :
    r.accepts d v = true ↔ ∃ fields, v = .object fields ∧ r.accepts d (.object fields) = true := by
  constructor
  · intro h
    have ht := hasType_of_accepts hb h
    rw [hr.object] at ht
    cases v with
    | object fields => exact ⟨fields, rfl, h⟩
    | _ => cases ht
  · rintro ⟨fields, rfl, h⟩
    exact h

theorem undeclared_nil {α : Type} {fields : List (String × Json)} :
    undeclared ([] : List (String × α)) fields = fields := by
  simp [undeclared, Json.findField?]

/-- Which fields are declared is a matter of the declared keys alone. -/
theorem undeclared_congr {α β : Type} {declared : List (String × α)} {others : List (String × β)}
    (h : ∀ key, key ∈ declared.map Prod.fst ↔ key ∈ others.map Prod.fst)
    (fields : List (String × Json)) : undeclared declared fields = undeclared others fields := by
  refine List.filter_congr fun field _ => ?_
  rw [Bool.eq_iff_iff, Json.findField?_isNone_iff, Json.findField?_isNone_iff, h]

/-- The document of a record accepts objects whose values it accepts, under any keys. -/
theorem accepts_ofRecord (hr : r.Standard) {item : Document} :
    r.accepts (.ofRecord item) v = true ↔
      ∃ fields, v = .object fields ∧ ∀ f ∈ fields, r.accepts item f.2 = true := by
  have hextra : ∀ others : List Json,
      r.acceptsExtra (some (if item.isEmpty then .allowed true else .schema item)) others
        = others.all (r.accepts item) := by
    intro others
    split
    · next h =>
      symm
      rw [acceptsExtra, Bool.true_or, List.all_eq_true]
      exact fun x _ => accepts_of_isEmpty h
    · rfl
  rw [accepts_iff_object hr rfl]
  refine exists_congr fun fields => and_congr_right fun _ => ?_
  rw [accepts_eq]
  simp [Document.ofRecord, Document.ofType, Document.typed, ownRules, BsonTypes.toList,
    Json.array?, Json.object?, hr.object, hextra, undeclared_nil]

/-- A declared property counts where the object has its key. -/
theorem acceptsFields_iff {declared : List (String × Document)} {fields : List (String × Json)} :
    r.acceptsFields declared fields = true ↔
      ∀ p ∈ declared, ∀ w ∈ Json.findField? p.1 fields, r.accepts p.2 w = true := by
  induction declared with
  | nil => simp [acceptsFields]
  | cons p rest ih =>
    obtain ⟨key, d⟩ := p
    rw [acceptsFields, Bool.and_eq_true, ih, List.forall_mem_cons, Option.all_eq_true]
    rfl

/-- Whether a document for undeclared keys, or the policy for them, admits some fields. -/
def ExtraAccepted (r : Reading) : UnknownKeys → Option Document → List (String × Json) → Prop
  | _, some d, others => ∀ f ∈ others, r.accepts d f.2 = true
  | .passthrough, none, _ => True
  | _, none, others => others = []

theorem acceptsExtra_iff {unknownKeys : UnknownKeys} {extra : Option Document}
    {others : List (String × Json)} :
    r.acceptsExtra (match extra, unknownKeys with
        | some d, _ => if d.isEmpty then none else some (.schema d)
        | none, .passthrough => none
        | none, .strict | none, .strip => some (.allowed false)) (others.map Prod.snd) = true
      ↔ r.ExtraAccepted unknownKeys extra others := by
  cases extra with
  | none => cases unknownKeys <;> simp [acceptsExtra, ExtraAccepted]
  | some d =>
    simp only [ExtraAccepted]
    split
    · next h => simp [accepts_of_isEmpty h]
    · simp [acceptsExtra]

variable {properties : List (String × Document)} {fields : List (String × Json)}

/-- The rule for declared keys, left out where no key is declared. -/
def declaredRule (properties : List (String × Document)) : Option (List (String × Document)) :=
  if properties.isEmpty then none else some (Json.sortFields properties)

/-- No rule for properties is as good as an empty one. -/
theorem acceptsProperties_declaredRule (hnd : (properties.map Prod.fst).Nodup) :
    r.acceptsProperties (declaredRule properties) fields = true ↔
      ∀ p ∈ properties, ∀ w ∈ Json.findField? p.1 fields, r.accepts p.2 w = true := by
  unfold declaredRule
  split
  · next h => simp [List.isEmpty_iff.mp h]
  · simp only [acceptsProperties, acceptsFields_iff, Json.mem_sortFields hnd]

theorem undeclared_declaredRule :
    undeclared ((declaredRule properties).getD []) fields = undeclared properties fields := by
  refine undeclared_congr (fun key => ?_) fields
  unfold declaredRule
  split
  · next h => simp [List.isEmpty_iff.mp h]
  · exact Json.mem_keys_sortFields

/-- A rule that is left out when it is about no keys is one about those keys. -/
theorem getD_unless_empty {α : Type} {keys : List α} :
    (if keys.isEmpty then none else some keys).getD [] = keys := by
  cases keys <;> rfl

/-- The rules of an object, one after the other. -/
theorem accepts_fieldRules (hr : r.Standard) {required : Option (List String)}
    {declared : Option (List (String × Document))} {extra : Option (Extra Document)} :
    r.accepts { Document.ofType .object with
        required := required, properties := declared, additionalProperties := extra }
        (.object fields) = true ↔
      (∀ key ∈ required.getD [], (Json.findField? key fields).isSome = true)
        ∧ r.acceptsProperties declared fields = true
        ∧ r.acceptsExtra extra ((undeclared (declared.getD []) fields).map Prod.snd) = true := by
  rw [accepts_eq]
  cases required <;>
    simp [Document.ofType, Document.typed, ownRules, BsonTypes.toList, Json.array?, Json.object?,
      hr.object, keyRules]

/-- **The document of an object accepts objects that have the required keys, whose declared keys
hold accepted values, and whose other keys may be there.** -/
theorem accepts_ofObject (hr : r.Standard) {shape : List (String × Node)}
    {unknownKeys : UnknownKeys} {extra : Option Document}
    (hnd : (properties.map Prod.fst).Nodup) :
    r.accepts (.ofObject shape properties unknownKeys extra) v = true ↔
      ∃ fields, v = .object fields
        ∧ (∀ p ∈ shape, p.2.acceptsMissing = false → (Json.findField? p.1 fields).isSome = true)
        ∧ (∀ p ∈ properties, ∀ w ∈ Json.findField? p.1 fields, r.accepts p.2 w = true)
        ∧ r.ExtraAccepted unknownKeys extra (undeclared properties fields) := by
  rw [accepts_iff_object hr rfl]
  refine exists_congr fun fields => and_congr_right fun _ => ?_
  rw [← acceptsProperties_declaredRule hnd, ← undeclared_declaredRule, ← acceptsExtra_iff]
  refine (accepts_fieldRules hr).trans (and_congr_left fun _ => ?_)
  rw [getD_unless_empty]
  simp

end Reading

end DocumentModel
