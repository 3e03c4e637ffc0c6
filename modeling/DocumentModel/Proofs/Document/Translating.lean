import DocumentModel.Proofs.Compile.Steps
import DocumentModel.Proofs.Document.Accepting
import DocumentModel.Proofs.Document.Parts
import DocumentModel.Proofs.Document.Translated
import DocumentModel.Proofs.Json.Fields

/-!
# What holds of the documents of nodes

A node is translated by building a document from the documents of its parts and annotating it. So a
condition that every way of building meets (`Document.Builds`) holds of the document of a node
and of all documents inside it (`Node.throughout_of_shown`, `Node.throughout_of_document?`).
-/

namespace DocumentModel

namespace Document

variable {P : Document → Prop} {d e : Document}

/-! ## Forms of built documents -/

/-- A description replaces the text of a document and its type, if anything. -/
theorem exists_annotate_eq (description : Option String) (d : Document) :
    ∃ types text, d.annotate description = { d with bsonType := types, description := text }
      ∧ (types = d.bsonType ∨ ∃ type, types = (d.withMarker type).bsonType) := by
  cases hm : Marker.ofDescription? description with
  | none =>
    obtain ⟨text, ht⟩ := Reading.annotate_of_unmarked d hm
    exact ⟨_, text, ht, Or.inl rfl⟩
  | some type =>
    obtain ⟨text, ht⟩ := Reading.annotate_of_marked d hm
    exact ⟨_, text, ht, Or.inr ⟨type, rfl⟩⟩

/-- A marker takes the place of the one type that a document asks for. -/
theorem bsonType_annotate_of_one {type : BsonType} (h : d.bsonType = some (.one type))
    (description : Option String) :
    (d.annotate description).bsonType
      = some (.one ((Marker.ofDescription? description).getD type)) := by
  cases hm : Marker.ofDescription? description with
  | none =>
    obtain ⟨text, ht⟩ := Reading.annotate_of_unmarked d hm
    rw [ht]
    exact h
  | some marked =>
    obtain ⟨text, ht⟩ := Reading.annotate_of_marked d hm
    rw [ht]
    simp [withMarker, h]

theorem exists_foldl_withLength (checks : List StringCheck) (d : Document) : ∃ least most,
    checks.foldl withLength d = { d with minLength := least, maxLength := most } := by
  induction checks generalizing d with
  | nil =>
    cases d
    exact ⟨_, _, rfl⟩
  | cons check rest ih =>
    obtain ⟨least, most, h⟩ := ih (withLength d check)
    rw [List.foldl_cons, h]
    cases check <;> exact ⟨least, most, rfl⟩

/-- Checks on strings state lengths, and one pattern or several ones. -/
theorem exists_ofStringChecks_eq (checks : List StringCheck) : ∃ least most pattern allOf,
    ofStringChecks checks =
      { bsonType := some (.one .string), minLength := least, maxLength := most, pattern := pattern,
        allOf := allOf }
      ∧ ∀ ds ∈ allOf, ds ≠ [] ∧ ∀ e ∈ ds, ∃ pattern, e = { pattern := some pattern } := by
  obtain ⟨least, most, h⟩ := exists_foldl_withLength checks (ofType .string)
  rw [ofStringChecks, h]
  unfold withPatterns
  split
  · exact ⟨least, most, none, none, rfl, by rintro _ ⟨⟩⟩
  · exact ⟨least, most, some _, none, rfl, by rintro _ ⟨⟩⟩
  · next patterns hne _ =>
    refine ⟨least, most, none, _, rfl, ?_⟩
    rintro _ ⟨⟩
    refine ⟨by simpa using hne, fun e he => ?_⟩
    obtain ⟨pattern, -, rfl⟩ := List.mem_map.mp he
    exact ⟨pattern, rfl⟩

theorem exists_foldl_withNumberCheck (checks : List NumberCheck) (d : Document) :
    ∃ types step low exclusiveLow high exclusiveHigh,
      checks.foldl withNumberCheck d =
        { d with
          bsonType := types, multipleOf := step, minimum := low, exclusiveMinimum := exclusiveLow,
          maximum := high, exclusiveMaximum := exclusiveHigh }
      ∧ (types = d.bsonType ∨ types = some (.one .int)) := by
  induction checks generalizing d with
  | nil =>
    cases d
    exact ⟨_, _, _, _, _, _, rfl, Or.inl rfl⟩
  | cons check rest ih =>
    obtain ⟨types, step, low, exclusiveLow, high, exclusiveHigh, h, ht⟩ :=
      ih (withNumberCheck d check)
    refine ⟨types, step, low, exclusiveLow, high, exclusiveHigh, ?_, ?_⟩
    · rw [List.foldl_cons, h]
      cases check <;> rfl
    · cases check with
      | int => exact Or.inr (ht.elim id id)
      | _ => exact ht

/-- Checks on numbers state a step and bounds, and perhaps that the numbers are integers. -/
theorem exists_ofNumberChecks_eq (checks : List NumberCheck) :
    ∃ type step low exclusiveLow high exclusiveHigh,
      ofNumberChecks checks =
        { bsonType := some (.one type), multipleOf := step, minimum := low,
          exclusiveMinimum := exclusiveLow, maximum := high, exclusiveMaximum := exclusiveHigh }
      ∧ (type = .number ∨ type = .int) := by
  obtain ⟨types, step, low, exclusiveLow, high, exclusiveHigh, h, ht⟩ :=
    exists_foldl_withNumberCheck checks (ofType .number)
  rcases ht with rfl | rfl
  · exact ⟨.number, _, _, _, _, _, h, Or.inl rfl⟩
  · exact ⟨.int, _, _, _, _, _, h, Or.inr rfl⟩

/-- Alternatives in one document state types, and perhaps values. -/
theorem exists_eq_of_collapse? {branches : List Node} (h : collapse? branches = some d) :
    ∃ types values, d = { bsonType := some types, enumeration := values } := by
  unfold collapse? at h
  split at h
  · cases h
    exact ⟨_, none, rfl⟩
  · split at h
    · cases h
      exact ⟨_, some _, rfl⟩
    · split at h
      · cases h
        exact ⟨_, some _, rfl⟩
      · cases h

/-! ## Parts of built documents -/

theorem parts_annotate (description : Option String) (d : Document) :
    (d.annotate description).parts = d.parts := by
  obtain ⟨types, text, h, -⟩ := exists_annotate_eq description d
  rw [h]
  rfl

theorem throughout_iff : d.Throughout P ↔ P d ∧ ∀ e ∈ d.parts, e.Throughout P :=
  ⟨fun h => ⟨h.here, fun _ he => h.part he⟩, fun h => .intro h.1 h.2⟩

theorem throughout_of_parts_eq_nil (h : d.parts = []) (hd : P d) : d.Throughout P :=
  .intro hd (by rw [h]; exact nofun)

theorem mem_elements? (h : e ∈ ((elements? d).map ItemRules.parts).getD []) : e = d := by
  unfold elements? at h
  split at h
  · cases h
  · exact List.mem_singleton.mp h

theorem mem_parts_ofList {bounds : Bounds} (h : e ∈ (ofList d bounds).parts) : e = d := by
  refine mem_elements? ?_
  simpa [parts, ofList, ofType, typed] using h

theorem mem_parts_ofSet {bounds : Bounds}
    (h : e ∈ parts { ofList d bounds with uniqueItems := some true }) : e = d := by
  have hlist : e ∈ (ofList d bounds).parts := h
  exact mem_parts_ofList hlist

theorem mem_parts_ofTuple {ds : List Document} {rest : Option Document}
    (h : e ∈ (ofTuple ds rest).parts) : e ∈ ds ∨ rest = some e := by
  cases rest with
  | none => simpa [parts, ofTuple, ofType, typed, ItemRules.parts, Extra.parts] using h
  | some extra =>
    simpa [parts, ofTuple, ofType, typed, ItemRules.parts, Extra.parts, eq_comm] using h

theorem mem_parts_ofRecord (h : e ∈ (ofRecord d).parts) : e = d := by
  unfold ofRecord at h
  split at h
  · simp [parts, ofType, typed, Extra.parts] at h
  · simpa [parts, ofType, typed, Extra.parts] using h

theorem mem_parts_ofObject {shape : Shape Node} {properties : List (String × Document)}
    {unknownKeys : UnknownKeys} {extra : Option Document}
    (h : e ∈ (ofObject shape properties unknownKeys extra).parts) :
    (∃ q ∈ properties, q.2 = e) ∨ extra = some e := by
  simp only [parts, ofObject, ofType, typed, Option.map_none, Option.getD_none, List.nil_append,
    List.append_nil, Option.toList_none, List.mem_append] at h
  rcases h with h | h
  · left
    split at h
    · cases h
    · obtain ⟨q, hq, rfl⟩ := List.mem_map.mp h
      exact ⟨q, Json.mem_of_mem_sortFields hq, rfl⟩
  · right
    split at h
    · split at h
      · cases h
      · rw [List.mem_singleton.mp h]
    · cases h
    · cases h
    · cases h

theorem mem_parts_pairOf {key item : Document} (h : e ∈ (Reading.pairOf key item).parts) :
    e = key ∨ e = item := by
  unfold Reading.pairOf at h
  split at h
  · simp [parts, ofType, typed] at h
  · simpa [parts, ofType, typed, ItemRules.parts] using h

theorem mem_parts_ofStringChecks {checks : List StringCheck}
    (h : e ∈ (ofStringChecks checks).parts) : ∃ pattern, e = { pattern := some pattern } := by
  obtain ⟨least, most, pattern, allOf, hd, hall⟩ := exists_ofStringChecks_eq checks
  rw [hd] at h
  cases allOf with
  | none => cases h
  | some ds => exact (hall ds rfl).2 e (by simpa [parts] using h)

theorem parts_ofNumberChecks (checks : List NumberCheck) : (ofNumberChecks checks).parts = [] := by
  obtain ⟨_, _, _, _, _, _, hd, -⟩ := exists_ofNumberChecks_eq checks
  rw [hd]
  rfl

theorem parts_of_collapse? {branches : List Node} (h : collapse? branches = some d) :
    d.parts = [] := by
  obtain ⟨types, values, rfl⟩ := exists_eq_of_collapse? h
  rfl

/-! ## Ways of building -/

/-- Every way of building a document for a node that meets `p` builds one that meets `P`. Of the
alternatives that are put into one document `q` is known. -/
structure Builds (P : Document → Prop) (p : Node → Prop) (q : Node → Prop := p) : Prop where
  annotate (description : Option String) {d : Document} (h : P d) : P (d.annotate description)
  empty : P {}
  nothing : P .nothing
  ofType (type : BsonType) : P (.ofType type)
  pattern (pattern : String) : P { pattern := some pattern }
  string (checks : List StringCheck) (description : Option String)
    (h : p ⟨.string checks, description⟩) : P (.ofStringChecks checks)
  number (checks : List NumberCheck) (description : Option String)
    (h : p ⟨.number checks, description⟩) : P (.ofNumberChecks checks)
  literal (value : Json) (description : Option String) (h : p ⟨.literal value, description⟩) :
    P { enumeration := some [value] }
  enumeration (values : List String) (description : Option String)
    (h : p ⟨.enumeration values, description⟩) :
    P { Document.ofType .string with enumeration := some (values.map Json.string) }
  nativeEnum (members : List EnumMember) (description : Option String)
    (h : p ⟨.nativeEnum members, description⟩) : P (.ofEnumMembers members)
  object (shape : List (String × Node)) (unknownKeys : UnknownKeys) (catchall : Option Node)
    (description : Option String) (h : p ⟨.object shape unknownKeys catchall, description⟩)
    (properties : List (String × Document)) (extra : Option Document)
    (hk : properties.map Prod.fst = shape.map Prod.fst) :
    P (.ofObject shape properties unknownKeys extra)
  record (item : Document) : P (.ofRecord item)
  list (element : Document) (bounds : Bounds) : P (.ofList element bounds)
  set (element : Document) (bounds : Bounds) :
    P { Document.ofList element bounds with uniqueItems := some true }
  tuple (items : List Document) (rest : Option Document) : P (.ofTuple items rest)
  pair (key item : Document) : P (Reading.pairOf key item)
  map (key item : Document) : P (.ofMap key item)
  collapsed (branches : List Node) (description : Option String)
    (h : p ⟨.union branches, description⟩) (hs : ∀ b ∈ branches, q b) (hne : branches ≠ [])
    {d : Document} (hd : collapse? branches = some d) : P d
  anyOf (first : Document) (rest : List Document) : P { anyOf := some (first :: rest) }
  allOf (left right : Document) : P { allOf := some [left, right] }
  nullable {d : Document} (h : P d) : P (.ofNullable true d)

namespace Builds

variable {p q : Node → Prop} {description : Option String}

/-! ## Built documents at every depth -/

/-- A description changes none of the documents below. -/
theorem throughout_annotate (hb : Builds P p q) (h : d.Throughout P) :
    (d.annotate description).Throughout P := by
  refine .intro (hb.annotate description h.here) fun e he => ?_
  rw [parts_annotate] at he
  exact h.part he

/-- The document without parts that asks for one type meets the condition. -/
theorem throughout_ofType (hb : Builds P p q) (type : BsonType) :
    (Document.ofType type).Throughout P :=
  throughout_of_parts_eq_nil rfl (hb.ofType type)

/-- The document that no value meets denies the empty document. -/
theorem throughout_nothing (hb : Builds P p q) : Document.nothing.Throughout P :=
  .intro hb.nothing (List.forall_mem_singleton.mpr (throughout_of_parts_eq_nil rfl hb.empty))

/-- Below the document of a string there are documents with a pattern only. -/
theorem throughout_ofStringChecks (hb : Builds P p q) {checks : List StringCheck}
    (hp : p ⟨.string checks, description⟩) : (ofStringChecks checks).Throughout P := by
  refine .intro (hb.string checks description hp) fun e he => ?_
  obtain ⟨pattern, rfl⟩ := mem_parts_ofStringChecks he
  exact throughout_of_parts_eq_nil rfl (hb.pattern pattern)

/-- Below the document of an object there are those of its keys and of its other keys. -/
theorem throughout_ofObject (hb : Builds P p q) {shape : List (String × Node)}
    {unknownKeys : UnknownKeys} {catchall : Option Node}
    (hp : p ⟨.object shape unknownKeys catchall, description⟩)
    (hproperties : ∀ e ∈ shape, e.2.document.Throughout P)
    (hextra : ∀ c ∈ catchall, c.document.Throughout P) :
    (ofObject shape (Node.propertyDocuments shape) unknownKeys
      (catchall.map Node.document)).Throughout P := by
  refine .intro (hb.object shape unknownKeys catchall description hp _ _
    Node.keys_propertyDocuments) fun x hx => ?_
  rcases mem_parts_ofObject hx with ⟨q, hq, rfl⟩ | hx
  · obtain ⟨e, he, rfl⟩ := List.mem_map.mp hq
    exact hproperties e he
  · obtain ⟨c, hc, rfl⟩ := Option.map_eq_some_iff.mp hx
    exact hextra c hc

/-- Below the document of a record there is the one of its items at most. -/
theorem throughout_ofRecord (hb : Builds P p q) (h : d.Throughout P) :
    (ofRecord d).Throughout P := by
  refine .intro (hb.record d) fun x hx => ?_
  rw [mem_parts_ofRecord hx]
  exact h

/-- Below the document of an array there is the one of its elements at most. -/
theorem throughout_ofList (hb : Builds P p q) {bounds : Bounds} (h : d.Throughout P) :
    (ofList d bounds).Throughout P := by
  refine .intro (hb.list d bounds) fun x hx => ?_
  rw [mem_parts_ofList hx]
  exact h

/-- Below the document of a set there is the one of its elements at most. -/
theorem throughout_ofSet (hb : Builds P p q) {bounds : Bounds} (h : d.Throughout P) :
    Throughout P { ofList d bounds with uniqueItems := some true } := by
  refine .intro (hb.set d bounds) fun x hx => ?_
  rw [mem_parts_ofSet hx]
  exact h

/-- Below the document of a tuple there are those of its items and of the rest. -/
theorem throughout_ofTuple (hb : Builds P p q) {items : List Node} {rest : Option Node}
    (hitems : ∀ m ∈ items, m.document.Throughout P) (hrest : ∀ m ∈ rest, m.document.Throughout P) :
    (ofTuple (items.map Node.document) (rest.map Node.document)).Throughout P := by
  refine .intro (hb.tuple (items.map Node.document) (rest.map Node.document)) fun x hx => ?_
  rcases mem_parts_ofTuple hx with hx | hx
  · obtain ⟨m, hm, rfl⟩ := List.mem_map.mp hx
    exact hitems m hm
  · obtain ⟨m, hm, rfl⟩ := Option.map_eq_some_iff.mp hx
    exact hrest m hm

/-- Below the document of a map there is the one of its pairs, and below that the key and the
item. -/
theorem throughout_ofMap (hb : Builds P p q) {key item : Document} (hkey : key.Throughout P)
    (hitem : item.Throughout P) : (ofMap key item).Throughout P := by
  refine .intro (hb.map key item) (List.forall_mem_singleton.mpr ?_)
  refine .intro (hb.pair key item) fun x hx => ?_
  rcases mem_parts_pairOf hx with rfl | rfl
  · exact hkey
  · exact hitem

/-- Alternatives are put into one document, which has no parts, or each stands below on its own. -/
theorem throughout_unionDocument (hb : Builds P p q) {branches : List Node}
    (hp : p ⟨.union branches, description⟩) (hq : ∀ b ∈ branches, q b)
    (h : ∀ m ∈ (NodeKind.union branches).shownParts, m.document.Throughout P) :
    (Node.unionDocument branches).Throughout P := by
  unfold Node.unionDocument
  split
  · exact hb.throughout_nothing
  · next hne =>
    rw [List.isEmpty_iff] at hne
    cases hc : collapse? branches with
    | some e =>
      exact throughout_of_parts_eq_nil (parts_of_collapse? hc)
        (hb.collapsed branches description hp hq hne hc)
    | none =>
      rw [NodeKind.shownParts_of_collapse?_eq_none hc] at h
      obtain ⟨first, rest, rfl⟩ := List.exists_cons_of_ne_nil hne
      refine .intro (hb.anyOf first.document (rest.map Node.document)) fun x hx => ?_
      have hx : x ∈ (first :: rest).map Node.document := by simpa [Document.parts] using hx
      obtain ⟨m, hm, rfl⟩ := List.mem_map.mp hx
      exact h m hm

/-- Below two documents that must both be met there are these two. -/
theorem throughout_allOf (hb : Builds P p q) (hd : d.Throughout P) (he : e.Throughout P) :
    Throughout P { allOf := some [d, e] } :=
  .intro (hb.allOf d e) (List.forall_mem_cons.mpr ⟨hd, List.forall_mem_singleton.mpr he⟩)

/-- Below two documents of which one must be met there are these two. -/
theorem throughout_anyOf (hb : Builds P p q) (hd : d.Throughout P) (he : e.Throughout P) :
    Throughout P { anyOf := some [d, e] } :=
  .intro (hb.anyOf d [e]) (List.forall_mem_cons.mpr ⟨hd, List.forall_mem_singleton.mpr he⟩)

/-- Null is added to the document of a primitive and stands beside any other document. -/
theorem throughout_ofNullable (hb : Builds P p q) (primitive : Bool) (h : d.Throughout P) :
    (ofNullable primitive d).Throughout P := by
  cases primitive with
  | true => exact .intro (hb.nullable h.here) fun x hx => h.part hx
  | false => exact hb.throughout_anyOf h (hb.throughout_ofType .null)

end Builds

end Document

namespace Node

open Document

variable {P : Document → Prop} {p q : Node → Prop} {d e : Document} {description : Option String}

/-- What holds of the document that is built for a node holds of it with the description. -/
theorem throughout_of_annotated (hb : Builds P p q) {n : Node} (h : n.document? = .ok d)
    (he : n.document? = .ok (.annotate description e)) (hthroughout : e.Throughout P) :
    d.Throughout P := by
  cases Except.ok.inj (h.symm.trans he)
  exact hb.throughout_annotate hthroughout

/-- A node that leaves its value alone has a document without parts, or one that denies the empty
document. -/
theorem throughout_of_keepsValue (hb : Builds P p q) {kind : NodeKind Node}
    (hk : kind.keepsValue = true) (hp : p ⟨kind, description⟩)
    (h : Node.document? ⟨kind, description⟩ = .ok d) : d.Throughout P := by
  have hbuilt : ∀ {e}, Node.document? ⟨kind, description⟩ = .ok (.annotate description e) →
      e.Throughout P → d.Throughout P := throughout_of_annotated hb h
  cases kind with
  | any | unknown => exact hbuilt rfl (throughout_of_parts_eq_nil rfl hb.empty)
  | undefined | void | never | nan => exact hbuilt rfl hb.throughout_nothing
  | null | boolean | date | bigInt | objectId => exact hbuilt rfl (hb.throughout_ofType _)
  | number checks =>
    exact hbuilt rfl (throughout_of_parts_eq_nil (parts_ofNumberChecks checks)
      (hb.number checks description hp))
  | literal value =>
    exact hbuilt rfl (throughout_of_parts_eq_nil rfl (hb.literal value description hp))
  | enumeration values =>
    exact hbuilt rfl (throughout_of_parts_eq_nil rfl (hb.enumeration values description hp))
  | nativeEnum members =>
    exact hbuilt rfl (throughout_of_parts_eq_nil rfl (hb.nativeEnum members description hp))
  | _ => simp [NodeKind.keepsValue] at hk

/-- **What every way of building meets holds of the document of a node**, at every depth. -/
theorem throughout_of_shown (hb : Builds P p q) {n : Node} (hn : n.Shown p) (hq : n.Translated q)
    (h : n.document? = .ok d) : d.Throughout P := by
  induction n using Node.induction generalizing d with
  | step n ih =>
    have hparts := document?_of_mem_translatedParts h
    have hi : ∀ m ∈ n.kind.shownParts, m.document.Throughout P := fun m hm =>
      have hm' := NodeKind.shownParts_subset _ hm
      ih m (NodeKind.translatedParts_subset _ hm') (hn.part hm) (hq.part hm') (hparts m hm')
    have hp := hn.here
    obtain ⟨kind, description⟩ := n
    have hbuilt : ∀ {e}, Node.document? ⟨kind, description⟩ = .ok (.annotate description e) →
        e.Throughout P → d.Throughout P := throughout_of_annotated hb h
    cases kind with
    | string checks => exact hbuilt rfl (hb.throughout_ofStringChecks hp)
    | object shape unknownKeys catchall =>
      dsimp only [NodeKind.shownParts, NodeKind.translatedParts] at hparts hi
      refine hbuilt (document?_object (fun q hq => hparts q.2 (NodeKind.property_mem_parts hq))
        fun c hc => hparts c (NodeKind.catchall_mem_parts hc)) ?_
      exact hb.throughout_ofObject hp (fun e he => hi e.2 (NodeKind.property_mem_parts he))
        fun c hc => hi c (NodeKind.catchall_mem_parts hc)
    | record key item =>
      exact hbuilt (document?_record (hparts item List.mem_cons_self))
        (hb.throughout_ofRecord (hi item List.mem_cons_self))
    | array element bounds =>
      exact hbuilt (document?_array (hparts element List.mem_cons_self))
        (hb.throughout_ofList (hi element List.mem_cons_self))
    | set element bounds =>
      exact hbuilt (document?_set (hparts element List.mem_cons_self))
        (hb.throughout_ofSet (hi element List.mem_cons_self))
    | tuple items rest =>
      dsimp only [NodeKind.shownParts, NodeKind.translatedParts] at hparts hi
      refine hbuilt (document?_tuple (fun m hm => hparts m (NodeKind.item_mem_parts hm))
        fun m hm => hparts m (NodeKind.rest_mem_parts hm)) ?_
      exact hb.throughout_ofTuple (fun m hm => hi m (NodeKind.item_mem_parts hm))
        fun m hm => hi m (NodeKind.rest_mem_parts hm)
    | map key item =>
      have hitem := List.mem_cons_of_mem key (List.mem_singleton_self item)
      exact hbuilt (document?_map (hparts key List.mem_cons_self) (hparts item hitem))
        (hb.throughout_ofMap (hi key List.mem_cons_self) (hi item hitem))
    | union branches =>
      exact hbuilt (document?_union hparts)
        (hb.throughout_unionDocument hp (fun b hm => (hq.part hm).here) hi)
    | intersection left right =>
      have hright := List.mem_cons_of_mem left (List.mem_singleton_self right)
      exact hbuilt
        (document?_intersection (hparts left List.mem_cons_self) (hparts right hright))
        (hb.throughout_allOf (hi left List.mem_cons_self) (hi right hright))
    | optional inner =>
      exact hbuilt (document?_optional (hparts inner List.mem_cons_self))
        (hb.throughout_anyOf (hi inner List.mem_cons_self) hb.throughout_nothing)
    | nullable inner =>
      exact hbuilt (document?_nullable (hparts inner List.mem_cons_self))
        (hb.throughout_ofNullable _ (hi inner List.mem_cons_self))
    | withDefault inner value =>
      exact hbuilt (document?_withDefault (hparts inner List.mem_cons_self))
        (hi inner List.mem_cons_self)
    | refined inner refinement => cases h
    | _ => exact throughout_of_keepsValue hb rfl hp h

/-- What every way of building meets holds of every document below one that was translated. -/
theorem throughout_of_document? (hb : Builds P p) {n : Node} (hn : n.Translated p)
    (h : n.document? = .ok d) : d.Throughout P :=
  throughout_of_shown hb hn.shown hn h

/-- A title stands in the outermost document only. -/
theorem titledDocument?_eq_ok_iff {n : Node} {title : Option String} :
    n.titledDocument? title = .ok d ↔
      ∃ e, n.document? = .ok e ∧ d = { e with title := title.or e.title } := by
  rw [titledDocument?, map_eq_ok_iff]
  refine exists_congr fun e => and_congr_right fun _ => ?_
  cases title with
  | none => cases e; exact eq_comm
  | some text => exact eq_comm

theorem throughout_titled_iff
    (htitle : ∀ (d : Document) (title : Option String), P { d with title := title } ↔ P d)
    {title : Option String} :
    ({ d with title := title } : Document).Throughout P ↔ d.Throughout P := by
  rw [throughout_iff, htitle, throughout_iff]
  rfl

end Node

end DocumentModel
