import DocumentModel.Proofs.Document.Plain
import DocumentModel.Proofs.Schema.Results

/-!
# Intersections of objects and their documents

An intersection parses a value by both sides and unites the two objects that come out. Its document
asks both sides' documents of the united object, and the document of an object that strips keys
closes it: what the other side has added is refused. So an object that was parsed is accepted
exactly if no side that strips keys misses one of its keys
(`Node.accepts_intersection_iff`), which two sides with different keys never meet.
-/

namespace DocumentModel

/-! ## United fields -/

/-- All fields stand in other fields, too. -/
def Json.Within (own fields : List (String × Json)) : Prop :=
  ∀ f ∈ own, Json.findField? f.1 fields = some f.2

/-- Where a key is not lost, the value at it is the same. -/
theorem Json.Within.findField?_eq {own fields : List (String × Json)} {key : String}
    (h : Json.Within own fields)
    (hk : key ∈ fields.map Prod.fst → key ∈ own.map Prod.fst) :
    Json.findField? key own = Json.findField? key fields := by
  cases hv : Json.findField? key own with
  | some w => exact (h (key, w) (Json.mem_of_findField? hv)).symm
  | none => exact (Json.findField?_eq_none_iff.mpr fun hm =>
      Json.findField?_eq_none_iff.mp hv (hk hm)).symm

/-- What is united from parts of an object is a part of it. -/
theorem Json.Within.mergeFields {left right fields : List (String × Json)}
    (hl : Json.Within left fields) (hr : Json.Within right fields) :
    Json.Within (mergeFields left right) fields :=
  fun f hf => (mem_mergeFields hf).elim (hl f) (hr f)

/-! ## Leaves without checks -/

/-- A leaf without checks. -/
def NodeKind.isBareLeaf {α : Type} : NodeKind α → Bool
  | .string checks => checks.isEmpty
  | .number checks => checks.isEmpty
  | kind => kind.keepsValue

namespace Node

/-- A leaf without checks whose description does not decide the type. -/
structure BareLeaf (n : Node) : Prop where
  unmarked : Marker.ofDescription? n.description = none
  kind : n.kind.isBareLeaf = true

namespace BareLeaf

variable {n : Node}

/-- Every leaf has a document. -/
theorem document?_eq (h : n.BareLeaf) : n.document? = .ok n.document := by
  obtain ⟨kind, description⟩ := n
  cases kind <;> first | rfl | cases h.kind

theorem cases_kind (h : n.BareLeaf) :
    n.kind = .string [] ∨ n.kind.keepsValue = true ∧ ∀ checks, n.kind = .number checks → checks = []
    := by
  obtain ⟨kind, description⟩ := n
  have hk : kind.isBareLeaf = true := h.kind
  cases kind with
  | string checks => exact Or.inl (congrArg NodeKind.string (List.isEmpty_iff.mp hk))
  | number checks =>
    refine Or.inr ⟨rfl, fun others he => ?_⟩
    cases he
    exact List.isEmpty_iff.mp hk
  | _ => exact Or.inr ⟨hk, nofun⟩

/-- A leaf without checks leaves a value as it is. -/
theorem result_eq (h : n.BareLeaf) {v : Option Json} (hf : n.Fits v) : n.result v = v := by
  have hk := h.cases_kind
  obtain ⟨kind, description⟩ := n
  rcases hk with hk | ⟨hk, -⟩
  · obtain rfl : kind = .string [] := hk
    obtain ⟨raw, rfl, -⟩ := fits_string.mp hf
    rfl
  · exact result_of_keepsValue hk hf

/-- The document of such a leaf accepts exactly the values that fit it. -/
theorem accepts_iff {r : Reading} (hr : r.Standard) (h : n.BareLeaf) {v : Json} :
    r.accepts n.document v = true ↔ n.Fits (some v) := by
  have hk := h.cases_kind
  obtain ⟨kind, description⟩ := n
  rcases hk with hk | ⟨hk, hn⟩
  · obtain rfl : kind = .string [] := hk
    have hnil : ∀ c ∈ ([] : List StringCheck), c.isLength = true := by simp
    rw [accepts_document h.unmarked rfl, accepts_ofStringChecks hr hnil, fits_lengths hnil]
    simp
  · exact Reading.accepts_iff_fits hr hk hn h.unmarked h.document?_eq

end BareLeaf

/-! ## Objects of such leaves -/

/-- An object whose properties, and whose other keys if they are checked, are leaves without
checks. No two properties have one key. -/
def BareObject (n : Node) : Prop :=
  match n.kind with
  | .object shape _ catchall =>
    (shape.map Prod.fst).Nodup ∧ (∀ p ∈ shape, p.2.BareLeaf) ∧ ∀ m ∈ catchall, m.BareLeaf
  | _ => False

/-- An object that drops undeclared keys declares all keys of a value. -/
def ClosedOver (n : Node) (out : Json) : Prop :=
  match n.kind, out with
  | .object shape .strip none, .object fields => ∀ f ∈ fields, f.1 ∈ shape.map Prod.fst
  | _, _ => True

variable {r : Reading} {n : Node} {shape : List (String × Node)} {unknownKeys : UnknownKeys}
  {catchall : Option Node} {fields merged : List (String × Json)}

/-- Such an object takes over fields as they are. -/
theorem within_objectResult (hs : ∀ p ∈ shape, p.2.BareLeaf) (hc : ∀ m ∈ catchall, m.BareLeaf)
    (ha : (fields.map Prod.fst).Nodup) (hf : ∀ p ∈ shape, p.2.Fits (Json.findField? p.1 fields))
    (hu : UndeclaredFit unknownKeys catchall (undeclared shape fields)) :
    Json.Within (objectResult shape unknownKeys catchall fields) fields := by
  intro f hm
  rcases List.mem_append.mp (Json.mem_of_mem_sortFields hm) with hm | hm
  · obtain ⟨⟨key, node⟩, hp, he⟩ := List.mem_filterMap.mp hm
    obtain ⟨w, hw, rfl⟩ := Option.map_eq_some_iff.mp he
    rwa [(hs _ hp).result_eq (hf _ hp)] at hw
  · have hfields : f ∈ fields := by
      cases catchall with
      | some m =>
        obtain ⟨g, hg, he⟩ := List.mem_filterMap.mp hm
        obtain ⟨w, hw, rfl⟩ := Option.map_eq_some_iff.mp he
        rw [(hc m rfl).result_eq (hu g hg)] at hw
        cases hw
        exact (List.mem_filter.mp hg).1
      | none =>
        cases unknownKeys with
        | passthrough => exact (List.mem_filter.mp hm).1
        | strip | strict => cases hm
    exact Json.findField?_of_mem ha hfields

/-- A declared key that the object has is a key of the result. -/
theorem mem_keys_objectResult (hnd : (shape.map Prod.fst).Nodup) {p : String × Node}
    (hp : p ∈ shape) (hl : p.2.BareLeaf) (hf : p.2.Fits (Json.findField? p.1 fields))
    (hk : p.1 ∈ fields.map Prod.fst) :
    p.1 ∈ (objectResult shape unknownKeys catchall fields).map Prod.fst := by
  rw [← Json.findField?_isSome_iff] at hk ⊢
  rw [findField?_objectResult hnd hp, hl.result_eq hf]
  exact hk

/-- Of fields that come from a value that it fits, an object refuses nothing but undeclared keys
that it would have dropped. -/
theorem accepts_of_within (hr : r.Standard) (hnd : (shape.map Prod.fst).Nodup)
    (hs : ∀ p ∈ shape, p.2.BareLeaf) (hc : ∀ m ∈ catchall, m.BareLeaf)
    (hf : ∀ p ∈ shape, p.2.Fits (Json.findField? p.1 fields))
    (hu : UndeclaredFit unknownKeys catchall (undeclared shape fields))
    (hm : Json.Within merged fields)
    (hk : ∀ p ∈ shape, p.1 ∈ fields.map Prod.fst → p.1 ∈ merged.map Prod.fst) :
    r.accepts (.ofObject shape (propertyDocuments shape) unknownKeys (catchall.map document))
        (.object merged) = true ↔
      (unknownKeys = .strip ∧ catchall = none → ∀ f ∈ merged, f.1 ∈ shape.map Prod.fst) := by
  have hfind : ∀ p ∈ shape, Json.findField? p.1 merged = Json.findField? p.1 fields :=
    fun p hp => hm.findField?_eq (hk p hp)
  have hund : undeclared (propertyDocuments shape) merged = undeclared shape merged :=
    Reading.undeclared_congr (fun key => by rw [keys_propertyDocuments]) _
  have hmem : ∀ f ∈ undeclared shape merged, f ∈ undeclared shape fields := fun f hfm =>
    List.mem_filter.mpr ⟨Json.mem_of_findField? (hm f (List.mem_filter.mp hfm).1),
      (List.mem_filter.mp hfm).2⟩
  have hrequired : ∀ p ∈ shape, p.2.acceptsMissing = false →
      (Json.findField? p.1 merged).isSome = true := by
    intro p hp hmissing
    have hfit := hf p hp
    rw [hfind p hp]
    cases hv : Json.findField? p.1 fields with
    | some w => rfl
    | none =>
      rw [hv] at hfit
      rw [acceptsMissing_of_fits_none _ hfit] at hmissing
      cases hmissing
  have hdeclared : ∀ q ∈ propertyDocuments shape, ∀ w ∈ Json.findField? q.1 merged,
      r.accepts q.2 w = true := by
    intro q hq w hw
    obtain ⟨p, hp, rfl⟩ := List.mem_map.mp hq
    have hfit := hf p hp
    rw [hfind p hp] at hw
    rw [show Json.findField? p.1 fields = some w from hw] at hfit
    exact ((hs p hp).accepts_iff hr).mpr hfit
  rw [Reading.accepts_ofObject hr (by rw [keys_propertyDocuments]; exact hnd)]
  constructor
  · rintro ⟨_, he, -, -, hextra⟩ ⟨rfl, rfl⟩ f hfm
    cases he
    by_contra hnot
    have hfu : f ∈ undeclared (propertyDocuments shape) merged := by
      rw [hund]
      exact List.mem_filter.mpr ⟨hfm, Json.findField?_isNone_iff.mpr hnot⟩
    rw [show undeclared (propertyDocuments shape) merged = [] from hextra] at hfu
    cases hfu
  · intro hstrip
    refine ⟨merged, rfl, hrequired, hdeclared, ?_⟩
    rw [hund]
    cases catchall with
    | some m => exact fun f hfm => ((hc m rfl).accepts_iff hr).mpr (hu f (hmem f hfm))
    | none =>
      cases unknownKeys with
      | passthrough => trivial
      | strict =>
        refine List.eq_nil_iff_forall_not_mem.mpr fun f hfm => ?_
        have hfu := hmem f hfm
        rw [show undeclared shape fields = [] from hu] at hfu
        cases hfu
      | strip =>
        refine List.eq_nil_iff_forall_not_mem.mpr fun f hfm => ?_
        exact not_declared_of_mem_undeclared hfm
          (hstrip ⟨rfl, rfl⟩ f (List.mem_filter.mp hfm).1)

/-! ## Intersections -/

/-- What an object of leaves makes of a value, and what its document says of objects that hold as
much, or more, of the value. -/
theorem BareObject.parts (hr : r.Standard) (hn : n.BareObject) {v : Json} (hf : n.Fits (some v))
    (hv : ∀ fields, v = .object fields → (fields.map Prod.fst).Nodup) :
    n.document? = .ok n.document
    ∧ ∃ fields own, v = .object fields ∧ n.result (some v) = some (.object own)
      ∧ Json.Within own fields
      ∧ ∀ merged, Json.Within merged fields →
        (∀ key ∈ own.map Prod.fst, key ∈ merged.map Prod.fst) →
        (r.accepts n.document (.object merged) = true ↔
          r.MarkerAllows n.description (.object merged) ∧ n.ClosedOver (.object merged)) := by
  obtain ⟨kind, description⟩ := n
  cases kind with
  | object shape unknownKeys catchall =>
    obtain ⟨hnd, hs, hc⟩ := hn
    obtain ⟨fields, he, hfs, hu⟩ := fits_object.mp hf
    cases he
    have hd : document? ⟨.object shape unknownKeys catchall, description⟩
        = .ok (.annotate description
          (.ofObject shape (propertyDocuments shape) unknownKeys (catchall.map document))) :=
      document?_object (fun p hp => (hs p hp).document?_eq) fun m hm => (hc m hm).document?_eq
    refine ⟨by rw [hd, document_of_eq_ok hd], fields,
      objectResult shape unknownKeys catchall fields, rfl, result_object,
      within_objectResult hs hc (hv fields rfl) hfs hu, fun merged hm hk => ?_⟩
    have hkeys : ∀ p ∈ shape, p.1 ∈ fields.map Prod.fst → p.1 ∈ merged.map Prod.fst :=
      fun p hp hpk => hk p.1 (mem_keys_objectResult hnd hp (hs p hp) (hfs p hp) hpk)
    rw [document_of_eq_ok hd, Reading.accepts_annotate_of_hasType rfl
      (by rw [hr.object]; rfl : r.hasType .object (.object merged) = true),
      accepts_of_within hr hnd hs hc hfs hu hm hkeys]
    refine and_congr_right fun _ => ?_
    cases unknownKeys <;> cases catchall <;> simp [ClosedOver]
  | _ => exact absurd hn id

/-- **What an intersection of objects is parsed to is accepted by its document exactly if neither
side drops keys that the other one adds**, and the markers of both sides allow it. -/
theorem accepts_intersection_iff (hr : r.Standard) {left right : Node} (hl : left.BareObject)
    (hrt : right.BareObject) {v out : Json}
    (hv : ∀ fields, v = .object fields → (fields.map Prod.fst).Nodup)
    (h : (ofKind (.intersection left right)).parse v = .ok out) :
    ∃ ofLeft ofRight, left.document? = .ok ofLeft ∧ right.document? = .ok ofRight
      ∧ (ofKind (.intersection left right)).document? = .ok { allOf := some [ofLeft, ofRight] }
      ∧ (r.accepts { allOf := some [ofLeft, ofRight] } out = true ↔
        (r.MarkerAllows left.description out ∧ left.ClosedOver out)
          ∧ r.MarkerAllows right.description out ∧ right.ClosedOver out) := by
  obtain ⟨hf, hw⟩ := parse_eq_ok_iff_result.mp h
  obtain ⟨_, _, hfl, hfr, -⟩ := fits_intersection.mp hf
  obtain ⟨hdl, fields, a, rfl, ha, hwa, hla⟩ := hl.parts hr hfl hv
  obtain ⟨hdr, _, b, he, hb, hwb, hrb⟩ := hrt.parts hr hfr hv
  cases he
  -- the results of both sides are united
  have hout : out = .object (mergeFields a b) := by
    have hres := result_intersection hf
    rw [ha, hb] at hres
    exact Option.some.inj (hw.symm.trans hres)
  have hwithin : Json.Within (mergeFields a b) fields := hwa.mergeFields hwb
  have hleft := hla _ hwithin fun key hk => mem_keys_mergeFields.mpr (Or.inl hk)
  have hright := hrb _ hwithin fun key hk => mem_keys_mergeFields.mpr (Or.inr hk)
  refine ⟨left.document, right.document, hdl, hdr, document?_intersection hdl hdr, ?_⟩
  rw [hout, Reading.accepts_allOf, List.all_cons, List.all_cons, List.all_nil, Bool.and_true,
    Bool.and_eq_true, hleft, hright]

/-- A contact is a name and an address, by one node each. -/
def named : Node := ofShape [("name", string)]

/-- The other half of a contact. -/
def addressed (unknownKeys : UnknownKeys) : Node :=
  ofKind (.object [("address", string)] unknownKeys none)

/-- An object with one string is bare, whatever it does with other keys. -/
theorem bareObject_of_string {key : String} {unknownKeys : UnknownKeys} :
    (ofKind (.object [(key, string)] unknownKeys none)).BareObject := by
  have hleaf : string.BareLeaf := ⟨rfl, rfl⟩
  exact ⟨List.nodup_singleton key, List.forall_mem_singleton.mpr hleaf, nofun⟩

theorem named_bareObject : named.BareObject := bareObject_of_string

theorem addressed_bareObject {unknownKeys : UnknownKeys} : (addressed unknownKeys).BareObject :=
  bareObject_of_string

/-- A name and an address. -/
def contact : Json := .object [("address", .string "Bergen"), ("name", .string "Ada")]

theorem contact_keys : ∀ fields, contact = .object fields → (fields.map Prod.fst).Nodup := by
  intro fields he
  cases he
  decide

theorem accepts_intersection_iff_contact :
    Reading.plain.Standard ∧ named.BareObject ∧ (addressed .passthrough).BareObject
    ∧ (∀ fields, contact = .object fields → (fields.map Prod.fst).Nodup)
    ∧ (ofKind (.intersection named (addressed .passthrough))).parse contact = .ok contact
    ∧ ∃ ofLeft ofRight, named.document? = .ok ofLeft
      ∧ (addressed .passthrough).document? = .ok ofRight
      ∧ (ofKind (.intersection named (addressed .passthrough))).document?
        = .ok { allOf := some [ofLeft, ofRight] }
      ∧ (Reading.plain.accepts { allOf := some [ofLeft, ofRight] } contact = true ↔
        (Reading.plain.MarkerAllows named.description contact ∧ named.ClosedOver contact)
          ∧ Reading.plain.MarkerAllows (addressed .passthrough).description contact
          ∧ (addressed .passthrough).ClosedOver contact) := by
  have hp : (ofKind (.intersection named (addressed .passthrough))).parse contact
      = .ok contact := by
    have hfits : (ofKind (.intersection named (addressed .passthrough))).Fits (some contact) := by
      decide +kernel
    exact parse_eq_ok_iff_result.mpr ⟨hfits, (result_intersection_objects hfits).trans rfl⟩
  exact ⟨Reading.plain_standard, named_bareObject, addressed_bareObject, contact_keys, hp,
    accepts_intersection_iff Reading.plain_standard named_bareObject addressed_bareObject
      contact_keys hp⟩

/-- The document of an object with one string and no other keys. -/
def closedDocument (key : String) : Document :=
  { bsonType := some (.one .object), required := some [key],
    properties := some [(key, .ofType .string)], additionalProperties := some (.allowed false) }

theorem not_accepts_closedDocuments :
    Reading.plain.Standard ∧ named.BareObject ∧ (addressed .strip).BareObject
    ∧ (ofKind (.intersection named (addressed .strip))).parse contact = .ok contact
    ∧ (ofKind (.intersection named (addressed .strip))).document?
      = .ok { allOf := some [closedDocument "name", closedDocument "address"] }
    ∧ Reading.plain.accepts { allOf := some [closedDocument "name", closedDocument "address"] }
      contact = false := by
  have hp : (ofKind (.intersection named (addressed .strip))).parse contact = .ok contact := by
    have hfits : (ofKind (.intersection named (addressed .strip))).Fits (some contact) := by
      decide +kernel
    exact parse_eq_ok_iff_result.mpr ⟨hfits, (result_intersection_objects hfits).trans rfl⟩
  have hd : (ofKind (.intersection named (addressed .strip))).document?
      = .ok { allOf := some [closedDocument "name", closedDocument "address"] } := rfl
  have hnone : Reading.plain.accepts (closedDocument "name") contact = false := by
    rw [Reading.accepts_eq]
    rfl
  refine ⟨Reading.plain_standard, named_bareObject, addressed_bareObject, hp, hd, ?_⟩
  rw [Reading.accepts_allOf, List.all_cons, hnone, Bool.false_and]

end Node

end DocumentModel
