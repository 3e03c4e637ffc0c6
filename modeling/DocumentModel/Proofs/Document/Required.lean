import DocumentModel.Proofs.Document.Translating
import DocumentModel.Proofs.Schema.Results

/-!
# What is required is there

A check that finds no issue in a value returns a value, at every node and every path, and a check
that finds none in an absent value belongs to a node that accepts absence. So what is parsed is made
of the results of its parts alone, and nothing ever has to stand for one of them
(`Node.Conforms.parts`). A key that a document requires is then a key of every object that is parsed
(`Node.present_values_stay`).
-/

namespace DocumentModel

/-! ## Required keys -/

namespace Document

/-- The document requires the key, or one of the documents that have to hold with it does. -/
inductive Requires (key : String) : Document → Prop
  | here {d : Document} {keys : List String} (h : d.required = some keys) (hk : key ∈ keys) :
    Requires key d
  | part {d e : Document} {parts : List Document} (h : d.allOf = some parts) (he : e ∈ parts)
    (hr : Requires key e) : Requires key d

variable {d e : Document} {key : String}

theorem requires_congr (hrequired : d.required = e.required) (hall : d.allOf = e.allOf) :
    d.Requires key ↔ e.Requires key := by
  constructor
  · rintro (⟨h, hk⟩ | ⟨h, he, hr⟩)
    · exact .here (hrequired ▸ h) hk
    · exact .part (hall ▸ h) he hr
  · rintro (⟨h, hk⟩ | ⟨h, he, hr⟩)
    · exact .here (hrequired ▸ h) hk
    · exact .part (hall ▸ h) he hr

/-- A description adds no requirement. -/
theorem requires_annotate_iff {description : Option String} :
    (d.annotate description).Requires key ↔ d.Requires key := by
  obtain ⟨types, text, h, -⟩ := exists_annotate_eq description d
  rw [h]
  exact requires_congr rfl rfl

theorem requires_titled_iff {title : Option String} :
    ({ d with title := title } : Document).Requires key ↔ d.Requires key :=
  requires_congr rfl rfl

/-- Null as one more type adds none, either. -/
theorem requires_ofNullable_true_iff : (ofNullable true d).Requires key ↔ d.Requires key :=
  requires_congr rfl rfl

theorem not_requires_of_eq_none (hrequired : d.required = none) (hall : d.allOf = none) :
    ¬ d.Requires key := by
  rintro (⟨h, -⟩ | ⟨h, -, -⟩)
  · rw [hrequired] at h
    cases h
  · rw [hall] at h
    cases h

/-- Of two documents that have to hold together one requires the key. -/
theorem requires_of_requires_allOf (h : Requires key { allOf := some [d, e] }) :
    d.Requires key ∨ e.Requires key := by
  rcases h with ⟨h, -⟩ | ⟨h, he, hr⟩
  · cases h
  · cases h
    rcases List.mem_pair.mp he with rfl | rfl
    · exact Or.inl hr
    · exact Or.inr hr

/-- Alternatives require no key, in one document or in several ones. -/
theorem not_requires_unionDocument (branches : List Node) :
    ¬ (Node.unionDocument branches).Requires key := by
  unfold Node.unionDocument
  split
  · exact not_requires_of_eq_none rfl rfl
  · cases hcollapse : collapse? branches with
    | none => exact not_requires_of_eq_none rfl rfl
    | some e =>
      obtain ⟨types, values, rfl⟩ := exists_eq_of_collapse? hcollapse
      exact not_requires_of_eq_none rfl rfl

theorem not_requires_ofStringChecks (checks : List StringCheck) :
    ¬ (ofStringChecks checks).Requires key := by
  obtain ⟨least, most, pattern, allOf, hd, hall⟩ := exists_ofStringChecks_eq checks
  rw [hd]
  rintro (⟨h, -⟩ | ⟨h, he, hr⟩)
  · cases h
  · obtain ⟨pattern, rfl⟩ := (hall _ h).2 _ he
    exact not_requires_of_eq_none rfl rfl hr

theorem not_requires_ofNumberChecks (checks : List NumberCheck) :
    ¬ (ofNumberChecks checks).Requires key := by
  obtain ⟨_, _, _, _, _, _, hd, -⟩ := exists_ofNumberChecks_eq checks
  rw [hd]
  exact not_requires_of_eq_none rfl rfl

end Document

namespace Node

open Document

variable {n inner left right : Node} {x out : Json} {key : String} {d : Document}

/-! ## Conforming -/

/-- At every path the check finds no issue in the value and makes the other one of it. -/
def Conforms (n : Node) (x out : Json) : Prop :=
  ∀ path, (n.check (some x) path).issues = [] ∧ (n.check (some x) path).value = some out

theorem conforms_iff : n.Conforms x out ↔ n.Fits (some x) ∧ n.result (some x) = some out := by
  unfold Conforms
  simp only [issues_check_eq_nil, value_check, forall_const]

theorem conforms_getD (h : n.Fits (some x)) :
    n.Conforms x ((n.result (some x)).getD .null) := by
  obtain ⟨w, hw⟩ := Option.isSome_iff_exists.mp (isSome_result n h)
  rw [hw]
  exact conforms_iff.mpr ⟨h, hw⟩

theorem forall₂_results {items : List Json} (h : ∀ x ∈ items, n.Fits (some x)) :
    List.Forall₂ n.Conforms items (n.results items) :=
  List.forall₂_map_right_iff.mpr (List.forall₂_same.mpr fun x hx => conforms_getD (h x hx))

theorem forall₂_zip_resultsEach {nodes : List Node} {items : List Json}
    (h : ∀ e ∈ nodes.zip items, e.1.Fits (some e.2)) :
    List.Forall₂ (fun e o => Conforms e.1 e.2 o) (nodes.zip items) (resultsEach nodes items) :=
  List.forall₂_map_right_iff.mpr (List.forall₂_same.mpr fun e he => conforms_getD (h e he))

/-- How the parts of a value become the parts of another one, for every kind that has parts. -/
def PartsConform : NodeKind Node → Json → Json → Prop
  | .object shape _ _, v, out => ∃ fields outs, v = .object fields ∧ out = .object outs
      ∧ ∀ p ∈ shape, (Json.findField? p.1 fields = none ∧ p.2.acceptsMissing = true)
        ∨ ∃ x o, Json.findField? p.1 fields = some x ∧ p.2.Conforms x o
          ∧ p.1 ∈ outs.map Prod.fst
  | .record _ item, v, out => ∃ fields outs, v = .object fields ∧ out = .object outs
      ∧ List.Forall₂ (fun f g => f.1 = g.1 ∧ item.Conforms f.2 g.2) fields outs
  | .array element _, v, out | .set element _, v, out => ∃ items outs, v = .array items
      ∧ out = .array outs ∧ List.Forall₂ element.Conforms items outs
  | .tuple nodes rest, v, out => ∃ items outs others, v = .array items
      ∧ out = .array (outs ++ others) ∧ nodes.length ≤ items.length
      ∧ List.Forall₂ (fun e o => Conforms e.1 e.2 o) (nodes.zip items) outs
      ∧ match rest with
        | some node => List.Forall₂ node.Conforms (items.drop nodes.length) others
        | none => items.length = nodes.length ∧ others = []
  | .map key item, v, out => ∃ entries outs, v = .array entries ∧ out = .array outs
      ∧ List.Forall₂ (fun entry o => ∃ k x k' x', entry = .array [k, x] ∧ o = .array [k', x']
        ∧ key.Conforms k k' ∧ item.Conforms x x') entries outs
  | .union branches, v, out => ∃ b ∈ branches, b.Conforms v out
  | .intersection left right, v, out => ∃ a b, left.Conforms v a ∧ right.Conforms v b
      ∧ (mergeResults (some a) (some b) "").issues = []
      ∧ (mergeResults (some a) (some b) "").value = some out
  | .nullable inner, v, out => (v = .null ∧ out = .null) ∨ inner.Conforms v out
  | .optional inner, v, out | .withDefault inner _, v, out | .refined inner _, v, out =>
      inner.Conforms v out
  | _, _, _ => True

namespace Conforms

variable {description : Option String}

/-- A key that is absent accepts absence, and one that is there stays a key of the result. -/
theorem object {shape : List (String × Node)} {unknownKeys : UnknownKeys} {catchall : Option Node}
    (h : Conforms ⟨.object shape unknownKeys catchall, description⟩ x out) :
    PartsConform (.object shape unknownKeys catchall) x out := by
  obtain ⟨hf, hr⟩ := conforms_iff.mp h
  obtain ⟨fields, he, hs, -⟩ := fits_object.mp hf
  cases he
  rw [result_object] at hr
  cases hr
  refine ⟨fields, _, rfl, rfl, fun p hp => ?_⟩
  have hfits := hs p hp
  cases hx : Json.findField? p.1 fields with
  | none =>
    rw [hx] at hfits
    exact Or.inl ⟨rfl, acceptsMissing_of_fits_none p.2 hfits⟩
  | some x =>
    rw [hx] at hfits
    obtain ⟨o, ho⟩ := Option.isSome_iff_exists.mp (isSome_result p.2 hfits)
    refine Or.inr ⟨x, o, rfl, conforms_iff.mpr ⟨hfits, ho⟩, Json.mem_keys_sortFields.mpr ?_⟩
    rw [List.map_append, List.mem_append]
    refine Or.inl (List.mem_map.mpr ⟨(p.1, o), List.mem_filterMap.mpr ⟨p, hp, ?_⟩, rfl⟩)
    rw [hx, ho, Option.map_some]

theorem record {key item : Node} (h : Conforms ⟨.record key item, description⟩ x out) :
    PartsConform (.record key item) x out := by
  obtain ⟨hf, hr⟩ := conforms_iff.mp h
  obtain ⟨fields, he, hfields⟩ := fits_record.mp hf
  cases he
  rw [result_record] at hr
  cases hr
  have hitem : item.ResultsIn item.Conforms := fun x w hx hw => conforms_iff.mpr ⟨hx, hw⟩
  exact ⟨fields, _, rfl, rfl, forall₂_recordResult hitem fun f hf => (hfields f hf).2⟩

theorem array {element : Node} {bounds : Bounds}
    (h : Conforms ⟨.array element bounds, description⟩ x out) :
    PartsConform (.array element bounds) x out := by
  obtain ⟨hf, hr⟩ := conforms_iff.mp h
  obtain ⟨items, he, -, hitems⟩ := fits_array.mp hf
  cases he
  rw [result_array] at hr
  cases hr
  exact ⟨items, _, rfl, rfl, forall₂_results hitems⟩

theorem set {element : Node} {bounds : Bounds}
    (h : Conforms ⟨.set element bounds, description⟩ x out) :
    PartsConform (.set element bounds) x out := by
  obtain ⟨hf, hr⟩ := conforms_iff.mp h
  obtain ⟨items, he, -, -, hitems⟩ := fits_set.mp hf
  cases he
  rw [result_set] at hr
  cases hr
  exact ⟨items, _, rfl, rfl, forall₂_results hitems⟩

/-- Without a rest the items are as many as the nodes. -/
theorem tuple {nodes : List Node} {rest : Option Node}
    (h : Conforms ⟨.tuple nodes rest, description⟩ x out) :
    PartsConform (.tuple nodes rest) x out := by
  obtain ⟨hf, hr⟩ := conforms_iff.mp h
  obtain ⟨items, he, hl, hm, hnodes, hrest⟩ := fits_tuple.mp hf
  cases he
  rw [result_tuple hf] at hr
  cases hr
  refine ⟨items, _, _, rfl, rfl, hl, forall₂_zip_resultsEach hnodes, ?_⟩
  cases rest with
  | none => exact ⟨Nat.le_antisymm (hm rfl) hl, rfl⟩
  | some node => exact forall₂_results (hrest node rfl)

theorem map {key item : Node} (h : Conforms ⟨.map key item, description⟩ x out) :
    PartsConform (.map key item) x out := by
  obtain ⟨hf, hr⟩ := conforms_iff.mp h
  obtain ⟨entries, he, hentries⟩ := fits_map.mp hf
  cases he
  rw [result_map hentries] at hr
  cases hr
  refine ⟨entries, _, rfl, rfl, List.forall₂_map_right_iff.mpr
    (List.forall₂_same.mpr fun entry he => ?_)⟩
  obtain ⟨k, x, rfl, hk, hx⟩ := hentries entry he
  exact ⟨k, x, _, _, rfl, rfl, conforms_getD hk, conforms_getD hx⟩

/-- Both sides return a value, and the two go together. -/
theorem intersection (h : Conforms ⟨.intersection left right, description⟩ x out) :
    PartsConform (.intersection left right) x out := by
  obtain ⟨hf, hr⟩ := conforms_iff.mp h
  obtain ⟨y, hy, hl, hrt, hm⟩ := fits_intersection.mp hf
  cases hy
  rw [result_intersection hf] at hr
  obtain ⟨a, ha⟩ := Option.isSome_iff_exists.mp (isSome_result left hl)
  obtain ⟨b, hb⟩ := Option.isSome_iff_exists.mp (isSome_result right hrt)
  rw [ha, hb] at hm hr
  exact ⟨a, b, conforms_iff.mpr ⟨hl, ha⟩, conforms_iff.mpr ⟨hrt, hb⟩, hm, hr⟩

theorem nullable (h : Conforms ⟨.nullable inner, description⟩ x out) :
    PartsConform (.nullable inner) x out := by
  obtain ⟨hf, hr⟩ := conforms_iff.mp h
  by_cases hnull : x = .null
  · subst hnull
    exact Or.inl ⟨rfl, (Option.some.inj hr).symm⟩
  · have hne : some x ≠ some Json.null := fun he => hnull (Option.some.inj he)
    rw [result_nullable hne] at hr
    exact Or.inr (conforms_iff.mpr ⟨(fits_nullable.mp hf).resolve_left hne, hr⟩)

/-- **The parts of a parsed value are what the parts of the value are parsed to.** -/
theorem parts (h : n.Conforms x out) : PartsConform n.kind x out := by
  obtain ⟨hf, hr⟩ := conforms_iff.mp h
  obtain ⟨kind, description⟩ := n
  cases kind with
  | object shape unknownKeys catchall => exact h.object
  | record key item => exact h.record
  | array element bounds => exact h.array
  | set element bounds => exact h.set
  | tuple nodes rest => exact h.tuple
  | map key item => exact h.map
  | union branches =>
    obtain ⟨b, hb, hfits, he⟩ := result_union hf
    exact ⟨b, hb, conforms_iff.mpr ⟨hfits, he.symm.trans hr⟩⟩
  | intersection left right => exact h.intersection
  | optional inner =>
    rcases fits_optional.mp hf with he | hi
    · cases he
    · exact conforms_iff.mpr ⟨hi, hr⟩
  | nullable inner => exact h.nullable
  | withDefault inner value => exact conforms_iff.mpr ⟨fits_withDefault.mp hf, hr⟩
  | refined inner refinement =>
    obtain ⟨_, _, hi, -⟩ := fits_refined.mp hf
    rw [result_refined] at hr
    exact conforms_iff.mpr ⟨hi, hr⟩
  | _ => trivial

end Conforms

/-! ## Keys of parsed objects -/

theorem exists_property_of_requires {shape : Shape Node} {properties : List (String × Document)}
    {unknownKeys : UnknownKeys} {extra : Option Document}
    (h : (Document.ofObject shape properties unknownKeys extra).Requires key) :
    ∃ p ∈ shape, p.1 = key ∧ p.2.acceptsMissing = false := by
  rcases h with ⟨h, hk⟩ | ⟨h, -, -⟩
  · simp only [Document.ofObject] at h
    split at h
    · cases h
    · cases h
      obtain ⟨p, hp, rfl⟩ := List.mem_map.mp hk
      obtain ⟨hp, hm⟩ := List.mem_filter.mp hp
      exact ⟨p, hp, rfl, by simpa using hm⟩
  · cases h

/-- The document of a primitive requires no keys. -/
theorem not_requires_of_primitive? (hk : n.kind.primitive?.isSome = true)
    (h : n.document? = .ok d) : ¬ d.Requires key := by
  obtain ⟨kind, description⟩ := n
  cases kind with
  | string checks =>
    cases h
    rw [requires_annotate_iff]
    exact not_requires_ofStringChecks checks
  | number checks =>
    cases h
    rw [requires_annotate_iff]
    exact not_requires_ofNumberChecks checks
  | bigInt | objectId | boolean | date | null =>
    cases h
    rw [requires_annotate_iff]
    exact not_requires_of_eq_none rfl rfl
  | _ => cases hk

/-- An object is united with nothing but an object. -/
theorem exists_object_of_mergeResults {a : Json} {fields : List (String × Json)}
    (h : (mergeResults (some a) (some (.object fields)) "").issues = []) :
    ∃ others, a = .object others := by
  cases a with
  | object others => exact ⟨others, rfl⟩
  | _ => simp [mergeResults, sameResult, Json.same] at h

/-- Null beside a document takes its requirements away, unless it is the document of a
primitive, which has none. -/
theorem not_requires_ofNullable (h : inner.document? = .ok d) :
    ¬ (ofNullable inner.kind.primitive?.isSome d).Requires key := by
  intro hr
  cases hprimitive : inner.kind.primitive?.isSome with
  | true =>
    rw [hprimitive] at hr
    exact not_requires_of_primitive? hprimitive h (requires_ofNullable_true_iff.mp hr)
  | false =>
    rw [hprimitive] at hr
    exact not_requires_of_eq_none rfl rfl hr

/-- A key of one of two results is a key of what they are merged to. -/
theorem exists_key_of_mergeResults {a b : Json}
    (hm : (mergeResults (some a) (some b) "").issues = [])
    (he : (mergeResults (some a) (some b) "").value = some out)
    (hkey : ∃ fields, (a = .object fields ∨ b = .object fields) ∧ key ∈ fields.map Prod.fst) :
    ∃ fields, out = .object fields ∧ key ∈ fields.map Prod.fst := by
  obtain ⟨fields, rfl | rfl, hkey⟩ := hkey
  · rcases value_mergeResults hm with ⟨_, _, ha, -, hv⟩ | hv
    · cases ha
      rw [hv] at he
      cases he
      exact ⟨_, rfl, mem_keys_mergeFields.mpr (Or.inl hkey)⟩
    · rw [hv] at he
      cases he
      exact ⟨_, rfl, hkey⟩
  · obtain ⟨others, rfl⟩ := exists_object_of_mergeResults hm
    cases he
    exact ⟨_, rfl, mem_keys_mergeFields.mpr (Or.inr hkey)⟩

/-- A declared key that does not accept absence is a key of the conformed object. -/
theorem PartsConform.exists_key {shape : List (String × Node)} {unknownKeys : UnknownKeys}
    {catchall : Option Node} (h : PartsConform (.object shape unknownKeys catchall) x out)
    {properties : List (String × Document)} {extra : Option Document}
    (hr : (ofObject shape properties unknownKeys extra).Requires key) :
    ∃ fields, out = .object fields ∧ key ∈ fields.map Prod.fst := by
  obtain ⟨p, hp, rfl, hm⟩ := exists_property_of_requires hr
  obtain ⟨fields, outs, -, rfl, hproperties⟩ := h
  rcases hproperties p hp with ⟨-, hmissing⟩ | ⟨_, _, -, -, hkey⟩
  · rw [hm] at hmissing
    cases hmissing
  · exact ⟨outs, rfl, hkey⟩

/-- **A required key is a key of what is parsed.** -/
theorem Conforms.exists_key (hc : n.Conforms x out) (h : n.document? = .ok d)
    (hr : d.Requires key) : ∃ fields, out = .object fields ∧ key ∈ fields.map Prod.fst := by
  induction n using Node.induction generalizing x out d with
  | step n ih =>
    have hdocument := document?_of_mem_translatedParts h
    have hparts := hc.parts
    obtain ⟨kind, description⟩ := n
    have hbuilt : ∀ {e}, Node.document? ⟨kind, description⟩ = .ok (.annotate description e) →
        e.Requires key := by
      intro e he
      cases Except.ok.inj (h.symm.trans he)
      exact requires_annotate_iff.mp hr
    have hnone : ∀ {e}, Node.document? ⟨kind, description⟩ = .ok (.annotate description e) →
        e.required = none → e.allOf = none →
        ∃ fields, out = .object fields ∧ key ∈ fields.map Prod.fst :=
      fun he hrequired hall => absurd (hbuilt he) (not_requires_of_eq_none hrequired hall)
    cases kind with
    | object shape unknownKeys catchall =>
      dsimp only [NodeKind.translatedParts] at hdocument
      exact PartsConform.exists_key hparts (hbuilt (document?_object
        (fun p hp => hdocument p.2 (NodeKind.property_mem_parts hp))
        fun c hc => hdocument c (NodeKind.catchall_mem_parts hc)))
    | intersection left right =>
      have hright := List.mem_cons_of_mem left (List.mem_singleton_self right)
      have hdl := hdocument left List.mem_cons_self
      have hdr := hdocument right hright
      obtain ⟨a, b, hl, hrt, hm, he⟩ := hparts
      refine exists_key_of_mergeResults hm he ?_
      rcases requires_of_requires_allOf (hbuilt (document?_intersection hdl hdr)) with hr | hr
      · obtain ⟨fields, hfields, hkey⟩ := ih left List.mem_cons_self hl hdl hr
        exact ⟨fields, Or.inl hfields, hkey⟩
      · obtain ⟨fields, hfields, hkey⟩ := ih right hright hrt hdr hr
        exact ⟨fields, Or.inr hfields, hkey⟩
    | withDefault inner value =>
      have hinner := hdocument inner List.mem_cons_self
      exact ih inner List.mem_cons_self hparts hinner (hbuilt (document?_withDefault hinner))
    | nullable inner =>
      have hinner := hdocument inner List.mem_cons_self
      exact absurd (hbuilt (document?_nullable hinner)) (not_requires_ofNullable hinner)
    | string | number | bigInt | objectId | boolean | date | null =>
      exact absurd hr (not_requires_of_primitive? rfl h)
    | union branches =>
      exact absurd (hbuilt (document?_union hdocument)) (not_requires_unionDocument branches)
    | record key item =>
      exact hnone (document?_record (hdocument item List.mem_cons_self)) rfl rfl
    | array element bounds =>
      exact hnone (document?_array (hdocument element List.mem_cons_self)) rfl rfl
    | set element bounds =>
      exact hnone (document?_set (hdocument element List.mem_cons_self)) rfl rfl
    | tuple nodes rest =>
      refine hnone (document?_tuple (fun m hm => hdocument m (NodeKind.item_mem_parts hm))
        fun m hm => hdocument m (NodeKind.rest_mem_parts hm)) ?_ ?_
      all_goals cases rest <;> rfl
    | map key item =>
      exact hnone (document?_map (hdocument key List.mem_cons_self)
        (hdocument item (List.mem_cons_of_mem _ List.mem_cons_self))) rfl rfl
    | optional inner =>
      exact hnone (document?_optional (hdocument inner List.mem_cons_self)) rfl rfl
    | refined inner refinement => cases h
    -- the documents of the other kinds consist of a type or of values
    | _ => exact hnone rfl rfl rfl

/-- **A value that is there does not vanish.** A check without an issue returns a value for a value,
and for an absent one only at nodes that accept absence. What is parsed is the value that the check
returns, and is made of such values alone; an object that is parsed has all keys that its document
requires. -/
theorem present_values_stay (n : Node) :
    (∀ v path, (n.check (some v) path).issues = [] →
      ∃ out, (n.check (some v) path).value = some out)
    ∧ (∀ path, (n.check none path).issues = [] → n.acceptsMissing = true)
    ∧ (∀ v out, n.parse v = .ok out ↔ n.Conforms v out)
    ∧ (∀ v out, n.Conforms v out → PartsConform n.kind v out)
    ∧ ∀ title d v out key, n.titledDocument? title = .ok d → d.Requires key →
      n.parse v = .ok out → ∃ fields, out = .object fields ∧ key ∈ fields.map Prod.fst := by
  have hparse : ∀ v out, n.parse v = .ok out ↔ n.Conforms v out := fun v out => by
    rw [parse_eq_ok_iff_result, conforms_iff]
  refine ⟨fun v path h => ?_, fun path h => ?_, hparse, fun _ _ => Conforms.parts, ?_⟩
  · rw [value_check]
    exact Option.isSome_iff_exists.mp (isSome_result n (issues_check_eq_nil.mp h))
  · exact acceptsMissing_of_fits_none n (issues_check_eq_nil.mp h)
  · intro title d v out key hd hr hout
    obtain ⟨e, he, rfl⟩ := titledDocument?_eq_ok_iff.mp hd
    exact ((hparse v out).mp hout).exists_key he (requires_titled_iff.mp hr)

end Node

end DocumentModel
