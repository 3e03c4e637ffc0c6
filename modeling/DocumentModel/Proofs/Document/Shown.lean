import DocumentModel.Proofs.Compile.Layers
import DocumentModel.Proofs.Document.Translating

/-!
# What documents show of nodes

Every document that a node is translated from stands somewhere in the document of the node, unless
it has no rules, or belongs to an alternative that is put into one document with the others. So a
condition on documents that shows a condition on their nodes (`Document.Tells`) shows it of all
nodes but these alternatives (`Node.shown_of_throughout`), and of all nodes that are translated
together if one document shows it of its alternatives (`Node.translated_of_throughout`). Properties
have to stand once each, since the last one of a name is the one that is kept.
-/

namespace DocumentModel

namespace Document

variable {P : Document → Prop} {p : Node → Prop} {d e : Document}

/-! ## Documents in documents -/

/-- The document has the other one as a part, or leaves it out as one without rules. -/
def Shows (d e : Document) : Prop := e = {} ∨ e ∈ d.parts

theorem Throughout.shown (h : d.Throughout P) (hempty : P {}) (hs : d.Shows e) :
    e.Throughout P := by
  rcases hs with rfl | he
  · exact throughout_of_parts_eq_nil rfl hempty
  · exact h.part he

theorem shows_of_isEmpty (h : ¬ e.isEmpty = true → e ∈ d.parts) : d.Shows e := by
  by_cases he : e.isEmpty = true
  · exact Or.inl (eq_empty_of_isEmpty he)
  · exact Or.inr (h he)

theorem shows_ofList {bounds : Bounds} : (ofList e bounds).Shows e := by
  refine shows_of_isEmpty fun he => ?_
  simp [parts, ofList, elements?, he, ItemRules.parts]

theorem shows_ofSet {bounds : Bounds} :
    Shows { ofList e bounds with uniqueItems := some true } e := by
  have h : (ofList e bounds).Shows e := shows_ofList
  exact h

theorem shows_ofRecord : (ofRecord e).Shows e := by
  refine shows_of_isEmpty fun he => ?_
  simp [parts, ofRecord, he, Extra.parts]

theorem shows_ofTuple {ds : List Document} {rest : Option Document} (h : e ∈ ds ∨ rest = some e) :
    (ofTuple ds rest).Shows e := by
  right
  cases rest with
  | none => simpa [parts, ofTuple, ofType, typed, ItemRules.parts, Extra.parts] using h
  | some extra =>
    simpa [parts, ofTuple, ofType, typed, ItemRules.parts, Extra.parts, eq_comm] using h

theorem shows_ofObject {shape : Shape Node} {properties : List (String × Document)}
    {unknownKeys : UnknownKeys} {extra : Option Document} (hnodup : (properties.map Prod.fst).Nodup)
    (h : (∃ q ∈ properties, q.2 = e) ∨ extra = some e) :
    (ofObject shape properties unknownKeys extra).Shows e := by
  rcases h with ⟨q, hq, rfl⟩ | rfl
  · right
    have hne : properties ≠ [] := List.ne_nil_of_mem hq
    have hmem : q.2 ∈ (Json.sortFields properties).map Prod.snd :=
      List.mem_map_of_mem ((Json.mem_sortFields hnodup).mpr hq)
    simp [parts, ofObject, hne, hmem]
  · refine shows_of_isEmpty fun he => ?_
    simp [parts, ofObject, he, Extra.parts]

theorem shows_pairOf {key item : Document} (h : e = key ∨ e = item) :
    (Reading.pairOf key item).Shows e := by
  refine shows_of_isEmpty fun he => ?_
  have hrules : ¬ (key.isEmpty && item.isEmpty) = true := by
    rcases h with rfl | rfl <;> simp [he]
  simpa [parts, Reading.pairOf, ofType, typed, hrules, ItemRules.parts] using h

/-! ## Conditions that documents show -/

/-- A document that meets `P` shows of its node that it meets `p`. -/
structure Tells (P : Document → Prop) (p : Node → Prop) : Prop where
  empty : P {}
  here {n : Node} {d : Document} (h : n.document? = .ok d) (hd : P d) : p n
  annotated {description : Option String} {d : Document} (h : P (d.annotate description)) : P d
  nullable {d : Document} (h : P (.ofNullable true d)) : P d

/-- It shows the same of the alternatives that are put into one document. -/
structure Reveals (P : Document → Prop) (p : Node → Prop) : Prop extends Tells P p where
  collapsed {branches : List Node} {d : Document} (h : collapse? branches = some d) (hd : P d) :
    ∀ b ∈ branches, p b

end Document

namespace Node

open Document

variable {P : Document → Prop} {p : Node → Prop} {d e : Document}

/-- A description takes nothing away from what a document shows. -/
theorem throughout_of_annotate (ht : Tells P p) {n : Node} {description : Option String}
    (h : n.document? = .ok d) (hd : d.Throughout P)
    (he : n.document? = .ok (.annotate description e)) : e.Throughout P := by
  cases Except.ok.inj (h.symm.trans he)
  exact .intro (ht.annotated hd.here) fun x hx => hd.part (by rwa [parts_annotate])

/-- The document of an object shows those of its keys and of its other keys. -/
theorem throughout_of_ofObject (hempty : P {}) {shape : List (String × Node)}
    {unknownKeys : UnknownKeys} {catchall : Option Node} (hnodup : (shape.map Prod.fst).Nodup)
    (hd : (ofObject shape (propertyDocuments shape) unknownKeys
      (catchall.map document)).Throughout P)
    {m : Node} (hm : m ∈ (NodeKind.object shape unknownKeys catchall).parts) :
    m.document.Throughout P := by
  have hproperties : ((propertyDocuments shape).map Prod.fst).Nodup := by
    rw [keys_propertyDocuments]
    exact hnodup
  refine hd.shown hempty (shows_ofObject hproperties ?_)
  rcases List.mem_append.mp hm with hm | hm
  · obtain ⟨q, hq, rfl⟩ := List.mem_map.mp hm
    exact Or.inl ⟨_, List.mem_map_of_mem hq, rfl⟩
  · exact Or.inr (congrArg (Option.map document) (Option.mem_toList.mp hm))

/-- The document of a tuple shows those of its items and of the rest. -/
theorem throughout_of_ofTuple (hempty : P {}) {items : List Node} {rest : Option Node}
    (hd : (ofTuple (items.map document) (rest.map document)).Throughout P) {m : Node}
    (hm : m ∈ (NodeKind.tuple items rest).parts) : m.document.Throughout P := by
  refine hd.shown hempty (shows_ofTuple ?_)
  rcases List.mem_append.mp hm with hm | hm
  · exact Or.inl (List.mem_map_of_mem hm)
  · exact Or.inr (congrArg (Option.map document) (Option.mem_toList.mp hm))

/-- The document of a map shows those of the key and of the item, in the one of a pair. -/
theorem throughout_of_ofMap (hempty : P {}) {key item : Node}
    (hd : (ofMap key.document item.document).Throughout P) {m : Node} (hm : m ∈ [key, item]) :
    m.document.Throughout P := by
  have hpair := hd.part (e := Reading.pairOf key.document item.document) List.mem_cons_self
  refine hpair.shown hempty (shows_pairOf ?_)
  rcases List.mem_cons.mp hm with rfl | hm
  · exact Or.inl rfl
  · exact Or.inr (congrArg document (List.mem_singleton.mp hm))

/-- The document of alternatives shows the document of each one, unless they are all put into it:
then the documents of the alternatives stand nowhere. -/
theorem throughout_of_unionDocument {branches : List Node}
    (hd : (unionDocument branches).Throughout P) {m : Node}
    (hm : m ∈ (NodeKind.union branches).shownParts) : m.document.Throughout P := by
  cases hc : collapse? branches with
  | none =>
    rw [NodeKind.shownParts_of_collapse?_eq_none hc] at hm
    have hne : ¬ branches.isEmpty = true := by simpa using List.ne_nil_of_mem hm
    rw [unionDocument, if_neg hne, hc] at hd
    exact hd.part (by simpa [Document.parts] using ⟨m, hm, rfl⟩)
  | some e =>
    rw [NodeKind.shownParts_of_collapse? hc] at hm
    cases hm

/-- A document with null in it, or beside it, shows the document without null. -/
theorem throughout_of_ofNullable (ht : Tells P p) {primitive : Bool}
    (hd : (ofNullable primitive d).Throughout P) : d.Throughout P := by
  cases primitive with
  | true => exact .intro (ht.nullable hd.here) fun x hx => hd.part hx
  | false => exact hd.part List.mem_cons_self

/-- **What a condition on documents shows of their nodes, it shows at every depth.** -/
theorem shown_of_throughout (ht : Tells P p) {n : Node} (hn : n.Throughout PropertiesOnce)
    (h : n.document? = .ok d) (hd : d.Throughout P) : n.Shown p := by
  induction n using Node.induction generalizing d with
  | step n ih =>
    have hparts := document?_of_mem_translatedParts h
    -- it is enough that the document of every part meets the condition throughout
    have hi : ∀ m ∈ n.kind.translatedParts, m.document.Throughout P → m.Shown p := fun m hm =>
      have hm' := NodeKind.translatedParts_subset _ hm
      ih m hm' (hn.part hm') (hparts m hm)
    refine .intro (ht.here h hd.here) fun m hm => ?_
    have hm' := NodeKind.shownParts_subset _ hm
    refine hi m hm' ?_
    have honce := hn.here
    obtain ⟨kind, description⟩ := n
    have hshown : ∀ {e}, Node.document? ⟨kind, description⟩ = .ok (.annotate description e) →
        e.Throughout P := throughout_of_annotate ht h hd
    cases kind with
    | object shape unknownKeys catchall =>
      dsimp only [NodeKind.translatedParts] at hparts
      exact throughout_of_ofObject ht.empty (honce shape rfl) (hshown (document?_object
        (fun q hq => hparts q.2 (NodeKind.property_mem_parts hq))
        fun c hc => hparts c (NodeKind.catchall_mem_parts hc))) hm
    | record key item =>
      obtain rfl := List.mem_singleton.mp hm
      exact (hshown (document?_record (hparts m hm))).shown ht.empty shows_ofRecord
    | array element bounds =>
      obtain rfl := List.mem_singleton.mp hm
      exact (hshown (document?_array (hparts m hm))).shown ht.empty shows_ofList
    | set element bounds =>
      obtain rfl := List.mem_singleton.mp hm
      exact (hshown (document?_set (hparts m hm))).shown ht.empty shows_ofSet
    | tuple items rest =>
      dsimp only [NodeKind.translatedParts] at hparts
      exact throughout_of_ofTuple ht.empty (hshown (document?_tuple
        (fun i hi' => hparts i (NodeKind.item_mem_parts hi'))
        fun i hi' => hparts i (NodeKind.rest_mem_parts hi'))) hm
    | map key item =>
      have hitem := List.mem_cons_of_mem key (List.mem_singleton_self item)
      exact throughout_of_ofMap ht.empty
        (hshown (document?_map (hparts key List.mem_cons_self) (hparts item hitem))) hm
    | union branches => exact throughout_of_unionDocument (hshown (document?_union hparts)) hm
    | intersection left right =>
      have hright := List.mem_cons_of_mem left (List.mem_singleton_self right)
      exact (hshown (document?_intersection (hparts left List.mem_cons_self)
        (hparts right hright))).part (List.mem_map_of_mem (f := document) hm)
    | optional inner =>
      obtain rfl := List.mem_singleton.mp hm
      exact (hshown (document?_optional (hparts m hm))).part List.mem_cons_self
    | nullable inner =>
      obtain rfl := List.mem_singleton.mp hm
      exact throughout_of_ofNullable ht (hshown (document?_nullable (hparts m hm)))
    | withDefault inner value =>
      obtain rfl := List.mem_singleton.mp hm
      exact hshown (document?_withDefault (hparts m hm))
    | refined inner refinement => cases h
    -- the other kinds have no parts
    | _ => cases hm

/-- A document that shows a condition of its alternatives, too, shows it of all nodes that are
translated. -/
theorem translated_of_throughout (hr : Reveals P p) {n : Node} (hn : n.Throughout PropertiesOnce)
    (h : n.document? = .ok d) (hd : d.Throughout P) : n.Translated p := by
  have htells : Tells P fun m => p m ∧ ∀ branches d, m.kind = .union branches →
      collapse? branches = some d → ∀ b ∈ branches, p b := by
    refine ⟨hr.empty, fun {m e} he hP => ⟨hr.here he hP, ?_⟩, hr.annotated, hr.nullable⟩
    intro branches collapsed hk hc b hb
    obtain ⟨kind, description⟩ := m
    cases hk
    have hparts : ∀ b ∈ branches, b.document? = .ok b.document :=
      document?_of_mem_translatedParts he
    have hunion : Node.document? ⟨.union branches, description⟩
        = .ok (.annotate description (unionDocument branches)) := document?_union hparts
    have hne : ¬ branches.isEmpty = true := by simpa using List.ne_nil_of_mem hb
    rw [unionDocument, if_neg hne, hc] at hunion
    cases Except.ok.inj (he.symm.trans hunion)
    exact hr.collapsed hc (hr.annotated hP) b hb
  exact (shown_of_throughout htells hn h hd).translated

end Node

end DocumentModel
