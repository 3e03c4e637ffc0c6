import DocumentModel.Document.Translate
import DocumentModel.Proofs.Compile.Steps
import DocumentModel.Proofs.Schema.Parts

/-!
# Translated nodes

A node without a refined node anywhere in it has a document (`Node.document?_eq`), which is built
from the documents of its parts; `Node.document` names it, and `Node.document?_array` and its like
say how it is built.
-/

namespace DocumentModel

namespace Node

/-- The node is not refined. -/
def Unrefined (n : Node) : Prop := ∀ inner refinement, n.kind ≠ .refined inner refinement

/-- The document of a node; one without rules where the node has none. -/
def document (n : Node) : Document :=
  match n.document? with
  | .ok d => d
  | .error _ => {}

theorem document_of_eq_ok {n : Node} {d : Document} (h : n.document? = .ok d) : n.document = d := by
  rw [document, h]

variable {description : Option String}

-- The three functions are one recursion with many equations, which every lemma below rewrites with.
-- Here they are made once, before the lemmas are elaborated side by side.
attribute [local simp] document? documents? properties?

/-- Nodes that have documents are translated one after the other. -/
theorem documents?_eq {nodes : List Node} (h : ∀ n ∈ nodes, n.document? = .ok n.document) :
    documents? nodes = .ok (nodes.map document) := by
  induction nodes with
  | nil => rfl
  | cons n rest ih =>
    obtain ⟨hn, hrest⟩ := List.forall_mem_cons.mp h
    rw [documents?, hn, ih hrest]
    rfl

/-- The documents of several nodes, if all of them have one. -/
theorem documents?_eq_ok {nodes : List Node} {ds : List Document} (h : documents? nodes = .ok ds) :
    (∀ n ∈ nodes, n.document? = .ok n.document) ∧ ds = nodes.map document := by
  induction nodes generalizing ds with
  | nil =>
    cases h
    exact ⟨nofun, rfl⟩
  | cons n rest ih =>
    rw [documents?] at h
    obtain ⟨first, hfirst, h⟩ := bind_eq_ok_iff.mp h
    obtain ⟨more, hmore, h⟩ := bind_eq_ok_iff.mp h
    cases h
    obtain ⟨hrest, rfl⟩ := ih hmore
    obtain rfl := document_of_eq_ok hfirst
    exact ⟨List.forall_mem_cons.mpr ⟨hfirst, hrest⟩, rfl⟩

/-- The documents of the properties of an object. -/
def propertyDocuments (shape : List (String × Node)) : List (String × Document) :=
  shape.map fun p => (p.1, p.2.document)

theorem keys_propertyDocuments {shape : List (String × Node)} :
    (propertyDocuments shape).map Prod.fst = shape.map Prod.fst := by
  simp [propertyDocuments]

/-- Properties that have documents keep their names and their order. -/
theorem properties?_eq {shape : List (String × Node)}
    (h : ∀ p ∈ shape, p.2.document? = .ok p.2.document) :
    properties? shape = .ok (propertyDocuments shape) := by
  induction shape with
  | nil => rfl
  | cons p rest ih =>
    obtain ⟨key, node⟩ := p
    obtain ⟨hp, hrest⟩ := List.forall_mem_cons.mp h
    rw [properties?, hp, ih hrest]
    rfl

/-- The documents of properties, if all of them have one. -/
theorem properties?_eq_ok {shape : List (String × Node)} {ps : List (String × Document)}
    (h : properties? shape = .ok ps) :
    (∀ p ∈ shape, p.2.document? = .ok p.2.document) ∧ ps = propertyDocuments shape := by
  induction shape generalizing ps with
  | nil =>
    cases h
    exact ⟨nofun, rfl⟩
  | cons p rest ih =>
    obtain ⟨key, node⟩ := p
    rw [properties?] at h
    obtain ⟨first, hfirst, h⟩ := bind_eq_ok_iff.mp h
    obtain ⟨more, hmore, h⟩ := bind_eq_ok_iff.mp h
    cases h
    obtain ⟨hrest, rfl⟩ := ih hmore
    obtain rfl := document_of_eq_ok hfirst
    exact ⟨List.forall_mem_cons.mpr ⟨hfirst, hrest⟩, rfl⟩

/-! ## Kinds with parts -/

variable {element key item inner left right : Node} {bounds : Bounds}

/-- The document of an object, where all its parts have one. -/
theorem document?_object {shape : List (String × Node)} {unknownKeys : UnknownKeys}
    {catchall : Option Node} (hs : ∀ p ∈ shape, p.2.document? = .ok p.2.document)
    (hc : ∀ n ∈ catchall, n.document? = .ok n.document) :
    document? ⟨.object shape unknownKeys catchall, description⟩
      = .ok (.annotate description
        (.ofObject shape (propertyDocuments shape) unknownKeys (catchall.map document))) := by
  cases catchall with
  | none => rw [document?, properties?_eq hs]; rfl
  | some n => rw [document?, properties?_eq hs, hc n rfl]; rfl

/-- The document of a record is made of the one of its items; the keys are not asked. -/
theorem document?_record (h : item.document? = .ok item.document) :
    document? ⟨.record key item, description⟩
      = .ok (.annotate description (.ofRecord item.document)) := by
  rw [document?, h]
  rfl

/-- The document of an array is made of the one of its elements. -/
theorem document?_array (h : element.document? = .ok element.document) :
    document? ⟨.array element bounds, description⟩
      = .ok (.annotate description (.ofList element.document bounds)) := by
  rw [document?, h]
  rfl

/-- A set is translated like an array, and its items must be unique. -/
theorem document?_set (h : element.document? = .ok element.document) :
    document? ⟨.set element bounds, description⟩
      = .ok (.annotate description
        { Document.ofList element.document bounds with uniqueItems := some true }) := by
  rw [document?, h]
  rfl

/-- The document of a tuple is made of those of its items and of the rest. -/
theorem document?_tuple {nodes : List Node} {rest : Option Node}
    (hn : ∀ n ∈ nodes, n.document? = .ok n.document)
    (hr : ∀ n ∈ rest, n.document? = .ok n.document) :
    document? ⟨.tuple nodes rest, description⟩
      = .ok (.annotate description (.ofTuple (nodes.map document) (rest.map document))) := by
  cases rest with
  | none => rw [document?, documents?_eq hn]; rfl
  | some n => rw [document?, documents?_eq hn, hr n rfl]; rfl

/-- The document of a map is made of those of its keys and items. -/
theorem document?_map (hk : key.document? = .ok key.document)
    (hi : item.document? = .ok item.document) :
    document? ⟨.map key item, description⟩
      = .ok (.annotate description (.ofMap key.document item.document)) := by
  rw [document?, hk, hi]
  rfl

/-- The document of alternatives. -/
def unionDocument (branches : List Node) : Document :=
  if branches.isEmpty then .nothing
  else (Document.collapse? branches).getD { anyOf := some (branches.map document) }

/-- The document of alternatives, where each one has a document. -/
theorem document?_union {branches : List Node} (h : ∀ n ∈ branches, n.document? = .ok n.document) :
    document? ⟨.union branches, description⟩
      = .ok (.annotate description (unionDocument branches)) := by
  rw [document?, documents?_eq h, unionDocument]
  split
  · rfl
  · cases Document.collapse? branches <;> rfl

/-- Both sides of an intersection have to be met. -/
theorem document?_intersection (hl : left.document? = .ok left.document)
    (hr : right.document? = .ok right.document) :
    document? ⟨.intersection left right, description⟩
      = .ok (.annotate description { allOf := some [left.document, right.document] }) := by
  rw [document?, hl, hr]
  rfl

/-- An optional value has the alternative that no value meets. -/
theorem document?_optional (h : inner.document? = .ok inner.document) :
    document? ⟨.optional inner, description⟩
      = .ok (.annotate description { anyOf := some [inner.document, .nothing] }) := by
  rw [document?, h]
  rfl

/-- Null goes into the document of a primitive, and stands beside any other one. -/
theorem document?_nullable (h : inner.document? = .ok inner.document) :
    document? ⟨.nullable inner, description⟩
      = .ok (.annotate description (.ofNullable inner.kind.primitive?.isSome inner.document)) := by
  rw [document?, h]
  rfl

/-- A default is not part of a document. -/
theorem document?_withDefault {value : Json} (h : inner.document? = .ok inner.document) :
    document? ⟨.withDefault inner value, description⟩
      = .ok (.annotate description inner.document) := by
  rw [document?, h]
  rfl

/-! ## Totality -/

/-- **Only a refined node keeps a node from having a document.** -/
theorem document?_eq {n : Node} (h : n.Throughout Unrefined) : n.document? = .ok n.document := by
  suffices h : ∃ d, n.document? = .ok d by
    obtain ⟨d, hd⟩ := h
    rw [hd, document_of_eq_ok hd]
  induction n using Node.induction with
  | step n ih =>
    have hp : ∀ m ∈ n.parts, m.document? = .ok m.document := by
      intro m hm
      obtain ⟨d, hd⟩ := ih m hm (h.part hm)
      rw [hd, document_of_eq_ok hd]
    obtain ⟨kind, description⟩ := n
    cases kind with
    | object shape unknownKeys catchall =>
      exact ⟨_, document?_object (fun p hm => hp p.2 (NodeKind.property_mem_parts hm))
        (fun m hm => hp m (NodeKind.catchall_mem_parts hm))⟩
    | record key item =>
      exact ⟨_, document?_record (hp item (List.mem_cons_of_mem _ List.mem_cons_self))⟩
    | array element bounds => exact ⟨_, document?_array (hp element List.mem_cons_self)⟩
    | set element bounds => exact ⟨_, document?_set (hp element List.mem_cons_self)⟩
    | tuple nodes rest =>
      exact ⟨_, document?_tuple (fun m hm => hp m (NodeKind.item_mem_parts hm))
        (fun m hm => hp m (NodeKind.rest_mem_parts hm))⟩
    | map key item =>
      exact ⟨_, document?_map (hp key List.mem_cons_self)
        (hp item (List.mem_cons_of_mem _ List.mem_cons_self))⟩
    | union branches => exact ⟨_, document?_union hp⟩
    | intersection left right =>
      exact ⟨_, document?_intersection (hp left List.mem_cons_self)
        (hp right (List.mem_cons_of_mem _ List.mem_cons_self))⟩
    | optional inner => exact ⟨_, document?_optional (hp inner List.mem_cons_self)⟩
    | nullable inner => exact ⟨_, document?_nullable (hp inner List.mem_cons_self)⟩
    | withDefault inner value => exact ⟨_, document?_withDefault (hp inner List.mem_cons_self)⟩
    | refined inner refinement => exact absurd rfl (h.here inner refinement)
    -- the other kinds have no parts, and a document each
    | _ => exact ⟨_, rfl⟩

end Node

end DocumentModel
