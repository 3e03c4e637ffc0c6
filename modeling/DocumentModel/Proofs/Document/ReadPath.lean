import DocumentModel.Proofs.Document.Plain

/-!
# What may be stored can be parsed

A value that is accepted by the document of a node is parsed by the node, for plain nodes in which
nothing is checked that the document leaves out: of two lengths of a kind a document states the
last, keys of a record and defaults it does not state at all, and a union may tolerate the absence
of a key that its check asks for. `NodeKind.IsReadable` says so for each kind.

An absent value has no document to be accepted by. It fits where a node accepts absence
(`Node.fits_none_of_acceptsMissing`), and no document lets a key be absent otherwise.
-/

namespace DocumentModel

/-- The kinds in which a document leaves out nothing that is checked. -/
def NodeKind.IsReadable : NodeKind Node → Prop
  | .string checks => (checks.filterMap StringCheck.least?).length ≤ 1
    ∧ (checks.filterMap StringCheck.most?).length ≤ 1
  | .record key _ => key.kind = .string []
  | .withDefault inner value => ∃ out, inner.parse value = .ok out
  | .union branches => ∀ b ∈ branches, b.acceptsMissing = false
  | _ => True

namespace Node

/-- Plain nodes of such a kind. -/
def Readable (n : Node) : Prop := n.Plain ∧ n.kind.IsReadable

theorem anyAcceptsMissing_eq_false {branches : List Node}
    (h : ∀ b ∈ branches, b.acceptsMissing = false) : anyAcceptsMissing branches = false := by
  induction branches with
  | nil => rfl
  | cons b rest ih =>
    obtain ⟨hb, hrest⟩ := List.forall_mem_cons.mp h
    rw [anyAcceptsMissing, hb, ih hrest, Bool.or_self]

/-- **Absence fits where a node says that it accepts absence.** -/
theorem fits_none_of_acceptsMissing {n : Node} (hn : n.Throughout Readable)
    (h : n.acceptsMissing = true) : n.Fits none := by
  induction n using Node.induction with
  | step n ih =>
    obtain ⟨hplain, hread⟩ := hn.here
    obtain ⟨kind, description⟩ := n
    cases kind with
    | any | unknown | undefined | void | objectId | optional inner => rfl
    | withDefault inner value =>
      obtain ⟨out, ho⟩ := hread
      exact fits_withDefault.mpr (parse_eq_ok_iff.mp ho).1
    | nullable inner =>
      exact fits_nullable.mpr (Or.inr (ih inner List.mem_cons_self (hn.part List.mem_cons_self) h))
    | union branches =>
      rw [acceptsMissing, anyAcceptsMissing_eq_false hread] at h
      cases h
    | intersection left right => exact absurd hplain.kind id
    | refined inner refinement => exact absurd hplain.kind id
    | _ => cases h

variable {r : Reading}

/-- Whatever the document of the node accepts fits the node. -/
def ReadsAccepted (r : Reading) (n : Node) : Prop :=
  ∀ v, r.accepts n.document v = true → n.Fits (some v)

/-! ## Kinds with parts -/

/-- In a list that has one entry at most every entry is the last. -/
theorem mem_getLast?_of_length_le_one {α : Type} {l : List α} (hl : l.length ≤ 1) {k : α}
    (hk : k ∈ l) : k ∈ l.getLast? := by
  match l, hl with
  | [a], _ => exact List.mem_singleton.mp hk ▸ rfl

theorem readsAccepted_zip {nodes : List Node} (h : ∀ n ∈ nodes, n.ReadsAccepted r)
    {items : List Json} (ha : ∀ e ∈ (nodes.map document).zip items, r.accepts e.1 e.2 = true) :
    ∀ e ∈ nodes.zip items, e.1.Fits (some e.2) := by
  rw [List.zip_map_left] at ha
  intro e he
  exact h e.1 (List.of_mem_zip he).1 e.2 (ha _ (List.mem_map_of_mem he))

theorem readsAccepted_object (hr : r.Standard) {shape : List (String × Node)}
    {unknownKeys : UnknownKeys} {catchall : Option Node} {description : Option String}
    (hnd : (shape.map Prod.fst).Nodup) (hs : ∀ p ∈ shape, p.2.ReadsAccepted r)
    (hm : ∀ p ∈ shape, p.2.acceptsMissing = true → p.2.Fits none)
    (hc : ∀ n ∈ catchall, n.ReadsAccepted r) {v : Json}
    (ha : r.accepts
      (.ofObject shape (propertyDocuments shape) unknownKeys (catchall.map document)) v = true) :
    Fits ⟨.object shape unknownKeys catchall, description⟩ (some v) := by
  rw [Reading.accepts_ofObject hr (by rw [keys_propertyDocuments]; exact hnd)] at ha
  obtain ⟨fields, rfl, hreq, hprop, hextra⟩ := ha
  have hund : undeclared (propertyDocuments shape) fields = undeclared shape fields :=
    Reading.undeclared_congr (fun k => by rw [keys_propertyDocuments]) _
  rw [hund] at hextra
  refine fits_object.mpr ⟨fields, rfl, ?_, ?_⟩
  · intro p hp
    cases hx : Json.findField? p.1 fields with
    | some x => exact hs p hp x (hprop (p.1, p.2.document) (List.mem_map_of_mem hp) x hx)
    | none =>
      -- a key that is not there is not required either
      refine hm p hp (by_contra fun hne => ?_)
      have := hreq p hp (Bool.not_eq_true _ ▸ hne)
      rw [hx] at this
      cases this
  · cases catchall with
    | some c => exact fun f hf => hc c rfl f.2 (hextra f hf)
    | none =>
      cases unknownKeys with
      | strip | passthrough => trivial
      | strict => exact hextra

/-! ## One rule for each kind -/

namespace ReadsAccepted

variable {description : Option String}

/-- With one length of a kind at most, the document states all lengths. -/
theorem string (hr : r.Standard) (hu : Marker.ofDescription? description = none)
    {checks : List StringCheck} (hl : ∀ c ∈ checks, c.isLength = true)
    (hread : (NodeKind.string checks).IsReadable) :
    ReadsAccepted r ⟨.string checks, description⟩ := by
  intro v ha
  rw [accepts_document hu rfl, accepts_ofStringChecks hr hl] at ha
  obtain ⟨raw, rfl, hleast, hmost⟩ := ha
  exact (fits_lengths hl).mpr ⟨raw, rfl,
    fun k hk => hleast k (mem_getLast?_of_length_le_one hread.1 hk),
    fun k hk => hmost k (mem_getLast?_of_length_le_one hread.2 hk)⟩

/-- Every key is a string, and the node of the keys checks nothing more. -/
theorem record (hr : r.Standard) (hu : Marker.ofDescription? description = none) {key item : Node}
    (hread : (NodeKind.record key item).IsReadable) (hd : item.document? = .ok item.document)
    (hi : item.ReadsAccepted r) : ReadsAccepted r ⟨.record key item, description⟩ := by
  intro v ha
  rw [accepts_document hu (document?_record hd), Reading.accepts_ofRecord hr] at ha
  obtain ⟨fields, rfl, ha⟩ := ha
  refine fits_record.mpr ⟨fields, rfl, fun f hf => ⟨?_, hi f.2 (ha f hf)⟩⟩
  obtain ⟨keyKind, keyDescription⟩ := key
  have hk : keyKind = .string [] := hread
  rw [hk]
  exact fits_string.mpr ⟨f.1, rfl, rfl⟩

theorem array (hr : r.Standard) (hu : Marker.ofDescription? description = none) {element : Node}
    {bounds : Bounds} (hd : element.document? = .ok element.document)
    (hi : element.ReadsAccepted r) : ReadsAccepted r ⟨.array element bounds, description⟩ := by
  intro v ha
  rw [accepts_document hu (document?_array hd), Reading.accepts_ofList hr] at ha
  obtain ⟨items, rfl, hb, ha⟩ := ha
  exact fits_array.mpr ⟨items, rfl, hb, fun x hx => hi x (ha x hx)⟩

/-- Items that are unique for the document are no duplicates for the check. -/
theorem set (hr : r.Standard) (hu : Marker.ofDescription? description = none) {element : Node}
    {bounds : Bounds} (hd : element.document? = .ok element.document)
    (hi : element.ReadsAccepted r) : ReadsAccepted r ⟨.set element bounds, description⟩ := by
  intro v ha
  rw [accepts_document hu (document?_set hd), Reading.accepts_ofSet hr] at ha
  obtain ⟨items, rfl, hb, hdis, ha⟩ := ha
  exact fits_set.mpr ⟨items, rfl, hb, hasDuplicate_eq_false_iff.mpr hdis,
    fun x hx => hi x (ha x hx)⟩

theorem tuple (hr : r.Standard) (hu : Marker.ofDescription? description = none)
    {nodes : List Node} {rest : Option Node}
    (hd : ∀ m ∈ (NodeKind.tuple nodes rest).parts, m.document? = .ok m.document)
    (hi : ∀ m ∈ (NodeKind.tuple nodes rest).parts, m.ReadsAccepted r) :
    ReadsAccepted r ⟨.tuple nodes rest, description⟩ := by
  intro v ha
  rw [accepts_document hu (document?_tuple
    (fun m hm => hd m (NodeKind.item_mem_parts hm))
    fun m hm => hd m (NodeKind.rest_mem_parts hm)),
    Reading.accepts_ofTuple hr, List.length_map] at ha
  obtain ⟨items, rfl, hl, hmost, hfixed, hextra⟩ := ha
  refine fits_tuple.mpr ⟨items, rfl, hl, fun he => hmost (by rw [he]; rfl),
    readsAccepted_zip (fun m hm => hi m (NodeKind.item_mem_parts hm)) hfixed, fun m hm x hx => ?_⟩
  exact hi m (NodeKind.rest_mem_parts hm) x (hextra m.document (by rw [hm]; rfl) x hx)

theorem map (hr : r.Standard) (hu : Marker.ofDescription? description = none) {key item : Node}
    (hdk : key.document? = .ok key.document) (hdi : item.document? = .ok item.document)
    (hk : key.ReadsAccepted r) (hi : item.ReadsAccepted r) :
    ReadsAccepted r ⟨.map key item, description⟩ := by
  intro v ha
  rw [accepts_document hu (document?_map hdk hdi), Reading.accepts_ofMap hr] at ha
  obtain ⟨entries, rfl, ha⟩ := ha
  refine fits_map.mpr ⟨entries, rfl, fun e he => ?_⟩
  obtain ⟨k, x, rfl, hfk, hfx⟩ := ha e he
  exact ⟨k, x, rfl, hk k hfk, hi x hfx⟩

/-- Where the alternatives are put into one document, a value that it accepts fits one of them. -/
theorem union (hr : r.Standard) (hu : Marker.ofDescription? description = none)
    {branches : List Node} (hd : ∀ m ∈ branches, m.document? = .ok m.document)
    (hub : ∀ m ∈ branches, Marker.ofDescription? m.description = none)
    (hi : ∀ m ∈ branches, m.ReadsAccepted r) : ReadsAccepted r ⟨.union branches, description⟩ := by
  intro v ha
  rw [accepts_document hu (document?_union hd)] at ha
  obtain ⟨b, hb, hf⟩ := exists_branch_of_accepts hr hub ha
  exact fits_union.mpr ⟨v, rfl, b, hb, hf.elim id (hi b hb v)⟩

/-- No value meets the alternative that stands for absence. -/
theorem optional (hu : Marker.ofDescription? description = none) {inner : Node}
    (hd : inner.document? = .ok inner.document) (hi : inner.ReadsAccepted r) :
    ReadsAccepted r ⟨.optional inner, description⟩ := by
  intro v ha
  rw [accepts_document hu (document?_optional hd), Reading.accepts_anyOf] at ha
  simp only [List.any_cons, Reading.accepts_nothing, List.any_nil, Bool.or_false] at ha
  exact fits_optional.mpr (Or.inr (hi v ha))

theorem nullable (hr : r.Standard) (hu : Marker.ofDescription? description = none) {inner : Node}
    (hp : inner.Plain) (hd : inner.document? = .ok inner.document) (hi : inner.ReadsAccepted r) :
    ReadsAccepted r ⟨.nullable inner, description⟩ := by
  intro v ha
  rw [accepts_document hu (document?_nullable hd), accepts_nullable hr hp hd, Bool.or_eq_true] at ha
  rcases ha with hnull | ha
  · cases v <;> cases hnull
    exact fits_nullable.mpr (Or.inl rfl)
  · exact fits_nullable.mpr (Or.inr (hi v ha))

theorem withDefault (hu : Marker.ofDescription? description = none) {inner : Node} {value : Json}
    (hd : inner.document? = .ok inner.document) (hi : inner.ReadsAccepted r) :
    ReadsAccepted r ⟨.withDefault inner value, description⟩ := by
  intro v ha
  rw [accepts_document hu (document?_withDefault hd)] at ha
  exact fits_withDefault.mpr (hi v ha)

end ReadsAccepted

/-! ## The law -/

/-- **A value that the document of the node accepts fits the node.** -/
theorem readsAccepted (hr : r.Standard) {n : Node} (hn : n.Throughout Readable) :
    n.ReadsAccepted r := by
  induction n using Node.induction with
  | step n ih =>
    have hd : ∀ m ∈ n.parts, m.document? = .ok m.document := fun m hm =>
      ((hn.part hm).mono fun _ h => h.1).document?_eq
    have hi : ∀ m ∈ n.parts, m.ReadsAccepted r := fun m hm => ih m hm (hn.part hm)
    have hm : ∀ m ∈ n.parts, m.acceptsMissing = true → m.Fits none := fun m hm =>
      fits_none_of_acceptsMissing (hn.part hm)
    have hdoc : n.document? = .ok n.document := (hn.mono fun _ h => h.1).document?_eq
    have hp : ∀ m ∈ n.parts, m.Plain := fun m hm => (hn.part hm).here.1
    obtain ⟨hplain, hread⟩ := hn.here
    have hu : Marker.ofDescription? n.description = none := hplain.unmarked
    obtain ⟨kind, description⟩ := n
    cases kind with
    | string checks => exact .string hr hu (hplain.isLength checks rfl) hread
    | object shape unknownKeys catchall =>
      intro v ha
      rw [accepts_document hu (document?_object
        (fun p hp => hd p.2 (NodeKind.property_mem_parts hp))
        fun m hc => hd m (NodeKind.catchall_mem_parts hc))] at ha
      exact readsAccepted_object hr hplain.kind
        (fun p hp => hi p.2 (NodeKind.property_mem_parts hp))
        (fun p hp => hm p.2 (NodeKind.property_mem_parts hp))
        (fun m hc => hi m (NodeKind.catchall_mem_parts hc)) ha
    | record key item =>
      have hitem := List.mem_cons_of_mem key (List.mem_singleton_self item)
      exact .record hr hu hread (hd item hitem) (hi item hitem)
    | array element bounds =>
      exact .array hr hu (hd element List.mem_cons_self) (hi element List.mem_cons_self)
    | set element bounds =>
      exact .set hr hu (hd element List.mem_cons_self) (hi element List.mem_cons_self)
    | tuple nodes rest => exact .tuple hr hu hd hi
    | map key item =>
      have hitem := List.mem_cons_of_mem key (List.mem_singleton_self item)
      exact .map hr hu (hd key List.mem_cons_self) (hd item hitem) (hi key List.mem_cons_self)
        (hi item hitem)
    | union branches => exact .union hr hu hd (fun m hm => (hp m hm).unmarked) hi
    | intersection left right => exact absurd hplain.kind id
    | optional inner =>
      exact .optional hu (hd inner List.mem_cons_self) (hi inner List.mem_cons_self)
    | nullable inner =>
      exact .nullable hr hu (hp inner List.mem_cons_self) (hd inner List.mem_cons_self)
        (hi inner List.mem_cons_self)
    | withDefault inner value =>
      exact .withDefault hu (hd inner List.mem_cons_self) (hi inner List.mem_cons_self)
    | refined inner refinement => exact absurd hplain.kind id
    | _ => exact fun v ha => (hplain.accepts_iff_fits hr rfl hdoc).mp ha

/-- **Every value that the document of the node accepts is parsed.** -/
theorem parse_of_accepts (hr : r.Standard) {n : Node} (hn : n.Throughout Readable) :
    ∃ d, n.document? = .ok d ∧ ∀ v, r.accepts d v = true → ∃ out, n.parse v = .ok out := by
  refine ⟨n.document, (hn.mono fun _ h => h.1).document?_eq, fun v ha => ?_⟩
  exact ⟨_, parse_eq_ok_iff.mpr ⟨readsAccepted hr hn v ha, rfl⟩⟩

theorem parse_of_accepts_article : article.Throughout Readable ∧
    ∃ d, article.document? = .ok d ∧
      ∀ v, Reading.plain.accepts d v = true → ∃ out, article.parse v = .ok out := by
  have h : article.Throughout Readable := by
    simp [article, ofShape, ofKind, number, arrayOf, string, Throughout.mk_iff, Readable,
      Plain.mk_iff, Marker.ofDescription?, NodeKind.IsPlain, NodeKind.IsReadable, NodeKind.parts,
      StringCheck.isLength, StringCheck.least?, StringCheck.most?]
    exact ⟨by decide, _, rfl⟩
  exact ⟨h, parse_of_accepts Reading.plain_standard h⟩

end Node

end DocumentModel
