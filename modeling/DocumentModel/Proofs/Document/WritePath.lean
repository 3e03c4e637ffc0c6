import DocumentModel.Proofs.Document.Plain

/-!
# What is parsed may be stored

The value that `Node.parse` returns is accepted by the document that the node is translated to, for
plain nodes without sets: two elements of a set that differ may be conformed to the same value.

The proof goes through the parts of a node. What has to be carried along is the result of an absent
value, since a default may put a value there (`Node.StoresResults`).
-/

namespace DocumentModel

namespace Node

/-- A list in which a value may stand once only. -/
def IsSet (n : Node) : Prop := ∃ element bounds, n.kind = .set element bounds

/-- Plain nodes that are no sets. -/
def Storable (n : Node) : Prop := n.Plain ∧ ¬ n.IsSet

variable {r : Reading}

/-! ## Kinds with parts -/

section Parts

variable {v : Option Json} {w : Json}

/-- Whatever a value that fits is conformed to is accepted by the document of the node. -/
def StoresResults (r : Reading) (n : Node) : Prop :=
  ∀ v w, n.Fits v → n.result v = some w → r.accepts n.document w = true

theorem StoresResults.getD {n : Node} (h : n.StoresResults r) {x : Json} (hf : n.Fits (some x)) :
    r.accepts n.document ((n.result (some x)).getD .null) = true := by
  obtain ⟨y, hy⟩ := Option.isSome_iff_exists.mp (isSome_result n hf)
  rw [hy, Option.getD_some]
  exact h _ _ hf hy

theorem StoresResults.results {n : Node} (h : n.StoresResults r) {items : List Json}
    (hf : ∀ x ∈ items, n.Fits (some x)) : ∀ y ∈ n.results items, r.accepts n.document y = true := by
  intro y hy
  obtain ⟨x, hx, rfl⟩ := List.mem_map.mp hy
  exact h.getD (hf x hx)

theorem storesResults_resultsEach {nodes : List Node} (h : ∀ n ∈ nodes, n.StoresResults r)
    {items : List Json} (hf : ∀ e ∈ nodes.zip items, e.1.Fits (some e.2)) :
    ∀ e ∈ (nodes.map document).zip (resultsEach nodes items), r.accepts e.1 e.2 = true := by
  induction nodes generalizing items with
  | nil => simp
  | cons n rest ih =>
    cases items with
    | nil => simp [resultsEach]
    | cons x xs =>
      obtain ⟨hn, hrest⟩ := List.forall_mem_cons.mp h
      rw [List.zip_cons_cons, List.forall_mem_cons] at hf
      rw [resultsEach, List.zip_cons_cons, List.map_cons, List.map_cons, List.zip_cons_cons,
        List.forall_mem_cons]
      exact ⟨hn.getD hf.1, ih hrest hf.2⟩

theorem storesResults_object (hr : r.Standard) {shape : List (String × Node)}
    {unknownKeys : UnknownKeys} {catchall : Option Node} (hnd : (shape.map Prod.fst).Nodup)
    (hs : ∀ p ∈ shape, p.2.StoresResults r) (hc : ∀ n ∈ catchall, n.StoresResults r)
    {fields : List (String × Json)} (hf : ∀ p ∈ shape, p.2.Fits (Json.findField? p.1 fields))
    (hu : UndeclaredFit unknownKeys catchall (undeclared shape fields)) :
    r.accepts (.ofObject shape (propertyDocuments shape) unknownKeys (catchall.map document))
      (.object (objectResult shape unknownKeys catchall fields)) = true := by
  rw [Reading.accepts_ofObject hr (by rw [keys_propertyDocuments]; exact hnd)]
  refine ⟨_, rfl, ?_, ?_, ?_⟩
  · -- a required key does not accept absence, so its value was there and has not vanished
    intro p hp hm
    rw [findField?_objectResult hnd hp]
    have hfit := hf p hp
    cases hx : Json.findField? p.1 fields with
    | none =>
      rw [hx] at hfit
      rw [acceptsMissing_of_fits_none _ hfit] at hm
      cases hm
    | some x =>
      rw [hx] at hfit
      exact isSome_result _ hfit
  · intro q hq w hw
    obtain ⟨p, hp, rfl⟩ := List.mem_map.mp hq
    rw [findField?_objectResult hnd hp] at hw
    exact hs p hp _ w (hf p hp) hw
  · -- what has no declaration in the result had none in the value
    have hund :
        undeclared (propertyDocuments shape) (objectResult shape unknownKeys catchall fields)
          = undeclared shape (objectResult shape unknownKeys catchall fields) :=
      Reading.undeclared_congr (fun k => by rw [keys_propertyDocuments]) _
    rw [hund]
    have hmem : ∀ f ∈ undeclared shape (objectResult shape unknownKeys catchall fields),
        f ∈ undeclaredResult unknownKeys catchall (undeclared shape fields) := fun f hf =>
      mem_undeclaredResult_of_mem_objectResult (List.mem_filter.mp hf).1
        (not_declared_of_mem_undeclared hf)
    cases catchall with
    | some c =>
      intro f hm
      obtain ⟨g, hg, he⟩ := List.mem_filterMap.mp (hmem f hm)
      obtain ⟨w, hw, rfl⟩ := Option.map_eq_some_iff.mp he
      exact hc c rfl _ w (hu g hg) hw
    | none =>
      cases unknownKeys with
      | passthrough => trivial
      | strip | strict => exact List.eq_nil_iff_forall_not_mem.mpr fun f hm => nomatch hmem f hm

theorem storesResults_tuple (hr : r.Standard) {nodes : List Node} {rest : Option Node}
    (hn : ∀ n ∈ nodes, n.StoresResults r) (hrest : ∀ n ∈ rest, n.StoresResults r)
    {items : List Json} (hl : nodes.length ≤ items.length)
    (hf : ∀ e ∈ nodes.zip items, e.1.Fits (some e.2))
    (hfr : ∀ n ∈ rest, ∀ x ∈ items.drop nodes.length, n.Fits (some x)) :
    r.accepts (.ofTuple (nodes.map document) (rest.map document)) (.array (resultsEach nodes items
      ++ (rest.map fun n => n.results (items.drop nodes.length)).getD [])) = true := by
  have hlen : (nodes.map document).length = (resultsEach nodes items).length := by
    simp [resultsEach]
    omega
  rw [Reading.accepts_ofTuple hr]
  refine ⟨_, rfl, ?_, ?_, ?_, ?_⟩
  · rw [List.length_append, hlen]
    exact Nat.le_add_right _ _
  · intro he
    rw [Option.map_eq_none_iff.mp he, hlen]
    simp
  · rw [← List.append_nil (nodes.map document), List.zip_append hlen, List.zip_nil_left,
      List.append_nil]
    exact storesResults_resultsEach hn hf
  · intro d hd
    obtain ⟨n, hm, rfl⟩ := Option.map_eq_some_iff.mp hd
    rw [hm, hlen, List.drop_left]
    exact (hrest n hm).results (hfr n hm)

end Parts

/-! ## One rule for each kind -/

namespace StoresResults

variable {description : Option String}

/-- Of two lengths of a kind the document states the last, and a value that fits meets both. -/
theorem string (hr : r.Standard) (hu : Marker.ofDescription? description = none)
    {checks : List StringCheck} (hl : ∀ c ∈ checks, c.isLength = true) :
    StoresResults r ⟨.string checks, description⟩ := by
  intro v w hf hw
  obtain ⟨raw, rfl, hleast, hmost⟩ := (fits_lengths hl).mp hf
  rw [result_lengths hl] at hw
  cases hw
  rw [accepts_document hu rfl, accepts_ofStringChecks hr hl]
  exact ⟨raw, rfl, fun k hk => hleast k (List.mem_of_getLast? hk),
    fun k hk => hmost k (List.mem_of_getLast? hk)⟩

/-- An object stores its results when each key and the other keys do. -/
theorem object (hr : r.Standard) (hu : Marker.ofDescription? description = none)
    {shape : List (String × Node)} {unknownKeys : UnknownKeys} {catchall : Option Node}
    (hnd : (shape.map Prod.fst).Nodup)
    (hd : ∀ m ∈ (NodeKind.object shape unknownKeys catchall).parts, m.document? = .ok m.document)
    (hi : ∀ m ∈ (NodeKind.object shape unknownKeys catchall).parts, m.StoresResults r) :
    StoresResults r ⟨.object shape unknownKeys catchall, description⟩ := by
  intro v w hf hw
  obtain ⟨fields, rfl, hfs, hfu⟩ := fits_object.mp hf
  rw [result_object] at hw
  cases hw
  rw [accepts_document hu (document?_object
    (fun p hp => hd p.2 (NodeKind.property_mem_parts hp))
    fun m hc => hd m (NodeKind.catchall_mem_parts hc))]
  exact storesResults_object hr hnd
    (fun p hp => hi p.2 (NodeKind.property_mem_parts hp))
    (fun m hc => hi m (NodeKind.catchall_mem_parts hc)) hfs hfu

/-- The document of a record asks nothing of the keys, so only the items count. -/
theorem record (hr : r.Standard) (hu : Marker.ofDescription? description = none) {key item : Node}
    (hd : item.document? = .ok item.document) (hi : item.StoresResults r) :
    StoresResults r ⟨.record key item, description⟩ := by
  intro v w hf hw
  obtain ⟨fields, rfl, hfit⟩ := fits_record.mp hf
  rw [result_record] at hw
  cases hw
  rw [accepts_document hu (document?_record hd), Reading.accepts_ofRecord hr]
  refine ⟨_, rfl, fun f hm => ?_⟩
  obtain ⟨g, hg, he⟩ := List.mem_filterMap.mp hm
  obtain ⟨w, hw, rfl⟩ := Option.map_eq_some_iff.mp he
  exact hi _ w (hfit g hg).2 hw

/-- Conforming the elements of an array keeps their number. -/
theorem array (hr : r.Standard) (hu : Marker.ofDescription? description = none) {element : Node}
    {bounds : Bounds} (hd : element.document? = .ok element.document)
    (hi : element.StoresResults r) : StoresResults r ⟨.array element bounds, description⟩ := by
  intro v w hf hw
  obtain ⟨items, rfl, hb, hfit⟩ := fits_array.mp hf
  rw [result_array] at hw
  cases hw
  rw [accepts_document hu (document?_array hd), Reading.accepts_ofList hr]
  exact ⟨_, rfl, by rw [Node.results, List.length_map]; exact hb, hi.results hfit⟩

/-- A tuple stores its results when its items and the rest do. -/
theorem tuple (hr : r.Standard) (hu : Marker.ofDescription? description = none)
    {nodes : List Node} {rest : Option Node}
    (hd : ∀ m ∈ (NodeKind.tuple nodes rest).parts, m.document? = .ok m.document)
    (hi : ∀ m ∈ (NodeKind.tuple nodes rest).parts, m.StoresResults r) :
    StoresResults r ⟨.tuple nodes rest, description⟩ := by
  intro v w hf hw
  obtain ⟨items, rfl, hl, hm, hfit, hfr⟩ := fits_tuple.mp hf
  rw [result_tuple hf] at hw
  cases hw
  rw [accepts_document hu (document?_tuple
    (fun m hm => hd m (NodeKind.item_mem_parts hm))
    fun m hm => hd m (NodeKind.rest_mem_parts hm))]
  exact storesResults_tuple hr (fun m hm => hi m (NodeKind.item_mem_parts hm))
    (fun m hm => hi m (NodeKind.rest_mem_parts hm)) hl hfit hfr

/-- A map stores its results when keys and items do: a pair is conformed to a pair. -/
theorem map (hr : r.Standard) (hu : Marker.ofDescription? description = none) {key item : Node}
    (hdk : key.document? = .ok key.document) (hdi : item.document? = .ok item.document)
    (hk : key.StoresResults r) (hi : item.StoresResults r) :
    StoresResults r ⟨.map key item, description⟩ := by
  intro v w hf hw
  obtain ⟨entries, rfl, hfit⟩ := fits_map.mp hf
  rw [result_map hfit] at hw
  cases hw
  rw [accepts_document hu (document?_map hdk hdi), Reading.accepts_ofMap hr]
  refine ⟨_, rfl, fun e hm => ?_⟩
  obtain ⟨entry, he, rfl⟩ := List.mem_map.mp hm
  obtain ⟨k, x, rfl, hfk, hfx⟩ := hfit entry he
  exact ⟨_, _, rfl, hk.getD hfk, hi.getD hfx⟩

/-- A value is conformed as by the first branch that it fits, whose document accepts it. -/
theorem union (hr : r.Standard) (hu : Marker.ofDescription? description = none)
    {branches : List Node} (hd : ∀ m ∈ branches, m.document? = .ok m.document)
    (hub : ∀ m ∈ branches, Marker.ofDescription? m.description = none)
    (hi : ∀ m ∈ branches, m.StoresResults r) : StoresResults r ⟨.union branches, description⟩ := by
  intro v w hf hw
  obtain ⟨x, rfl, -⟩ := fits_union.mp hf
  obtain ⟨b, hb, hfb, he⟩ := result_union hf
  rw [he] at hw
  rw [accepts_document hu (document?_union hd)]
  exact accepts_unionDocument_of_result hr hub hb hfb hw (hi b hb _ w hfb hw)

/-- An absent value stays absent under an optional node, so nothing is stored for it. -/
theorem optional (hu : Marker.ofDescription? description = none) {inner : Node}
    (hd : inner.document? = .ok inner.document) (hi : inner.StoresResults r) :
    StoresResults r ⟨.optional inner, description⟩ := by
  intro v w hf hw
  rw [accepts_document hu (document?_optional hd), Reading.accepts_anyOf, List.any_cons,
    Bool.or_eq_true]
  cases v with
  | none =>
    rw [result_optional_none] at hw
    cases hw
  | some x =>
    rw [result_optional_some] at hw
    have hfi : inner.Fits (some x) := (fits_optional.mp hf).resolve_left (by simp)
    exact Or.inl (hi _ w hfi hw)

/-- Null is conformed to null; any other value, present or not, as by the inner node. -/
theorem nullable (hr : r.Standard) (hu : Marker.ofDescription? description = none) {inner : Node}
    (hp : inner.Plain) (hd : inner.document? = .ok inner.document) (hi : inner.StoresResults r) :
    StoresResults r ⟨.nullable inner, description⟩ := by
  intro v w hf hw
  rw [accepts_document hu (document?_nullable hd), accepts_nullable hr hp hd, Bool.or_eq_true]
  by_cases hv : v = some .null
  · subst hv
    rw [result_nullable_null] at hw
    cases hw
    exact Or.inl rfl
  · rw [result_nullable hv] at hw
    exact Or.inr (hi _ w ((fits_nullable.mp hf).resolve_left hv) hw)

/-- A default is checked like a value that is there. -/
theorem withDefault (hu : Marker.ofDescription? description = none) {inner : Node} {value : Json}
    (hd : inner.document? = .ok inner.document) (hi : inner.StoresResults r) :
    StoresResults r ⟨.withDefault inner value, description⟩ := by
  intro v w hf hw
  rw [accepts_document hu (document?_withDefault hd)]
  rw [result_withDefault] at hw
  exact hi _ w (fits_withDefault.mp hf) hw

end StoresResults

/-! ## The law -/

/-- **What a value that fits is conformed to is accepted by the document of the node.** -/
theorem storesResults (hr : r.Standard) {n : Node} (hn : n.Throughout Storable) :
    n.StoresResults r := by
  induction n using Node.induction with
  | step n ih =>
    have hd : ∀ m ∈ n.parts, m.document? = .ok m.document := fun m hm =>
      ((hn.part hm).mono fun _ h => h.1).document?_eq
    have hi : ∀ m ∈ n.parts, m.StoresResults r := fun m hm => ih m hm (hn.part hm)
    have hdoc : n.document? = .ok n.document := (hn.mono fun _ h => h.1).document?_eq
    have hp : ∀ m ∈ n.parts, m.Plain := fun m hm => (hn.part hm).here.1
    obtain ⟨hplain, hset⟩ := hn.here
    have hu : Marker.ofDescription? n.description = none := hplain.unmarked
    obtain ⟨kind, description⟩ := n
    cases kind with
    | string checks => exact .string hr hu (hplain.isLength checks rfl)
    | object shape unknownKeys catchall => exact .object hr hu hplain.kind hd hi
    | record key item =>
      have hitem := List.mem_cons_of_mem key (List.mem_singleton_self item)
      exact .record hr hu (hd item hitem) (hi item hitem)
    | array element bounds =>
      exact .array hr hu (hd element List.mem_cons_self) (hi element List.mem_cons_self)
    | set element bounds => exact absurd ⟨element, bounds, rfl⟩ hset
    | tuple nodes rest => exact .tuple hr hu hd hi
    | map key item =>
      have hitem := List.mem_cons_of_mem key (List.mem_singleton_self item)
      exact .map hr hu (hd key List.mem_cons_self) (hd item hitem) (hi key List.mem_cons_self)
        (hi item hitem)
    | union branches => exact .union hr hu hd (fun m hm => (hp m hm).unmarked) hi
    | intersection left right => exact absurd hplain.kind id
    | optional inner =>
      exact .optional hu (hd inner List.mem_cons_self) (hi inner List.mem_cons_self)
    | nullable inner =>
      exact .nullable hr hu (hp inner List.mem_cons_self) (hd inner List.mem_cons_self)
        (hi inner List.mem_cons_self)
    | withDefault inner value =>
      exact .withDefault hu (hd inner List.mem_cons_self) (hi inner List.mem_cons_self)
    | refined inner refinement => exact absurd hplain.kind id
    | _ =>
      intro v w hf hw
      rw [result_of_keepsValue rfl hf] at hw
      cases hw
      exact (hplain.accepts_iff_fits hr rfl hdoc).mpr hf

/-- **Every value that is parsed is accepted by the document of the node.** -/
theorem accepts_of_parse (hr : r.Standard) {n : Node} (hn : n.Throughout Storable) :
    ∃ d, n.document? = .ok d ∧ ∀ v out, n.parse v = .ok out → r.accepts d out = true := by
  refine ⟨n.document, (hn.mono fun _ h => h.1).document?_eq, fun v out h => ?_⟩
  obtain ⟨hf, hw⟩ := parse_eq_ok_iff_result.mp h
  exact storesResults hr hn _ out hf hw

theorem accepts_of_parse_article : article.Throughout Storable ∧
    ∃ d, article.document? = .ok d ∧
      ∀ v out, article.parse v = .ok out → Reading.plain.accepts d out = true := by
  have h : article.Throughout Storable := by
    simp [article, ofShape, ofKind, number, arrayOf, string, Throughout.mk_iff, Storable, IsSet,
      Plain.mk_iff, Marker.ofDescription?, NodeKind.IsPlain, NodeKind.parts, StringCheck.isLength]
  exact ⟨h, accepts_of_parse Reading.plain_standard h⟩

end Node

end DocumentModel
