import DocumentModel.Proofs.Json.Order
import DocumentModel.Proofs.Schema.Presence
import DocumentModel.Proofs.Text.Trim

/-!
# Parsing what has been parsed

The second time a value is parsed, defaults are there, undeclared keys are gone and strings are
trimmed. Nodes without alternatives, sets and refinements parse their own results to themselves
(`Node.parse_of_parse`), where strings are trimmed before they are checked. A value is settled at a
node when it fits and is its own result. `Node.settledAt_…` says for each kind with parts that a
value whose parts are settled is so itself, and the lemmas after it that results have settled parts.
-/

namespace DocumentModel

namespace Node

/-- A value, or its absence, that fits a node and is its own result. -/
def SettledAt (n : Node) (v : Option Json) : Prop := n.Fits v ∧ n.result v = v

/-- Whatever a node makes of a value that fits is settled. -/
def Settles (n : Node) : Prop := ∀ v, n.Fits v → n.SettledAt (n.result v)

variable {n : Node} {v : Option Json} {x : Json}

/-- A value that fits has a result, and the result is settled. -/
theorem Settles.exists_result (h : n.Settles) (hf : n.Fits (some x)) :
    ∃ w, n.result (some x) = some w ∧ n.SettledAt (some w) := by
  obtain ⟨w, hw⟩ := Option.isSome_iff_exists.mp (isSome_result n hf)
  have hs := h (some x) hf
  rw [hw] at hs
  exact ⟨w, hw, hs⟩

theorem Settles.getD (h : n.Settles) (hf : n.Fits (some x)) :
    n.SettledAt (some ((n.result (some x)).getD .null)) := by
  obtain ⟨w, hw, hs⟩ := h.exists_result hf
  rw [hw]
  exact hs

/-! ## Wrappers -/

variable {description : Option String} {inner : Node}

/-- What is settled at the inner node is settled at the optional one. -/
theorem settledAt_optional (h : inner.SettledAt (some x)) :
    SettledAt ⟨.optional inner, description⟩ (some x) :=
  ⟨fits_optional.mpr (Or.inr h.1), h.2⟩

theorem settledAt_withDefault {value : Json} (h : inner.SettledAt (some x)) :
    SettledAt ⟨.withDefault inner value, description⟩ (some x) := h

/-- Null is settled at a nullable node, and so is what is settled at the inner node. -/
theorem settledAt_nullable (h : v ≠ some .null → inner.SettledAt v) :
    SettledAt ⟨.nullable inner, description⟩ v := by
  by_cases hn : v = some .null
  · subst hn
    exact ⟨fits_nullable.mpr (Or.inl rfl), result_nullable_null⟩
  · refine ⟨fits_nullable.mpr (Or.inr (h hn).1), ?_⟩
    rw [result_nullable hn]
    exact (h hn).2

/-! ## Lists -/

variable {element key item : Node} {bounds : Bounds} {items : List Json} {nodes : List Node}
  {rest : Option Node}

/-- Settled elements are their own results. -/
theorem results_of_settledAt (h : ∀ w ∈ items, n.SettledAt (some w)) : n.results items = items := by
  refine (List.map_congr_left fun w hw => ?_).trans (List.map_id items)
  rw [(h w hw).2]
  rfl

/-- A list of settled elements is settled, if it has as many as it may. -/
theorem settledAt_array (hb : bounds.faults items.length = [])
    (h : ∀ w ∈ items, element.SettledAt (some w)) :
    SettledAt ⟨.array element bounds, description⟩ (some (.array items)) := by
  refine ⟨fits_array.mpr ⟨items, rfl, hb, fun w hw => (h w hw).1⟩, ?_⟩
  rw [result_array, results_of_settledAt h]

/-- The results of elements are settled elements. -/
theorem Settles.results (h : n.Settles) (hf : ∀ w ∈ items, n.Fits (some w)) :
    ∀ w ∈ n.results items, n.SettledAt (some w) :=
  List.forall_mem_map.mpr fun w hw => h.getD (hf w hw)

/-- Settled items are their own results, as far as there are nodes. -/
theorem resultsEach_of_settledAt (h : ∀ e ∈ nodes.zip items, e.1.SettledAt (some e.2)) :
    resultsEach nodes items = items.take nodes.length := by
  induction nodes generalizing items with
  | nil => rfl
  | cons m rest ih =>
    cases items with
    | nil => rfl
    | cons first items =>
      obtain ⟨hm, hrest⟩ := List.forall_mem_cons.mp h
      rw [List.length_cons, List.take_succ_cons, ← ih hrest, resultsEach, List.zip_cons_cons,
        List.map_cons, hm.2]
      rfl

/-- A list of settled items is settled at a tuple that it is long enough for. -/
theorem settledAt_tuple (hl : nodes.length ≤ items.length)
    (hm : rest = none → items.length ≤ nodes.length)
    (h : ∀ e ∈ nodes.zip items, e.1.SettledAt (some e.2))
    (hr : ∀ m ∈ rest, ∀ w ∈ items.drop nodes.length, m.SettledAt (some w)) :
    SettledAt ⟨.tuple nodes rest, description⟩ (some (.array items)) := by
  have hf : Fits ⟨.tuple nodes rest, description⟩ (some (.array items)) :=
    fits_tuple.mpr ⟨items, rfl, hl, hm, fun e he => (h e he).1, fun m hm w hw => (hr m hm w hw).1⟩
  have hothers : (rest.map fun m => m.results (items.drop nodes.length)).getD []
      = items.drop nodes.length := by
    cases rest with
    | none => exact (List.drop_of_length_le (hm rfl)).symm
    | some m => exact results_of_settledAt (hr m rfl)
  refine ⟨hf, ?_⟩
  rw [result_tuple hf, hothers, resultsEach_of_settledAt h, List.take_append_drop]

theorem length_resultsEach (hl : nodes.length ≤ items.length) :
    (resultsEach nodes items).length = nodes.length := by
  rw [resultsEach, List.length_map, List.length_zip, Nat.min_eq_left hl]

/-- The results of items are settled at the nodes of the items, whatever follows them. -/
theorem settledAt_resultsEach (h : ∀ m ∈ nodes, m.Settles) (hl : nodes.length ≤ items.length)
    (hf : ∀ e ∈ nodes.zip items, e.1.Fits (some e.2)) (others : List Json) :
    ∀ e ∈ nodes.zip (resultsEach nodes items ++ others), e.1.SettledAt (some e.2) := by
  induction nodes generalizing items with
  | nil => exact fun e he => absurd he List.not_mem_nil
  | cons m rest ih =>
    cases items with
    | nil => cases hl
    | cons first items =>
      obtain ⟨hm, hrest⟩ := List.forall_mem_cons.mp h
      obtain ⟨hff, hfrest⟩ := List.forall_mem_cons.mp hf
      exact List.forall_mem_cons.mpr
        ⟨hm.getD hff, ih hrest (Nat.le_of_succ_le_succ hl) hfrest⟩

/-- A pair whose parts are settled. -/
def PairSettled (key item : Node) (entry : Json) : Prop :=
  ∃ k w, entry = .array [k, w] ∧ key.SettledAt (some k) ∧ item.SettledAt (some w)

theorem PairSettled.fits {entry : Json} (h : PairSettled key item entry) :
    PairFits key item entry := by
  obtain ⟨k, w, he, hk, hw⟩ := h
  exact ⟨k, w, he, hk.1, hw.1⟩

/-- A settled pair is its own result. -/
theorem pairResult_of_pairSettled {entry : Json} (h : PairSettled key item entry) :
    pairResult key item entry = entry := by
  obtain ⟨k, w, rfl, hk, hw⟩ := h
  rw [pairResult, hk.2, hw.2]
  rfl

/-- A list of settled pairs is settled at a map. -/
theorem settledAt_map (h : ∀ e ∈ items, PairSettled key item e) :
    SettledAt ⟨.map key item, description⟩ (some (.array items)) := by
  have hf : ∀ e ∈ items, PairFits key item e := fun e he => (h e he).fits
  refine ⟨fits_map.mpr ⟨items, rfl, hf⟩, ?_⟩
  rw [result_map hf]
  refine congrArg (fun entries => some (Json.array entries)) ?_
  exact (List.map_congr_left fun e he => pairResult_of_pairSettled (h e he)).trans (List.map_id _)

/-- The result of a pair is a settled pair. -/
theorem pairSettled_pairResult (hk : key.Settles) (hi : item.Settles) {entry : Json}
    (h : PairFits key item entry) : PairSettled key item (pairResult key item entry) := by
  obtain ⟨k, w, rfl, hfk, hfw⟩ := h
  exact ⟨_, _, rfl, hk.getD hfk, hi.getD hfw⟩

/-! ## Records -/

variable {fields : List (String × Json)}

/-- The results of the fields that a node makes are settled at it. -/
theorem settledAt_of_mem_filterMap (h : n.Settles) (hf : ∀ f ∈ fields, n.Fits (some f.2))
    {g : String × Json} (hg : g ∈ fields.filterMap fun f => (n.result (some f.2)).map (f.1, ·)) :
    n.SettledAt (some g.2) := by
  obtain ⟨f, hff, hr⟩ := List.mem_filterMap.mp hg
  obtain ⟨w, hw, rfl⟩ := Option.map_eq_some_iff.mp hr
  have hs := h (some f.2) (hf f hff)
  rwa [hw] at hs

/-- An object with settled values is settled at a record that takes its keys. -/
theorem settledAt_record
    (h : ∀ f ∈ fields, key.Fits (some (.string f.1)) ∧ item.SettledAt (some f.2)) :
    SettledAt ⟨.record key item, description⟩ (some (.object fields)) := by
  refine ⟨fits_record.mpr ⟨fields, rfl, fun f hf => ⟨(h f hf).1, (h f hf).2.1⟩⟩, ?_⟩
  rw [result_record]
  refine congrArg (fun fields => some (Json.object fields)) ?_
  refine (List.filterMap_congr fun f hf => ?_).trans List.filterMap_some
  rw [(h f hf).2.2]
  rfl

/-! ## Objects -/

variable {shape : List (String × Node)} {unknownKeys : UnknownKeys} {catchall : Option Node}

/-- A field without a declaration that an object takes as it is. -/
def UndeclaredSettled (unknownKeys : UnknownKeys) : Option Node → String × Json → Prop
  | some m, f => m.SettledAt (some f.2)
  | none, _ => unknownKeys = .passthrough

/-- Settled fields without a declaration fit. -/
theorem undeclaredFit_of_settled {others : List (String × Json)}
    (h : ∀ f ∈ others, UndeclaredSettled unknownKeys catchall f) :
    UndeclaredFit unknownKeys catchall others := by
  cases catchall with
  | some m => exact fun f hf => (h f hf).1
  | none =>
    cases unknownKeys with
    | strip | passthrough => trivial
    | strict => exact List.eq_nil_iff_forall_not_mem.mpr fun f hf => nomatch h f hf

/-- They are all kept, each with its value. -/
theorem undeclaredResult_of_settled {others : List (String × Json)}
    (h : ∀ f ∈ others, UndeclaredSettled unknownKeys catchall f) :
    undeclaredResult unknownKeys catchall others = others := by
  cases catchall with
  | some m =>
    refine (List.filterMap_congr fun f hf => ?_).trans List.filterMap_some
    rw [(h f hf).2]
    rfl
  | none =>
    cases unknownKeys with
    | passthrough => rfl
    | strip | strict =>
      exact (List.eq_nil_iff_forall_not_mem.mpr fun f hf => nomatch h f hf).symm

/-- **An object is settled when its fields are in order, its declared keys are settled and its other
fields are kept as they are.** -/
theorem settledAt_object (ha : Json.Ascending fields)
    (h : ∀ p ∈ shape, p.2.SettledAt (Json.findField? p.1 fields))
    (hu : ∀ f ∈ undeclared shape fields, UndeclaredSettled unknownKeys catchall f) :
    SettledAt ⟨.object shape unknownKeys catchall, description⟩ (some (.object fields)) := by
  refine ⟨fits_object.mpr ⟨fields, rfl, fun p hp => (h p hp).1, undeclaredFit_of_settled hu⟩, ?_⟩
  rw [result_object, undeclaredResult_of_settled hu]
  refine congrArg (fun fields => some (Json.object fields)) (Json.sortFields_eq ha fun f => ?_)
  have hd : f ∈ declaredResult shape fields ↔ f ∈ fields ∧ f.1 ∈ shape.map Prod.fst := by
    constructor
    · intro hf
      obtain ⟨⟨key, node⟩, hp, hr⟩ := List.mem_filterMap.mp hf
      obtain ⟨w, hw, rfl⟩ := Option.map_eq_some_iff.mp hr
      rw [(h _ hp).2] at hw
      exact ⟨Json.mem_of_findField? hw, List.mem_map_of_mem hp⟩
    · rintro ⟨hf, hk⟩
      obtain ⟨⟨key, node⟩, hp, hkey⟩ := List.mem_map.mp hk
      obtain rfl : key = f.1 := hkey
      refine List.mem_filterMap.mpr ⟨(f.1, node), hp, ?_⟩
      rw [(h _ hp).2, ha.findField?_of_mem hf]
      rfl
  rw [List.mem_append, hd, undeclared, List.mem_filter, Json.findField?_isNone_iff]
  tauto

/-- What is kept of the fields without a declaration is settled. -/
theorem undeclaredSettled_of_mem_undeclaredResult (hc : ∀ m ∈ catchall, m.Settles)
    {others : List (String × Json)} (hf : UndeclaredFit unknownKeys catchall others)
    {g : String × Json} (hg : g ∈ undeclaredResult unknownKeys catchall others) :
    UndeclaredSettled unknownKeys catchall g := by
  cases catchall with
  | some m => exact settledAt_of_mem_filterMap (hc m rfl) hf hg
  | none =>
    cases unknownKeys with
    | passthrough => rfl
    | strip | strict => cases hg

/-- A conformed object is settled, since no key of it is declared twice. -/
theorem settledAt_objectResult (hnd : (shape.map Prod.fst).Nodup)
    (hs : ∀ p ∈ shape, p.2.Settles) (hc : ∀ m ∈ catchall, m.Settles)
    (hf : ∀ p ∈ shape, p.2.Fits (Json.findField? p.1 fields))
    (hu : UndeclaredFit unknownKeys catchall (undeclared shape fields)) :
    SettledAt ⟨.object shape unknownKeys catchall, description⟩
      (some (.object (objectResult shape unknownKeys catchall fields))) := by
  refine settledAt_object (Json.ascending_sortFields _) (fun p hp => ?_) fun g hg => ?_
  · rw [findField?_objectResult hnd hp]
    exact hs p hp _ (hf p hp)
  · have hk : g.1 ∉ shape.map Prod.fst := not_declared_of_mem_undeclared hg
    exact undeclaredSettled_of_mem_undeclaredResult hc hu
      (mem_undeclaredResult_of_mem_objectResult (List.mem_filter.mp hg).1 hk)

/-! ## All kinds of nodes -/

/-- The node neither has alternatives nor is it a set or a refinement, strings are trimmed before
they are checked, and every property of an object is declared once. -/
def Stable (n : Node) : Prop :=
  match n.kind with
  | .union _ | .intersection .. | .refined .. | .set .. => False
  | .string checks => StringCheck.TrimFirst checks
  | .object shape _ _ => (shape.map Prod.fst).Nodup
  | _ => True

namespace Settles

/-- Trimmed strings stay as they are, and meet the checks that were made on them. -/
theorem string {checks : List StringCheck} (hfirst : StringCheck.TrimFirst checks) :
    Settles ⟨.string checks, description⟩ := by
  intro v hf
  obtain ⟨raw, rfl, hc⟩ := fits_string.mp hf
  have hagain := checkString_checkString hfirst raw
  rw [result_string]
  refine ⟨fits_string.mpr ⟨_, rfl, ?_⟩, ?_⟩
  · rw [hagain, hc]
  · rw [result_string, hagain]

/-- The keys of a record are left as they are. -/
theorem record (hi : item.Settles) : Settles ⟨.record key item, description⟩ := by
  intro v hf
  obtain ⟨fields, rfl, hff⟩ := fits_record.mp hf
  have hfi : ∀ f ∈ fields, item.Fits (some f.2) := fun f hm => (hff f hm).2
  rw [result_record]
  refine settledAt_record fun g hg => ⟨?_, settledAt_of_mem_filterMap hi hfi hg⟩
  obtain ⟨f, hm, hr⟩ := List.mem_filterMap.mp hg
  obtain ⟨w, -, rfl⟩ := Option.map_eq_some_iff.mp hr
  exact (hff f hm).1

theorem array (hi : element.Settles) : Settles ⟨.array element bounds, description⟩ := by
  intro v hf
  obtain ⟨items, rfl, hb, hff⟩ := fits_array.mp hf
  rw [result_array]
  refine settledAt_array ?_ (hi.results hff)
  rwa [Node.results, List.length_map]

/-- The results of the items stand where the items stood. -/
theorem tuple (hn : ∀ m ∈ nodes, m.Settles) (hr : ∀ m ∈ rest, m.Settles) :
    Settles ⟨.tuple nodes rest, description⟩ := by
  intro v hf
  obtain ⟨items, rfl, hl, hm, hfixed, hothers⟩ := fits_tuple.mp hf
  have hlen : (resultsEach nodes items).length = nodes.length := length_resultsEach hl
  rw [result_tuple hf]
  refine settledAt_tuple ?_ ?_ (settledAt_resultsEach hn hl hfixed _) ?_
  · rw [List.length_append, hlen]
    exact Nat.le_add_right _ _
  · rintro rfl
    simp [hlen]
  · rintro m rfl
    rw [List.drop_left' hlen]
    exact (hr m rfl).results (hothers m rfl)

theorem map (hk : key.Settles) (hi : item.Settles) : Settles ⟨.map key item, description⟩ := by
  intro v hf
  obtain ⟨entries, rfl, hff⟩ := fits_map.mp hf
  rw [result_map hff]
  exact settledAt_map (List.forall_mem_map.mpr fun e he => pairSettled_pairResult hk hi (hff e he))

theorem optional (hi : inner.Settles) : Settles ⟨.optional inner, description⟩ := by
  intro v hf
  cases v with
  | none => exact ⟨hf, rfl⟩
  | some x =>
    have hfi : inner.Fits (some x) := (fits_optional.mp hf).resolve_left nofun
    obtain ⟨w, hw, hs⟩ := hi.exists_result hfi
    rw [result_optional_some, hw]
    exact settledAt_optional hs

/-- The result of the inner node may be null where the value was not. -/
theorem nullable (hi : inner.Settles) : Settles ⟨.nullable inner, description⟩ := by
  intro v hf
  by_cases hv : v = some .null
  · subst hv
    exact ⟨hf, rfl⟩
  · rw [result_nullable hv]
    exact settledAt_nullable fun _ => hi v ((fits_nullable.mp hf).resolve_left hv)

/-- What is filled in for an absent value is there the next time. -/
theorem withDefault {value : Json} (hi : inner.Settles) :
    Settles ⟨.withDefault inner value, description⟩ := by
  intro v hf
  obtain ⟨w, hw, hs⟩ := hi.exists_result (fits_withDefault.mp hf)
  rw [result_withDefault, hw]
  exact settledAt_withDefault hs

end Settles

/-- **A stable node leaves its results as they are.** -/
theorem settles_of_stable (hn : n.Throughout Stable) : n.Settles := by
  induction n using Node.induction with
  | step n ih =>
    have hi : ∀ m ∈ n.parts, m.Settles := fun m hm => ih m hm (hn.part hm)
    have hstable := hn.here
    obtain ⟨kind, description⟩ := n
    cases kind with
    | union | intersection | refined | set => exact absurd hstable id
    | string checks => exact .string hstable
    | object shape unknownKeys catchall =>
      intro v hf
      obtain ⟨fields, rfl, hs, hu⟩ := fits_object.mp hf
      rw [result_object]
      exact settledAt_objectResult hstable (fun p hp => hi p.2 (NodeKind.property_mem_parts hp))
        (fun m hm => hi m (NodeKind.catchall_mem_parts hm)) hs hu
    | record key item =>
      exact .record (hi item (List.mem_cons_of_mem key (List.mem_singleton_self item)))
    | array element bounds => exact .array (hi element List.mem_cons_self)
    | tuple nodes rest =>
      exact .tuple (fun m hm => hi m (NodeKind.item_mem_parts hm))
        (fun m hm => hi m (NodeKind.rest_mem_parts hm))
    | map key item =>
      have hitem := List.mem_cons_of_mem key (List.mem_singleton_self item)
      exact .map (hi key List.mem_cons_self) (hi item hitem)
    | optional inner => exact .optional (hi inner List.mem_cons_self)
    | nullable inner => exact .nullable (hi inner List.mem_cons_self)
    | withDefault inner value => exact .withDefault (hi inner List.mem_cons_self)
    | _ =>
      intro v hf
      rw [result_of_keepsValue rfl hf]
      exact ⟨hf, result_of_keepsValue rfl hf⟩

/-! ## Parsing -/

/-- **Parsing is idempotent**: a stable node parses what it has parsed a value to, to itself. -/
theorem parse_of_parse (hn : n.Throughout Stable) {v out : Json} (h : n.parse v = .ok out) :
    n.parse out = .ok out := by
  obtain ⟨hf, hw⟩ := parse_eq_ok_iff_result.mp h
  have hs : n.SettledAt (n.result (some v)) := settles_of_stable hn (some v) hf
  rw [hw] at hs
  exact parse_eq_ok_iff_result.mpr hs

/-- A shipment: where it goes, in which boxes, and whether it is urgent; the rest are remarks. -/
def shipment : Node :=
  ofKind (.object
    [("to", ofKind (.string [.trim, .min 2])), ("boxes", ofKind (.tuple [string] (some string))),
      ("urgent", ofKind (.withDefault (ofKind .boolean) (.bool false)))]
    .strip (some (ofKind (.nullable (ofKind (.string [.trim]))))))

/-- A shipment as it is entered. -/
def enteredShipment : Json :=
  .object [("boxes", .array [.string "A1", .string "B2"]), ("note", .string " fragile"),
    ("to", .string " Oslo ")]

/-- The shipment with trimmed strings and what was left open. -/
def parsedShipment : Json :=
  .object [("boxes", .array [.string "A1", .string "B2"]), ("note", .string "fragile"),
    ("to", .string "Oslo"), ("urgent", .bool false)]

theorem parse_of_parse_shipment :
    shipment.Throughout Stable ∧ shipment.parse enteredShipment = .ok parsedShipment
    ∧ shipment.parse parsedShipment = .ok parsedShipment := by
  have hn : shipment.Throughout Stable := by
    simp [shipment, ofKind, string, Throughout.mk_iff, Stable, NodeKind.parts,
      StringCheck.TrimFirst]
  have hboxes : (ofKind (.tuple [string] (some string))).result
      (some (.array [.string "A1", .string "B2"])) = some (.array [.string "A1", .string "B2"]) :=
    (result_tuple (by decide +kernel)).trans rfl
  have hp : shipment.parse enteredShipment = .ok parsedShipment := by
    refine parse_eq_ok_iff_result.mpr ⟨by decide +kernel, result_object.trans ?_⟩
    simp only [declaredResult, Json.findField?, List.filterMap, String.reduceEq, if_true, if_false,
      hboxes]
    rfl
  exact ⟨hn, hp, parse_of_parse hn hp⟩

end Node

end DocumentModel
