import DocumentModel.Proofs.Json.Order
import DocumentModel.Proofs.Schema.Presence

/-!
# What holds between values and results

A relation between values and what they are conformed to goes through all kinds of nodes, if it goes
through lists, objects and unions of objects, and if it is known of the nodes that change a value:
strings, which may be trimmed, defaults, and objects, which drop and sort fields
(`Node.resultsIn_of_changes`).
-/

namespace DocumentModel

/-! ## United fields -/

/-- Every united field comes from one of the sides. -/
theorem mem_mergeFields {left right : List (String × Json)} {f : String × Json}
    (h : f ∈ mergeFields left right) : f ∈ left ∨ f ∈ right := by
  unfold mergeFields at h
  induction right generalizing left with
  | nil => exact Or.inl h
  | cons g rest ih =>
    rw [List.foldl_cons] at h
    rcases ih h with h | h
    · split at h
      · exact Or.inl h
      · rcases Json.mem_insertField h with rfl | h
        · exact Or.inr List.mem_cons_self
        · exact Or.inl h
    · exact Or.inr (List.mem_cons_of_mem _ h)

/-- A side without keys of its own adds nothing. -/
theorem mergeFields_of_keys_subset {left right : List (String × Json)}
    (h : ∀ f ∈ right, f.1 ∈ left.map Prod.fst) : mergeFields left right = left := by
  unfold mergeFields
  induction right with
  | nil => rfl
  | cons g rest ih =>
    obtain ⟨hg, hrest⟩ := List.forall_mem_cons.mp h
    rw [List.foldl_cons, if_pos (Json.findField?_isSome_iff.mpr hg), ih hrest]

/-- Two results are objects that are united, or the left one stands for both. -/
theorem value_mergeResults {left right : Option Json} {path : String}
    (h : (mergeResults left right path).issues = []) :
    (∃ a b, left = some (.object a) ∧ right = some (.object b)
      ∧ (mergeResults left right path).value = some (.object (mergeFields a b)))
    ∨ (mergeResults left right path).value = left := by
  unfold mergeResults at h ⊢
  split at h
  · next a b => exact Or.inl ⟨a, b, rfl, rfl, rfl⟩
  · right
    split
    · rfl
    · next hnot => exact absurd (Outcome.issues_ite.mp h) hnot

/-- **At every key united fields hold what the left side has there, or else the right side.** -/
theorem findField?_mergeFields (left right : List (String × Json)) (key : String) :
    Json.findField? key (mergeFields left right)
      = (Json.findField? key left).or (Json.findField? key right) := by
  unfold mergeFields
  induction right generalizing left with
  | nil => simp [Json.findField?]
  | cons field rest ih =>
    obtain ⟨k, v⟩ := field
    rw [List.foldl_cons, ih, Json.findField?]
    by_cases hk : k = key
    · subst hk
      rw [if_pos rfl]
      cases hf : Json.findField? k left with
      | some w => simp [hf]
      | none => simp [Json.findField?_insertField]
    · rw [if_neg hk]
      split
      · rfl
      · rw [Json.findField?_insertField, if_neg hk]

theorem mem_keys_mergeFields {key : String} {left right : List (String × Json)} :
    key ∈ (mergeFields left right).map Prod.fst ↔
      key ∈ left.map Prod.fst ∨ key ∈ right.map Prod.fst := by
  rw [← Json.findField?_isSome_iff, ← Json.findField?_isSome_iff, ← Json.findField?_isSome_iff,
    findField?_mergeFields, Option.isSome_or, Bool.or_eq_true]

theorem ascending_mergeFields {left : List (String × Json)} (h : Json.Ascending left)
    (right : List (String × Json)) : Json.Ascending (mergeFields left right) := by
  unfold mergeFields
  induction right generalizing left with
  | nil => exact h
  | cons field rest ih =>
    rw [List.foldl_cons]
    split
    · exact ih h
    · exact ih (h.insertField field.1 field.2)

/-! ## Relations between values and results -/

theorem exists_of_forall₂_of_mem {α β : Type} {R : α → β → Prop} {l : List α} {l' : List β}
    (h : List.Forall₂ R l l') {b : β} (hb : b ∈ l') : ∃ a ∈ l, R a b := by
  induction h with
  | nil => cases hb
  | cons hr _ ih =>
    rcases List.mem_cons.mp hb with rfl | hb
    · exact ⟨_, List.mem_cons_self, hr⟩
    · obtain ⟨a, ha, hr⟩ := ih hb
      exact ⟨a, List.mem_cons_of_mem _ ha, hr⟩

/-- A relation that goes through lists, through objects with equal keys, and through the union of
two results for one value. -/
structure Json.Congruence (R : Json → Json → Prop) : Prop where
  refl (v : Json) : R v v
  array {items outs : List Json} (h : List.Forall₂ R items outs) : R (.array items) (.array outs)
  fields {fields outs : List (String × Json)}
    (h : List.Forall₂ (fun f g => f.1 = g.1 ∧ R f.2 g.2) fields outs) :
    R (.object fields) (.object outs)
  merge {v : Json} {left right : List (String × Json)} (hl : R v (.object left))
    (hr : R v (.object right)) : R v (.object (mergeFields left right))

namespace Node

/-- The results of a node are related to the values that it conforms. -/
def ResultsIn (R : Json → Json → Prop) (n : Node) : Prop :=
  ∀ x w, n.Fits (some x) → n.result (some x) = some w → R x w

variable {R : Json → Json → Prop}

theorem ResultsIn.getD {n : Node} (h : n.ResultsIn R) {x : Json} (hf : n.Fits (some x)) :
    R x ((n.result (some x)).getD .null) := by
  obtain ⟨w, hw⟩ := Option.isSome_iff_exists.mp (isSome_result n hf)
  rw [hw]
  exact h x w hf hw

/-- The elements of a list are related to their results one by one. -/
theorem ResultsIn.results {n : Node} (h : n.ResultsIn R) {items : List Json}
    (hf : ∀ x ∈ items, n.Fits (some x)) : List.Forall₂ R items (n.results items) :=
  List.forall₂_map_right_iff.mpr (List.forall₂_same.mpr fun x hx => h.getD (hf x hx))

/-- So are items to the results at their positions, followed by those of the rest. -/
theorem forall₂_resultsEach {nodes : List Node} (h : ∀ n ∈ nodes, n.ResultsIn R)
    {items : List Json} (hl : nodes.length ≤ items.length)
    (hf : ∀ e ∈ nodes.zip items, e.1.Fits (some e.2)) {others : List Json}
    (ho : List.Forall₂ R (items.drop nodes.length) others) :
    List.Forall₂ R items (resultsEach nodes items ++ others) := by
  induction nodes generalizing items with
  | nil => exact ho
  | cons n rest ih =>
    cases items with
    | nil => cases hl
    | cons item items =>
      obtain ⟨hn, hrest⟩ := List.forall_mem_cons.mp h
      obtain ⟨hfn, hfrest⟩ := List.forall_mem_cons.mp hf
      exact .cons (hn.getD hfn) (ih hrest (Nat.le_of_succ_le_succ hl) hfrest ho)

/-- Every field of a record has a result, at its key. -/
theorem forall₂_recordResult {item : Node} (h : item.ResultsIn R) {fields : List (String × Json)}
    (hf : ∀ f ∈ fields, item.Fits (some f.2)) :
    List.Forall₂ (fun f g => f.1 = g.1 ∧ R f.2 g.2) fields
      (fields.filterMap fun f => (item.result (some f.2)).map (f.1, ·)) := by
  induction fields with
  | nil => exact .nil
  | cons f rest ih =>
    obtain ⟨hff, hrest⟩ := List.forall_mem_cons.mp hf
    obtain ⟨w, hw⟩ := Option.isSome_iff_exists.mp (isSome_result item hff)
    rw [List.filterMap_cons, hw]
    exact .cons ⟨rfl, h _ w hff hw⟩ (ih hrest)

/-! ## All kinds of nodes -/

/-- What a node fills in for a value that is absent. -/
def FillsIn (A : Json → Prop) (n : Node) : Prop := ∀ w, n.Fits none → n.result none = some w → A w

/-- What has to be known of the nodes that change a value, with regard to a relation. -/
structure Changes (R : Json → Json → Prop) (A : Json → Prop) (p : Node → Prop) : Prop where
  string (checks : List StringCheck) (description : Option String) (raw : String)
    (h : p ⟨.string checks, description⟩) : R (.string raw) (.string (checkString checks raw).2)
  filled (inner : Node) (value : Json) (description : Option String) (w : Json)
    (h : p ⟨.withDefault inner value, description⟩) (hw : R value w) : A w
  object (shape : List (String × Node)) (unknownKeys : UnknownKeys) (catchall : Option Node)
    (description : Option String) (h : p ⟨.object shape unknownKeys catchall, description⟩)
    (hs : ∀ e ∈ shape, e.2.ResultsIn R ∧ e.2.FillsIn A) (hc : ∀ m ∈ catchall, m.ResultsIn R) :
    ResultsIn R ⟨.object shape unknownKeys catchall, description⟩

variable {A : Json → Prop} {p : Node → Prop}

/-- Only a default fills in anything. -/
theorem fillsIn_of_changes (hc : Changes R A p) {n : Node} (hp : p n)
    (hi : ∀ m ∈ n.parts, m.ResultsIn R) (ha : ∀ m ∈ n.parts, m.FillsIn A) : n.FillsIn A := by
  intro w hf hw
  obtain ⟨kind, description⟩ := n
  cases kind with
  | any | unknown | undefined | void | objectId | optional inner => cases hw
  | nullable inner =>
    have hne : (none : Option Json) ≠ some .null := nofun
    rw [result_nullable hne] at hw
    exact ha inner List.mem_cons_self w ((fits_nullable.mp hf).resolve_left hne) hw
  | withDefault inner value =>
    exact hc.filled inner value description w hp
      (hi inner List.mem_cons_self value w (fits_withDefault.mp hf) hw)
  -- the other kinds look for a value before anything else
  | _ => simp [Fits, check] at hf

namespace ResultsIn

variable {description : Option String}

theorem record (hR : Json.Congruence R) {key item : Node} (hi : item.ResultsIn R) :
    ResultsIn R ⟨.record key item, description⟩ := by
  intro x w hf hw
  obtain ⟨fields, he, hff⟩ := fits_record.mp hf
  cases he
  rw [result_record] at hw
  cases hw
  exact hR.fields (forall₂_recordResult hi fun f hm => (hff f hm).2)

theorem array (hR : Json.Congruence R) {element : Node} {bounds : Bounds}
    (hi : element.ResultsIn R) : ResultsIn R ⟨.array element bounds, description⟩ := by
  intro x w hf hw
  obtain ⟨items, he, -, hff⟩ := fits_array.mp hf
  cases he
  rw [result_array] at hw
  cases hw
  exact hR.array (hi.results hff)

theorem set (hR : Json.Congruence R) {element : Node} {bounds : Bounds}
    (hi : element.ResultsIn R) : ResultsIn R ⟨.set element bounds, description⟩ := by
  intro x w hf hw
  obtain ⟨items, he, -, -, hff⟩ := fits_set.mp hf
  cases he
  rw [result_set] at hw
  cases hw
  exact hR.array (hi.results hff)

/-- Without a rest no item comes after the nodes. -/
theorem tuple (hR : Json.Congruence R) {nodes : List Node} {rest : Option Node}
    (hn : ∀ m ∈ nodes, m.ResultsIn R) (hr : ∀ m ∈ rest, m.ResultsIn R) :
    ResultsIn R ⟨.tuple nodes rest, description⟩ := by
  intro x w hf hw
  obtain ⟨items, he, hl, hm, hfixed, hothers⟩ := fits_tuple.mp hf
  cases he
  rw [result_tuple hf] at hw
  cases hw
  refine hR.array (forall₂_resultsEach hn hl hfixed ?_)
  cases rest with
  | none =>
    rw [List.drop_of_length_le (hm rfl)]
    exact .nil
  | some m => exact (hr m rfl).results (hothers m rfl)

theorem map (hR : Json.Congruence R) {key item : Node} (hk : key.ResultsIn R)
    (hi : item.ResultsIn R) : ResultsIn R ⟨.map key item, description⟩ := by
  intro x w hf hw
  obtain ⟨entries, he, hff⟩ := fits_map.mp hf
  cases he
  rw [result_map hff] at hw
  cases hw
  refine hR.array (List.forall₂_map_right_iff.mpr (List.forall₂_same.mpr fun e hm => ?_))
  obtain ⟨k, v, rfl, hfk, hfv⟩ := hff e hm
  exact hR.array (.cons (hk.getD hfk) (.cons (hi.getD hfv) .nil))

/-- The result is the union of two results for one value, or the left one. -/
theorem intersection (hR : Json.Congruence R) {left right : Node} (hl : left.ResultsIn R)
    (hr : right.ResultsIn R) : ResultsIn R ⟨.intersection left right, description⟩ := by
  intro x w hf hw
  obtain ⟨_, -, hfl, hfr, hm⟩ := fits_intersection.mp hf
  rw [result_intersection hf] at hw
  rcases value_mergeResults hm with ⟨a, b, ha, hb, he⟩ | he
  · rw [he] at hw
    cases hw
    exact hR.merge (hl x _ hfl ha) (hr x _ hfr hb)
  · rw [he] at hw
    exact hl x w hfl hw

theorem nullable (hR : Json.Congruence R) {inner : Node} (hi : inner.ResultsIn R) :
    ResultsIn R ⟨.nullable inner, description⟩ := by
  intro x w hf hw
  by_cases hn : some x = some Json.null
  · cases hn
    cases hw
    exact hR.refl _
  · rw [result_nullable hn] at hw
    exact hi x w ((fits_nullable.mp hf).resolve_left hn) hw

end ResultsIn

/-- **A congruence that holds of what is changed holds between all values and results.** -/
theorem resultsIn_of_changes (hR : Json.Congruence R) (hc : Changes R A p) {n : Node}
    (hp : n.Throughout p) : n.ResultsIn R ∧ n.FillsIn A := by
  induction n using Node.induction with
  | step n ih =>
    have hi : ∀ m ∈ n.parts, m.ResultsIn R := fun m hm => (ih m hm (hp.part hm)).1
    have ha : ∀ m ∈ n.parts, m.FillsIn A := fun m hm => (ih m hm (hp.part hm)).2
    refine ⟨?present, fillsIn_of_changes hc hp.here hi ha⟩
    obtain ⟨kind, description⟩ := n
    cases kind with
    | string checks =>
      intro x w hf hw
      obtain ⟨raw, he, -⟩ := fits_string.mp hf
      cases he
      rw [result_string] at hw
      cases hw
      exact hc.string checks description raw hp.here
    | object shape unknownKeys catchall =>
      have hs : ∀ e ∈ shape, e.2.ResultsIn R ∧ e.2.FillsIn A := fun e he =>
        have hm := NodeKind.property_mem_parts he
        ⟨hi e.2 hm, ha e.2 hm⟩
      exact hc.object shape unknownKeys catchall description hp.here hs
        fun m hm => hi m (NodeKind.catchall_mem_parts hm)
    | record key item =>
      have hitem := List.mem_cons_of_mem key (List.mem_singleton_self item)
      exact .record hR (hi item hitem)
    | array element bounds => exact .array hR (hi element List.mem_cons_self)
    | set element bounds => exact .set hR (hi element List.mem_cons_self)
    | tuple nodes rest =>
      exact .tuple hR (fun m hm => hi m (NodeKind.item_mem_parts hm))
        fun m hm => hi m (NodeKind.rest_mem_parts hm)
    | map key item =>
      have hitem := List.mem_cons_of_mem key (List.mem_singleton_self item)
      exact .map hR (hi key List.mem_cons_self) (hi item hitem)
    | union branches =>
      intro x w hf hw
      obtain ⟨b, hb, hfb, he⟩ := result_union hf
      exact hi b hb x w hfb (he ▸ hw)
    | intersection left right =>
      have hright := List.mem_cons_of_mem left (List.mem_singleton_self right)
      exact .intersection hR (hi left List.mem_cons_self) (hi right hright)
    | optional inner =>
      intro x w hf hw
      exact hi inner List.mem_cons_self x w ((fits_optional.mp hf).resolve_left nofun) hw
    | nullable inner => exact .nullable hR (hi inner List.mem_cons_self)
    | withDefault inner value =>
      exact fun x w hf hw => hi inner List.mem_cons_self x w (fits_withDefault.mp hf) hw
    | refined inner refinement =>
      intro x w hf hw
      obtain ⟨_, -, hfi, -⟩ := fits_refined.mp hf
      rw [result_refined] at hw
      exact hi inner List.mem_cons_self x w hfi hw
    | _ =>
      intro x w hf hw
      rw [result_of_keepsValue rfl hf] at hw
      cases hw
      exact hR.refl _

/-! ## Objects -/

/-- **What an object is conformed to comes from its fields, or was filled in.** -/
theorem of_mem_objectResult (hR : ∀ v, R v v) {shape : List (String × Node)}
    {unknownKeys : UnknownKeys} {catchall : Option Node} {fields : List (String × Json)}
    (hs : ∀ e ∈ shape, e.2.ResultsIn R ∧ e.2.FillsIn A) (hc : ∀ m ∈ catchall, m.ResultsIn R)
    (hfs : ∀ e ∈ shape, e.2.Fits (Json.findField? e.1 fields))
    (hfu : UndeclaredFit unknownKeys catchall (undeclared shape fields)) {f : String × Json}
    (hf : f ∈ declaredResult shape fields
      ++ undeclaredResult unknownKeys catchall (undeclared shape fields)) :
    (∃ v, (f.1, v) ∈ fields ∧ R v f.2) ∨ A f.2 := by
  rcases List.mem_append.mp hf with hf | hf
  · obtain ⟨⟨key, node⟩, he, hr⟩ := List.mem_filterMap.mp hf
    obtain ⟨w, hw, rfl⟩ := Option.map_eq_some_iff.mp hr
    obtain ⟨hnode, hfills⟩ := hs _ he
    have hfit := hfs _ he
    cases hv : Json.findField? key fields with
    | none =>
      rw [hv] at hfit hw
      exact Or.inr (hfills w hfit hw)
    | some v =>
      rw [hv] at hfit hw
      exact Or.inl ⟨v, Json.mem_of_findField? hv, hnode v w hfit hw⟩
  · left
    cases catchall with
    | some m =>
      obtain ⟨g, hg, hr⟩ := List.mem_filterMap.mp hf
      obtain ⟨w, hw, rfl⟩ := Option.map_eq_some_iff.mp hr
      exact ⟨g.2, (List.mem_filter.mp hg).1, hc m rfl g.2 w (hfu g hg) hw⟩
    | none =>
      cases unknownKeys with
      | passthrough => exact ⟨f.2, (List.mem_filter.mp hf).1, hR f.2⟩
      | strip | strict => cases hf

end Node

end DocumentModel
