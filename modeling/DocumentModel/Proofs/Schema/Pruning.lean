import DocumentModel.Proofs.Json.Pruning
import DocumentModel.Proofs.Schema.Results
import DocumentModel.Proofs.Text.Trim

/-!
# What parsing leaves out

A node without defaults and without trimming makes nothing up: what it conforms a value to is the
value with fields left out (`Node.isPruned_of_parse`). Where moreover no object drops undeclared
keys nothing is left out either. Both are statements on a relation between values and results, and
for such nodes it is objects alone of which the two say different things (`Node.resultsIn`).
-/

namespace DocumentModel

/-! ## Relations -/

theorem eq_of_forall₂ {α : Type} {p : α → Prop} {l l' : List α}
    (h : List.Forall₂ (fun a b => p a → b = a) l l') (hp : ∀ a ∈ l, p a) : l' = l := by
  induction h with
  | nil => rfl
  | cons hr _ ih =>
    obtain ⟨ha, hrest⟩ := List.forall_mem_cons.mp hp
    rw [hr ha, ih hrest]

theorem Json.isPruned_congruence : Json.Congruence fun v out => out.isPruned v = true where
  refl := Json.isPruned_refl
  array h := Json.arePruned_iff.mpr h
  fields {fields outs} h := Json.fieldsPruned_iff.mpr fun g hg => by
    obtain ⟨f, hf, hk, hp⟩ := exists_of_forall₂_of_mem h hg
    exact ⟨f.2, hk ▸ hf, hp⟩
  merge {v left right} hl hr := by
    obtain ⟨fields, rfl, hleft⟩ := Json.exists_of_object_isPruned hl
    obtain ⟨_, he, hright⟩ := Json.exists_of_object_isPruned hr
    cases he
    refine Json.fieldsPruned_iff.mpr fun f hf => ?_
    rcases mem_mergeFields hf with hf | hf
    · exact hleft f hf
    · exact hright f hf

/-- A value in sorted form that is its own result. -/
theorem Json.eq_congruence : Json.Congruence fun v out => v.sorted = v → out = v where
  refl _ _ := rfl
  array h hs := by rw [eq_of_forall₂ h fun _ hv => Json.sorted_of_mem_array hs hv]
  fields {fields outs} h hs := by
    have hfields : List.Forall₂ (fun f g => f.2.sorted = f.2 → g = f) fields outs :=
      h.imp fun _ _ hfg hf => Prod.ext hfg.1.symm (hfg.2 hf)
    rw [eq_of_forall₂ hfields fun _ hf => Json.sorted_of_mem_object hs hf]
  merge {v left right} hl hr hs := by
    have hleft := hl hs
    rw [← hr hs] at hleft
    cases hleft
    rw [mergeFields_of_keys_subset fun _ hf => List.mem_map_of_mem hf, hr hs]

namespace Node

/-! ## Nodes that make nothing up -/

/-- The node has no default, and its checks do not trim. -/
def MakesNothingUp (n : Node) : Prop :=
  match n.kind with
  | .withDefault .. => False
  | .string checks => StringCheck.trim ∉ checks
  | _ => True

/-- What has to be known of an object node with regard to a relation. -/
def ObjectResultsIn (R : Json → Json → Prop) (p : Node → Prop) : Prop :=
  ∀ shape unknownKeys catchall description,
    p ⟨.object shape unknownKeys catchall, description⟩ →
    (∀ e ∈ shape, e.2.ResultsIn R ∧ (e.2.Fits none → e.2.result none = none)) →
    (∀ m ∈ catchall, m.ResultsIn R) →
    ResultsIn R ⟨.object shape unknownKeys catchall, description⟩

/-- **A congruence that holds between values and the results of objects does so for every node that
makes nothing up.** -/
theorem resultsIn {R : Json → Json → Prop} (hR : Json.Congruence R) {p : Node → Prop}
    (ho : ObjectResultsIn R p) {n : Node} (hn : n.Throughout MakesNothingUp) (hp : n.Throughout p) :
    n.ResultsIn R := by
  -- nothing is filled in
  have hchanges : Changes R (fun _ => False) fun m => MakesNothingUp m ∧ p m :=
    { string := by
        intro checks description raw h
        rw [checkString_of_not_trim h.1]
        exact hR.refl _
      filled := fun inner value description w h _ => h.1
      object := by
        intro shape unknownKeys catchall description h hs hc
        refine ho shape unknownKeys catchall description h.2 (fun e he => ?_) hc
        obtain ⟨hresults, hfills⟩ := hs e he
        exact ⟨hresults, fun hf =>
          Option.eq_none_iff_forall_ne_some.mpr fun w hw => hfills w hf hw⟩ }
  exact (resultsIn_of_changes hR hchanges (hn.and hp)).1

/-! ## Objects -/

section Objects

variable {shape : List (String × Node)} {unknownKeys : UnknownKeys} {catchall : Option Node}
  {fields : List (String × Json)}

/-- What an object is conformed to has come from its fields. -/
theorem exists_of_mem_objectResult {R : Json → Json → Prop} (hR : ∀ v, R v v)
    (hs : ∀ e ∈ shape, e.2.ResultsIn R ∧ (e.2.Fits none → e.2.result none = none))
    (hc : ∀ m ∈ catchall, m.ResultsIn R)
    (hfs : ∀ e ∈ shape, e.2.Fits (Json.findField? e.1 fields))
    (hfu : UndeclaredFit unknownKeys catchall (undeclared shape fields)) {f : String × Json}
    (hf : f ∈ declaredResult shape fields
      ++ undeclaredResult unknownKeys catchall (undeclared shape fields)) :
    ∃ v, (f.1, v) ∈ fields ∧ R v f.2 := by
  have hfills : ∀ e ∈ shape, e.2.ResultsIn R ∧ e.2.FillsIn fun _ => False := by
    intro e he
    obtain ⟨hresults, hnone⟩ := hs e he
    exact ⟨hresults, fun w hfit hw => nomatch (hnone hfit).symm.trans hw⟩
  exact (of_mem_objectResult hR hfills hc hfs hfu hf).resolve_right id

theorem objectResultsIn_isPruned :
    ObjectResultsIn (fun v out => out.isPruned v = true) fun _ => True := by
  intro shape unknownKeys catchall description _ hs hc x w hf hw
  obtain ⟨fields, he, hfs, hfu⟩ := fits_object.mp hf
  cases he
  rw [result_object] at hw
  cases hw
  exact Json.fieldsPruned_iff.mpr fun f hm =>
    exists_of_mem_objectResult Json.isPruned_refl hs hc hfs hfu (Json.mem_of_mem_sortFields hm)

/-- An object that keeps, checks or refuses the keys that it does not declare. -/
def KeepsKeys (n : Node) : Prop :=
  match n.kind with
  | .object _ unknownKeys catchall => unknownKeys ≠ .strip ∨ catchall.isSome = true
  | _ => True

/-- Where no key is dropped and every result is its value, every field is kept. -/
theorem mem_objectResult (hk : unknownKeys ≠ .strip ∨ catchall.isSome = true)
    (hs : ∀ e ∈ shape, e.2.ResultsIn fun v w => v.sorted = v → w = v)
    (hc : ∀ m ∈ catchall, m.ResultsIn fun v w => v.sorted = v → w = v)
    (hfs : ∀ e ∈ shape, e.2.Fits (Json.findField? e.1 fields))
    (hfu : UndeclaredFit unknownKeys catchall (undeclared shape fields))
    (hsorted : (Json.object fields).sorted = .object fields) {f : String × Json} (hf : f ∈ fields) :
    f ∈ declaredResult shape fields
      ++ undeclaredResult unknownKeys catchall (undeclared shape fields) := by
  have hfield : f.2.sorted = f.2 := Json.sorted_of_mem_object hsorted hf
  have hfind : Json.findField? f.1 fields = some f.2 :=
    (Json.ascending_of_sorted hsorted).findField?_of_mem hf
  -- a node that the field fits has the field itself for a result
  have hresult : ∀ m : Node, (m.ResultsIn fun v w => v.sorted = v → w = v) → m.Fits (some f.2) →
      m.result (some f.2) = some f.2 := fun m hm hfit => by
    obtain ⟨w, hw⟩ := Option.isSome_iff_exists.mp (isSome_result m hfit)
    rw [hw, hm f.2 w hfit hw hfield]
  by_cases hd : f.1 ∈ shape.map Prod.fst
  · obtain ⟨⟨key, node⟩, he, hkey⟩ := List.mem_map.mp hd
    obtain rfl : key = f.1 := hkey
    have hfit := hfs _ he
    rw [hfind] at hfit
    refine List.mem_append_left _ (List.mem_filterMap.mpr ⟨(f.1, node), he, ?_⟩)
    rw [hfind, hresult node (hs _ he) hfit]
    rfl
  · have hu : f ∈ undeclared shape fields :=
      List.mem_filter.mpr ⟨hf, Json.findField?_isNone_iff.mpr hd⟩
    refine List.mem_append_right _ ?_
    cases catchall with
    | some m =>
      refine List.mem_filterMap.mpr ⟨f, hu, ?_⟩
      rw [hresult m (hc m rfl) (hfu f hu)]
      rfl
    | none =>
      cases unknownKeys with
      | passthrough => exact hu
      | strict =>
        rw [show undeclared shape fields = [] from hfu] at hu
        cases hu
      | strip => exact absurd rfl (hk.resolve_right nofun)

theorem objectResultsIn_eq : ObjectResultsIn (fun v out => v.sorted = v → out = v) KeepsKeys := by
  intro shape unknownKeys catchall description hk hs hc x w hf hw hsorted
  obtain ⟨fields, he, hfs, hfu⟩ := fits_object.mp hf
  cases he
  rw [result_object] at hw
  cases hw
  refine congrArg Json.object (Json.sortFields_eq (Json.ascending_of_sorted hsorted) fun f =>
    ⟨fun hm => ?_, fun hm => mem_objectResult hk (fun e he => (hs e he).1) hc hfs hfu hsorted hm⟩)
  obtain ⟨v, hv, he⟩ := exists_of_mem_objectResult (fun _ _ => rfl) hs hc hfs hfu hm
  have hfield : f.2 = v := he (Json.sorted_of_mem_object hsorted hv)
  rw [← hfield] at hv
  exact hv

end Objects

/-! ## Parsing -/

/-- **Parsing only ever drops undeclared keys**, and where no object drops keys it returns the value
it is given. -/
theorem isPruned_of_parse {n : Node} (hn : n.Throughout MakesNothingUp) {v out : Json}
    (h : n.parse v = .ok out) :
    out.isPruned v = true ∧ (n.Throughout KeepsKeys → v.sorted = v → out = v) := by
  obtain ⟨hf, hw⟩ := parse_eq_ok_iff_result.mp h
  have hall : n.Throughout fun _ => True := hn.mono fun _ _ => trivial
  exact ⟨resultsIn Json.isPruned_congruence objectResultsIn_isPruned hn hall v out hf hw,
    fun hk => resultsIn Json.eq_congruence objectResultsIn_eq hn hk v out hf hw⟩

/-- Lines of an order: each has an article and perhaps a note. -/
def orderLines (unknownKeys : UnknownKeys) : Node :=
  setOf (ofKind (.intersection
    (ofKind (.object [("article", ofKind (.string [.min 2]))] unknownKeys none))
    (ofKind (.object [("article", string), ("note", ofKind (.optional string))] unknownKeys none))))

/-- One line with a note and a tag that is not declared. -/
def taggedLine : Json :=
  .array [.object [("article", .string "pen"), ("note", .string "gift"), ("tag", .bool true)]]

/-- The line without its tag. -/
def untaggedLine : Json := .array [.object [("article", .string "pen"), ("note", .string "gift")]]

theorem isPruned_of_parse_orderLines :
    (orderLines .strip).Throughout MakesNothingUp
    ∧ (orderLines .strip).parse taggedLine = .ok untaggedLine
    ∧ untaggedLine.isPruned taggedLine = true
    ∧ (orderLines .passthrough).Throughout MakesNothingUp
    ∧ (orderLines .passthrough).Throughout KeepsKeys ∧ taggedLine.sorted = taggedLine
    ∧ (∃ out, (orderLines .passthrough).parse taggedLine = .ok out)
    ∧ ∀ out, (orderLines .passthrough).parse taggedLine = .ok out → out = taggedLine := by
  have hn : ∀ unknownKeys, (orderLines unknownKeys).Throughout MakesNothingUp := by
    intro unknownKeys
    simp [orderLines, setOf, ofKind, string, Throughout.mk_iff, MakesNothingUp, NodeKind.parts]
  have hk : (orderLines .passthrough).Throughout KeepsKeys := by
    simp [orderLines, setOf, ofKind, string, Throughout.mk_iff, KeepsKeys, NodeKind.parts]
  have hstrip : (orderLines .strip).parse taggedLine = .ok untaggedLine := by
    refine parse_eq_ok_iff_result.mpr ⟨by decide +kernel, result_set.trans ?_⟩
    simp only [ofKind, results, List.map_singleton]
    rw [result_intersection_objects (by decide +kernel)]
    rfl
  have hkeep : (orderLines .passthrough).parse taggedLine = .ok taggedLine := by
    refine parse_eq_ok_iff_result.mpr ⟨by decide +kernel, result_set.trans ?_⟩
    simp only [ofKind, results, List.map_singleton]
    rw [result_intersection_objects (by decide +kernel)]
    rfl
  exact ⟨hn _, hstrip, (isPruned_of_parse (hn _) hstrip).1, hn _, hk, rfl, ⟨_, hkeep⟩,
    fun out h => (isPruned_of_parse (hn _) h).2 hk rfl⟩

end Node

end DocumentModel
