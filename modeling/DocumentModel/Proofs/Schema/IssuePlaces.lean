import DocumentModel.Proofs.Json.Places
import DocumentModel.Proofs.Schema.Checking

/-!
# Places of issues

A check is given the path of a value, and passes longer paths on to the checks of its parts. So the
field of an issue is the path of a place in the value, and it is the place of a missing key exactly
if the issue says that something is required (`Node.issue_places`). What carries the induction is
`Issue.At`, which also speaks of an absent value: that one can only be required, at its own path.
-/

namespace DocumentModel

/-! ## One issue -/

/-- No other fault says that something is required. -/
theorem Fault.code_eq_required_iff {fault : Fault} : fault.code = Fault.required.code ↔
    fault = .required := by
  constructor
  · intro h
    cases fault <;> simp [Fault.code] at h ⊢
  · rintro rfl
    rfl

namespace Issue

/-- The issue is about a place of a value that has a path. The place is there, or it is lacking and
required. -/
def Inside (i : Issue) (path : String) (v : Json) : Prop :=
  ∃ segments, i.field = Json.pathTo path segments
    ∧ ((∃ w, v.at? segments = some w) ∧ i.code ≠ Fault.required.code
      ∨ v.Lacks segments ∧ i.code = Fault.required.code)

/-- The issue is about a value, or says that it is required if it is absent. -/
def At (i : Issue) (path : String) : Option Json → Prop
  | none => i.field = path ∧ i.code = Fault.required.code
  | some v => i.Inside path v

variable {i : Issue} {path : String} {v w : Json}

/-- A fault of a value that is there is about the value itself. -/
theorem at_fault {fault : Fault} (h : fault ≠ .required) : (fault.issue path).At path (some v) :=
  ⟨[], rfl, Or.inl ⟨⟨v, rfl⟩, fun hc => h (Fault.code_eq_required_iff.mp hc)⟩⟩

/-- An issue of a part is one of the whole. -/
theorem Inside.child (segment : Json.Segment) (hw : v.child? segment = some w)
    (h : i.Inside (joinPath path segment.text) w) : i.Inside path v := by
  obtain ⟨segments, hfield, ⟨⟨x, hx⟩, hcode⟩ | ⟨hlacks, hcode⟩⟩ := h
  · exact ⟨segment :: segments, hfield, Or.inl ⟨⟨x, (Json.at?_cons hw).trans hx⟩, hcode⟩⟩
  · exact ⟨segment :: segments, hfield, Or.inr ⟨hlacks.cons hw, hcode⟩⟩

/-- An issue of a property is one of the object, whether the object has the property or not. -/
theorem At.key (name : String) {fields : List (String × Json)}
    (h : i.At (joinPath path name) (Json.findField? name fields)) :
    i.At path (some (.object fields)) := by
  cases hname : Json.findField? name fields with
  | none =>
    rw [hname] at h
    exact ⟨[.key name], h.1, Or.inr ⟨Json.lacks_key hname, h.2⟩⟩
  | some w =>
    rw [hname] at h
    exact Inside.child (.key name) hname h

/-- An issue of an element is one of the list. -/
theorem At.index (position : Nat) {items : List Json} (hw : items[position]? = some w)
    (h : i.At (joinPath path (toString position)) (some w)) : i.At path (some (.array items)) :=
  Inside.child (.index position) hw h

/-- Issues of a string are about nothing else, so they are also issues of a value at its place. -/
theorem At.of_string {s : String} (h : i.At path (some (.string s))) (v : Json) :
    i.At path (some v) := by
  obtain ⟨segments, hfield, hplace⟩ := h
  obtain rfl := Json.string_place (hplace.imp And.left And.left)
  rcases hplace with ⟨-, hcode⟩ | ⟨⟨before, name, fields, hnil, -⟩, -⟩
  · exact ⟨[], hfield, Or.inl ⟨⟨v, rfl⟩, hcode⟩⟩
  · exact absurd hnil.symm (List.append_ne_nil_of_right_ne_nil before (List.cons_ne_nil _ _))

end Issue

/-! ## Outcomes -/

namespace Outcome

/-- All issues are about one value, or its absence. -/
def At (o : Outcome) (path : String) (v : Option Json) : Prop := ∀ i ∈ o.issues, i.At path v

variable {o o' : Outcome} {path : String} {v : Option Json} {x : Json} {fault : Fault}

theorem at_keep {out : Option Json} : (keep out).At path v := nofun

theorem at_fail (h : fault ≠ .required) : (fail fault path).At path (some x) := by
  intro i hi
  rw [List.mem_singleton.mp hi]
  exact Issue.at_fault h

theorem at_faults {faults : List Fault} (h : ∀ fault ∈ faults, fault ≠ .required)
    {out : Option Json} : At ⟨faults.map (·.issue path), out⟩ path (some x) := by
  intro i hi
  obtain ⟨fault, hf, rfl⟩ := List.mem_map.mp hi
  exact Issue.at_fault (h fault hf)

/-- A check of a value that must be there says of an absent one that it is required. -/
theorem at_present {f : Json → Outcome} (h : ∀ x, v = some x → (f x).At path (some x)) :
    (present v path f).At path v := by
  cases v with
  | none =>
    intro i hi
    rw [List.mem_singleton.mp hi]
    exact ⟨rfl, rfl⟩
  | some x => exact h x rfl

theorem at_ite {c : Prop} [Decidable c] (h : o.At path v) (h' : o'.At path v) :
    (if c then o else o').At path v := by
  split
  · exact h
  · exact h'

theorem at_keep_or_fail {c : Prop} [Decidable c] {out : Option Json} (h : fault ≠ .required) :
    (if c then keep out else fail fault path).At path (some x) :=
  at_ite at_keep (at_fail h)

end Outcome

/-! ## Parts of lists and objects -/

section

variable {i : Issue} {path : String} {index : Nat} {items : List Json}
  {fields : List (String × Json)}

/-- An issue of a list is one of an element, at the path of its position. -/
theorem exists_of_mem_checkElements {check : Json → String → Outcome}
    (h : i ∈ (checkElements check path index items).1) : ∃ k x, items[k]? = some x
      ∧ i ∈ (check x (joinPath path (toString (index + k)))).issues := by
  induction items generalizing index with
  | nil => cases h
  | cons item rest ih =>
    rw [checkElements] at h
    rcases List.mem_append.mp h with h | h
    · exact ⟨0, item, rfl, h⟩
    · obtain ⟨k, x, hx, hi⟩ := ih h
      exact ⟨k + 1, x, hx, by rwa [Nat.add_right_comm] at hi⟩

theorem exists_of_mem_checkPairs {check : Json → String → Outcome}
    (h : i ∈ (checkPairs check path index items).1) : ∃ k x, items[k]? = some x
      ∧ i ∈ (check x (joinPath path (toString (index + k)))).issues := by
  induction items generalizing index with
  | nil => cases h
  | cons item rest ih =>
    rw [checkPairs] at h
    rcases List.mem_append.mp h with h | h
    · exact ⟨0, item, rfl, h⟩
    · obtain ⟨k, x, hx, hi⟩ := ih h
      exact ⟨k + 1, x, hx, by rwa [Nat.add_right_comm] at hi⟩

/-- An issue of a record is one of a field, at the path of its key. -/
theorem exists_of_mem_checkFields {check : String → Json → String → Outcome}
    (h : i ∈ (checkFields check path fields).1) :
    ∃ f ∈ fields, i ∈ (check f.1 f.2 (joinPath path f.1)).issues := by
  induction fields with
  | nil => cases h
  | cons field rest ih =>
    rw [checkFields] at h
    rcases List.mem_append.mp h with h | h
    · exact ⟨field, List.mem_cons_self, h⟩
    · obtain ⟨f, hf, hi⟩ := ih h
      exact ⟨f, List.mem_cons_of_mem _ hf, hi⟩

/-- An issue of the declared keys is one of a key, whose value may be absent. -/
theorem exists_of_mem_checkShape {shape : List (String × Node)}
    (h : i ∈ (Node.checkShape shape fields path).1) : ∃ p ∈ shape,
      i ∈ (p.2.check (Json.findField? p.1 fields) (joinPath path p.1)).issues := by
  induction shape with
  | nil => cases h
  | cons property rest ih =>
    rw [Node.checkShape] at h
    rcases List.mem_append.mp h with h | h
    · exact ⟨property, List.mem_cons_self, h⟩
    · obtain ⟨p, hp, hi⟩ := ih h
      exact ⟨p, List.mem_cons_of_mem _ hp, hi⟩

theorem exists_of_mem_checkPositions {nodes : List Node}
    (h : i ∈ (Node.checkPositions nodes items path index).1) : ∃ k, ∃ n ∈ nodes, ∃ x,
      items[k]? = some x
        ∧ i ∈ (n.check (some x) (joinPath path (toString (index + k)))).issues := by
  induction nodes generalizing items index with
  | nil =>
    rw [Node.checkPositions.eq_def] at h
    cases h
  | cons node nodes ih =>
    cases items with
    | nil => cases h
    | cons item items =>
      rw [Node.checkPositions] at h
      rcases List.mem_append.mp h with h | h
      · exact ⟨0, node, List.mem_cons_self, item, rfl, h⟩
      · obtain ⟨k, n, hn, x, hx, hi⟩ := ih h
        exact ⟨k + 1, n, List.mem_cons_of_mem _ hn, x, hx, by rwa [Nat.add_right_comm] at hi⟩

end

/-! ## Strings and numbers -/

theorem StringCheck.fault?_ne_required {check : StringCheck} {current : String} {fault : Fault}
    (h : check.fault? current = some fault) : fault ≠ .required := by
  rintro rfl
  cases check <;> simp [StringCheck.fault?] at h

/-- No check of a string says that something is required. -/
theorem ne_required_of_mem_checkString {checks : List StringCheck} {raw : String} {fault : Fault}
    (h : fault ∈ (checkString checks raw).1) : fault ≠ .required := by
  induction checks generalizing raw with
  | nil => cases h
  | cons check rest ih =>
    rw [checkString] at h
    rcases List.mem_append.mp h with h | h
    · exact StringCheck.fault?_ne_required (Option.mem_toList.mp h)
    · exact ih h

theorem ne_required_of_mem_checkNumber {checks : List NumberCheck} {number : Binary64}
    {fault : Fault} (h : fault ∈ checkNumber checks number) : fault ≠ .required := by
  obtain ⟨check, -, hf⟩ := List.mem_filterMap.mp h
  rintro rfl
  cases check <;> simp [NumberCheck.fault?] at hf

theorem Bounds.ne_required_of_mem_faults {bounds : Bounds} {count : Nat} {fault : Fault}
    (h : fault ∈ bounds.faults count) : fault ≠ .required := by
  rintro rfl
  obtain ⟨least, most⟩ := bounds
  cases least <;> cases most <;> simp [Bounds.faults] at h

/-! ## Nodes -/

namespace Node

/-- The node fills nothing in. -/
def HasNoDefault (n : Node) : Prop :=
  match n.kind with
  | .withDefault .. => False
  | _ => True

/-- The issues that the node finds are about the value it checks. -/
def IssuesWithin (n : Node) : Prop :=
  ∀ v : Option Json, (∀ x ∈ v, x.sorted = x) → ∀ path, (n.check v path).At path v

variable {description : Option String} {v : Option Json} {path : String}

/-- **The issues of an object** are about declared keys, other keys, or the object that has keys it
may not have. -/
theorem issuesWithin_object {shape : List (String × Node)} {unknownKeys : UnknownKeys}
    {catchall : Option Node} (hs : ∀ p ∈ shape, p.2.IssuesWithin)
    (hc : ∀ n ∈ catchall, n.IssuesWithin) :
    IssuesWithin ⟨.object shape unknownKeys catchall, description⟩ := by
  intro v hv path
  cases v with
  | none =>
    simp only [check]
    exact Outcome.at_present fun x hx => by cases hx
  | some x =>
  cases x with
  | null | bool | number | string | array =>
    simp only [check]
    exact Outcome.at_fail (by simp)
  | object fields =>
    have hsorted := hv _ rfl
    have hasc := Json.ascending_of_sorted hsorted
    rw [check_object]
    intro i hi
    rcases List.mem_append.mp hi with hi | hi
    · obtain ⟨p, hp, hi⟩ := exists_of_mem_checkShape hi
      refine Issue.At.key p.1 (hs p hp _ (fun x hx => ?_) _ i hi)
      exact Json.sorted_of_mem_object hsorted (Json.mem_of_findField? hx)
    · cases catchall with
      | some n =>
        obtain ⟨f, hf, hi⟩ := exists_of_mem_checkFields hi
        have hf := (List.mem_filter.mp hf).1
        refine Issue.At.key f.1 ?_
        rw [hasc.findField?_of_mem hf]
        refine hc n rfl (some f.2) (fun x hx => ?_) _ i hi
        cases hx
        exact Json.sorted_of_mem_object hsorted hf
      | none =>
        cases unknownKeys with
        | strip | passthrough => cases hi
        | strict =>
          rw [checkUndeclared] at hi
          dsimp only at hi
          split at hi
          · cases hi
          · rw [List.mem_singleton.mp hi]
            exact Issue.at_fault (by simp)

/-- Elements are at their positions, also where the first elements of a list are not looked at. -/
theorem at_of_mem_checkElements {n : Node} (hn : n.IssuesWithin) {items : List Json}
    (hsorted : ∀ x ∈ items, x.sorted = x) (count : Nat) {i : Issue} (hi : i ∈
      (checkElements (fun v p => n.check (some v) p) path count (items.drop count)).1) :
    i.At path (some (.array items)) := by
  obtain ⟨k, x, hx, hi⟩ := exists_of_mem_checkElements hi
  rw [List.getElem?_drop] at hx
  refine Issue.At.index (count + k) hx (hn (some x) (fun y hy => ?_) _ i hi)
  cases hy
  exact hsorted x (List.mem_of_getElem? hx)

/-- Lists and sets look for faults of the whole before they check the elements. -/
theorem outcome_at_list {n : Node} (hn : n.IssuesWithin) {faults : List Json → List Fault}
    (hf : ∀ items, ∀ fault ∈ faults items, fault ≠ .required)
    (hv : ∀ x ∈ v, x.sorted = x) :
    (Outcome.present v path fun
      | .array items =>
        let checked := checkElements (fun v p => n.check (some v) p) path 0 items
        ⟨(faults items).map (·.issue path) ++ checked.1, some (.array checked.2)⟩
      | v => .fail (.type "array" v) path).At path v := by
  refine Outcome.at_present fun x hx => ?_
  subst hx
  split
  · next items =>
    intro i hi
    rcases List.mem_append.mp hi with hi | hi
    · obtain ⟨fault, hm, rfl⟩ := List.mem_map.mp hi
      exact Issue.at_fault (hf items fault hm)
    · exact at_of_mem_checkElements hn (fun x hx => Json.sorted_of_mem_array (hv _ rfl) hx) 0 hi
  · exact Outcome.at_fail (by simp)

theorem issuesWithin_tuple {nodes : List Node} {rest : Option Node}
    (hn : ∀ n ∈ nodes, n.IssuesWithin) (hr : ∀ n ∈ rest, n.IssuesWithin) :
    IssuesWithin ⟨.tuple nodes rest, description⟩ := by
  intro v hv path
  simp only [check]
  refine Outcome.at_present fun x hx => ?_
  subst hx
  split
  · next items =>
    have hsorted : ∀ x ∈ items, x.sorted = x :=
      fun x hx => Json.sorted_of_mem_array (hv _ rfl) hx
    refine Outcome.at_ite (Outcome.at_fail (by simp)) fun i hi => ?_
    rcases List.mem_append.mp hi with hi | hi
    · obtain ⟨k, n, hm, x, hx, hi⟩ := exists_of_mem_checkPositions hi
      rw [Nat.zero_add] at hi
      refine Issue.At.index k hx (hn n hm (some x) (fun y hy => ?_) _ i hi)
      cases hy
      exact hsorted x (List.mem_of_getElem? hx)
    · cases rest with
      | none => cases hi
      | some n => exact at_of_mem_checkElements (hr n rfl) hsorted _ hi
  · exact Outcome.at_fail (by simp)

/-- Both the key and the item of a field are at the path of the key. -/
theorem issuesWithin_record {key item : Node} (hk : key.IssuesWithin) (hv : item.IssuesWithin) :
    IssuesWithin ⟨.record key item, description⟩ := by
  intro v hsorted path
  simp only [check]
  refine Outcome.at_present fun x hx => ?_
  subst hx
  split
  · next fields =>
    intro i hi
    obtain ⟨f, hf, hi⟩ := exists_of_mem_checkFields hi
    have hfind : Json.findField? f.1 fields = some f.2 :=
      (Json.ascending_of_sorted (hsorted _ rfl)).findField?_of_mem hf
    refine Issue.At.key f.1 ?_
    rw [hfind]
    rcases List.mem_append.mp hi with hi | hi
    · -- the key is checked as a string, at the place of its value
      refine Issue.At.of_string (hk (some (.string f.1)) (fun y hy => ?_) _ i hi) f.2
      cases hy
      rfl
    · refine hv (some f.2) (fun y hy => ?_) _ i hi
      cases hy
      exact Json.sorted_of_mem_object (hsorted _ rfl) hf
  · exact Outcome.at_fail (by simp)

/-- The key of a pair is its first element, and the item its second one. -/
theorem at_checkPair {key item : Node} (hk : key.IssuesWithin) (hv : item.IssuesWithin)
    {entry : Json} (hsorted : entry.sorted = entry) (path : String) :
    (checkPair (fun v p => key.check (some v) p) (fun v p => item.check (some v) p) entry path).At
      path (some entry) := by
  unfold checkPair
  split
  · next k x =>
    have hparts : ∀ y ∈ [k, x], y.sorted = y := fun y hy => Json.sorted_of_mem_array hsorted hy
    obtain ⟨hks, hxs⟩ := List.forall_mem_cons.mp hparts
    intro i hi
    rcases List.mem_append.mp hi with hi | hi
    · refine Issue.At.index 0 rfl (hk (some k) (fun y hy => ?_) _ i hi)
      cases hy
      exact hks
    · refine Issue.At.index 1 rfl (hv (some x) (fun y hy => ?_) _ i hi)
      cases hy
      exact hxs x List.mem_cons_self
  · exact Outcome.at_fail (by simp)

theorem issuesWithin_map {key item : Node} (hk : key.IssuesWithin) (hv : item.IssuesWithin) :
    IssuesWithin ⟨.map key item, description⟩ := by
  intro v hsorted path
  simp only [check]
  refine Outcome.at_present fun x hx => ?_
  subst hx
  split
  · next entries =>
    intro i hi
    obtain ⟨k, entry, hentry, hi⟩ := exists_of_mem_checkPairs hi
    rw [Nat.zero_add] at hi
    have hm := List.mem_of_getElem? hentry
    exact Issue.At.index k hentry
      (at_checkPair hk hv (Json.sorted_of_mem_array (hsorted _ rfl) hm) _ i hi)
  · exact Outcome.at_fail (by simp)

/-- Repeated elements are a fault of the whole set. -/
theorem issuesWithin_set {element : Node} (he : element.IssuesWithin) (bounds : Bounds) :
    IssuesWithin ⟨.set element bounds, description⟩ := by
  intro v hv path
  refine outcome_at_list he (fun items fault hf => ?_) hv
  rcases List.mem_append.mp hf with hf | hf
  · exact Bounds.ne_required_of_mem_faults hf
  · split at hf
    · rw [List.mem_singleton.mp hf]
      simp
    · cases hf

/-- A value that no branch takes has one issue, about the value itself. -/
theorem issuesWithin_union (branches : List Node) :
    IssuesWithin ⟨.union branches, description⟩ := by
  intro v _ path
  simp only [check]
  refine Outcome.at_present fun x _ => ?_
  split
  · exact Outcome.at_keep
  · exact Outcome.at_fail (by simp)

/-- The issues of an intersection are those of its sides, or that their results do not go
together. -/
theorem issuesWithin_intersection {left right : Node} (hl : left.IssuesWithin)
    (hr : right.IssuesWithin) : IssuesWithin ⟨.intersection left right, description⟩ := by
  intro v hv path
  simp only [check]
  refine Outcome.at_present fun x hx => ?_
  subst hx
  refine Outcome.at_ite ?_ fun i hi => ?_
  · unfold mergeResults
    split
    · exact Outcome.at_keep
    · exact Outcome.at_keep_or_fail (by simp)
  · rcases List.mem_append.mp hi with hi | hi
    · exact hl _ hv path i hi
    · exact hr _ hv path i hi

theorem issuesWithin_optional {inner : Node} (hi : inner.IssuesWithin) :
    IssuesWithin ⟨.optional inner, description⟩ := by
  intro v hv path
  cases v with
  | none => exact Outcome.at_keep
  | some v => exact hi _ hv path

theorem issuesWithin_nullable {inner : Node} (hi : inner.IssuesWithin) :
    IssuesWithin ⟨.nullable inner, description⟩ := by
  intro v hv path
  have hinner := hi v hv path
  simp only [check]
  split
  · exact Outcome.at_keep
  · exact hinner

/-- A refinement that does not hold is an issue of the value itself. -/
theorem issuesWithin_refined {inner : Node} (hi : inner.IssuesWithin) (refinement : Refinement) :
    IssuesWithin ⟨.refined inner refinement, description⟩ := by
  intro v hv path
  simp only [check]
  refine Outcome.at_present fun x hx => ?_
  subst hx
  have hinner := hi _ hv path
  split
  · exact hinner
  · refine Outcome.at_ite (fun i hi => ?_) hinner
    rw [List.mem_singleton.mp hi]
    exact Issue.at_fault (by simp)

/-- **The issues of a node without defaults are about places of the value that it checks.** -/
theorem issuesWithin (n : Node) (hn : n.Throughout HasNoDefault) : n.IssuesWithin := by
  induction n using Node.induction with
  | step n ih =>
    obtain ⟨kind, description⟩ := n
    have ih : ∀ m ∈ kind.parts, m.IssuesWithin := fun m hm => ih m hm (hn.part hm)
    intro v hv path
    cases kind with
    | any | unknown => exact Outcome.at_keep
    | undefined | void =>
      cases v with
      | none => exact Outcome.at_keep
      | some v => exact Outcome.at_fail (by simp)
    | objectId =>
      cases v with
      | none => exact Outcome.at_keep
      | some v => exact Outcome.at_keep_or_fail (by simp)
    | never | nan => exact Outcome.at_present fun _ _ => Outcome.at_fail (by simp)
    | null | boolean | bigInt | literal | nativeEnum =>
      exact Outcome.at_present fun _ _ => Outcome.at_keep_or_fail (by simp)
    | date =>
      refine Outcome.at_present fun v _ => ?_
      unfold checkDate
      split
      · exact Outcome.at_keep_or_fail (by simp)
      · exact Outcome.at_fail (by simp)
    | string checks =>
      refine Outcome.at_present fun v _ => ?_
      split
      · exact Outcome.at_faults fun _ hf => ne_required_of_mem_checkString hf
      · exact Outcome.at_fail (by simp)
    | number checks =>
      refine Outcome.at_present fun v _ => ?_
      split
      · exact Outcome.at_faults fun _ hf => ne_required_of_mem_checkNumber hf
      · exact Outcome.at_fail (by simp)
    | enumeration values =>
      refine Outcome.at_present fun v _ => ?_
      split
      · exact Outcome.at_keep_or_fail (by simp)
      · exact Outcome.at_fail (by simp)
    | object shape unknownKeys catchall =>
      exact issuesWithin_object (fun p hp => ih p.2 (NodeKind.property_mem_parts hp))
        (fun n hm => ih n (NodeKind.catchall_mem_parts hm)) v hv path
    | tuple nodes rest =>
      exact issuesWithin_tuple (fun n hm => ih n (NodeKind.item_mem_parts hm))
        (fun n hm => ih n (NodeKind.rest_mem_parts hm)) v hv path
    | record key item =>
      have hitem := List.mem_cons_of_mem key (List.mem_singleton_self item)
      exact issuesWithin_record (ih key List.mem_cons_self) (ih item hitem) v hv path
    | map key item =>
      have hitem := List.mem_cons_of_mem key (List.mem_singleton_self item)
      exact issuesWithin_map (ih key List.mem_cons_self) (ih item hitem) v hv path
    | array element bounds =>
      exact outcome_at_list (ih element List.mem_cons_self)
        (fun items fault hf => Bounds.ne_required_of_mem_faults hf) hv
    | set element bounds => exact issuesWithin_set (ih element List.mem_cons_self) bounds v hv path
    | union branches => exact issuesWithin_union branches v hv path
    | intersection left right =>
      have hright := List.mem_cons_of_mem left (List.mem_singleton_self right)
      exact issuesWithin_intersection (ih left List.mem_cons_self) (ih right hright) v hv path
    | optional inner => exact issuesWithin_optional (ih inner List.mem_cons_self) v hv path
    | nullable inner => exact issuesWithin_nullable (ih inner List.mem_cons_self) v hv path
    | withDefault inner value => exact hn.here.elim
    | refined inner refinement =>
      exact issuesWithin_refined (ih inner List.mem_cons_self) refinement v hv path

/-! ## Parsing -/

/-- What a value is refused for are the issues of its check, if there are any. -/
theorem parse_eq_error_iff {n : Node} {v : Json} {issues : List Issue} :
    n.parse v = .error issues ↔ (n.check (some v) "").issues = issues ∧ issues ≠ [] := by
  unfold parse
  dsimp only
  split
  · next hnil =>
    rw [List.isEmpty_iff] at hnil
    exact iff_of_false nofun fun ⟨he, hne⟩ => hne (he.symm.trans hnil)
  · next hne =>
    rw [List.isEmpty_iff] at hne
    constructor
    · intro h
      cases h
      exact ⟨rfl, hne⟩
    · rintro ⟨rfl, -⟩
      rfl

/-- **Every issue is about a place of the value.** Its field is the path of segments that lead
through the value to a part that is there, or to a key that the object there lacks; and something is
required exactly in the second case. The fields of every object stand in the order of their keys,
each key once. -/
theorem issue_places {n : Node} (hn : n.Throughout HasNoDefault) {v : Json} (hv : v.sorted = v)
    {issues : List Issue} (h : n.parse v = .error issues) :
    ∀ i ∈ issues, ∃ segments, i.field = Json.pathTo "" segments
      ∧ ((∃ w, v.at? segments = some w) ∨ v.Lacks segments)
      ∧ (i.code = "validation.required" ↔ v.Lacks segments) := by
  obtain ⟨rfl, -⟩ := parse_eq_error_iff.mp h
  intro i hi
  obtain ⟨segments, hfield, hplace⟩ :=
    issuesWithin n hn (some v) (fun x hx => by cases hx; exact hv) "" i hi
  refine ⟨segments, hfield, hplace.imp And.left And.left, ?_⟩
  rcases hplace with ⟨⟨w, hw⟩, hcode⟩ | ⟨hlacks, hcode⟩
  · refine iff_of_false hcode fun hlacks => ?_
    rw [hlacks.at?_eq_none] at hw
    cases hw
  · exact iff_of_true hcode hlacks

/-- A customer: a name, an address, tags, amounts with short labels, and links. -/
def customer : Node :=
  ofShape
    [("name", ofKind (.string [.min 2])), ("address", ofShape [("street", string)]),
      ("tags", setOf string), ("amounts", ofKind (.record (ofKind (.string [.max 3])) number)),
      ("links", mapOf string (ofKind (.nullable (ofKind (.tuple [number] (some number))))))]

/-- A customer with something wrong in every property. -/
def wrongCustomer : Json :=
  .object
    [("address", .object [("zip", .string "1234")]), ("amounts", .object [("owed", .bool true)]),
      ("links", .array [.array [.string "a", .array [Json.ofInt 1, .null]]]), ("name", .string "A"),
      ("tags", .array [.string "vip", Json.ofInt 2])]

/-- What is wrong with it. -/
def customerIssues : List Issue :=
  [Fault.issue (.shorterThan 2) "name", Fault.issue .required "address.street",
    Fault.issue (.type "string" (Json.ofInt 2)) "tags.1",
    Fault.issue (.longerThan 3) "amounts.owed",
    Fault.issue (.type "number" (.bool true)) "amounts.owed",
    Fault.issue (.type "number" .null) "links.0.1.1"]

theorem issue_places_customer :
    customer.Throughout HasNoDefault ∧ wrongCustomer.sorted = wrongCustomer
    ∧ customer.parse wrongCustomer = .error customerIssues
    ∧ ∀ i ∈ customerIssues, ∃ segments, i.field = Json.pathTo "" segments
      ∧ ((∃ w, wrongCustomer.at? segments = some w) ∨ wrongCustomer.Lacks segments)
      ∧ (i.code = "validation.required" ↔ wrongCustomer.Lacks segments) := by
  have hn : customer.Throughout HasNoDefault := by
    simp [customer, ofShape, setOf, mapOf, ofKind, string, number, Throughout.mk_iff, HasNoDefault,
      NodeKind.parts]
  have hv : wrongCustomer.sorted = wrongCustomer := rfl
  have hp : customer.parse wrongCustomer = .error customerIssues :=
    parse_eq_error_iff.mpr ⟨by decide +kernel, List.cons_ne_nil _ _⟩
  exact ⟨hn, hv, hp, issue_places hn hv hp⟩

end Node

end DocumentModel
