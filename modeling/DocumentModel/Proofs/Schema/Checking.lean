import DocumentModel.Proofs.Schema.Parts
import DocumentModel.Schema.Check

/-!
# Checks and paths

A check takes the path of the value only to say where an issue is. So whether there are issues, and
what the conformed value is, does not hang on the path (`Node.check_alike`). The lemmas before it
say the same of the functions that check the parts of a list or an object one after the other: there
is no issue when no part has one, and the result is made of the results of the parts.
-/

namespace DocumentModel

/-! ## Outcomes -/

namespace Outcome

@[simp] theorem issues_keep {out : Option Json} : (keep out).issues = [] := rfl

@[simp] theorem value_keep {out : Option Json} : (keep out).value = out := rfl

@[simp] theorem issues_fail_ne {fault : Fault} {path : String} : (fail fault path).issues ≠ [] := by
  simp [fail]

/-- An outcome that keeps a value on a condition has no issue exactly if the condition holds. -/
@[simp] theorem issues_ite {c : Prop} [Decidable c] {out : Option Json} {fault : Fault}
    {path : String} : (if c then keep out else fail fault path).issues = [] ↔ c := by
  split <;> simp_all

@[simp] theorem present_some {x : Json} {path : String} {f : Json → Outcome} :
    present (some x) path f = f x := rfl

/-- A value that must be there is without issues when it is there and meets its check. -/
@[simp] theorem issues_present {v : Option Json} {path : String} {f : Json → Outcome} :
    (present v path f).issues = [] ↔ ∃ x, v = some x ∧ (f x).issues = [] := by
  cases v <;> simp [present]

/-- Outcomes that differ in the issues they state, but not in whether they state any. -/
def Alike (a b : Outcome) : Prop := (a.issues = [] ↔ b.issues = []) ∧ a.value = b.value

theorem Alike.rfl {a : Outcome} : a.Alike a := ⟨Iff.rfl, Eq.refl _⟩

theorem Alike.symm {a b : Outcome} (h : a.Alike b) : b.Alike a := ⟨h.1.symm, h.2.symm⟩

theorem Alike.trans {a b c : Outcome} (h : a.Alike b) (h' : b.Alike c) : a.Alike c :=
  ⟨h.1.trans h'.1, h.2.trans h'.2⟩

/-- Failures are alike whatever they say and wherever they are. -/
theorem fail_alike {f g : Fault} {p q : String} : (fail f p).Alike (fail g q) :=
  ⟨iff_of_false issues_fail_ne issues_fail_ne, rfl⟩

/-- Checks of a value that must be there are alike if they are for each value. -/
theorem present_alike {v : Option Json} {p q : String} {f g : Json → Outcome}
    (h : ∀ x, (f x).Alike (g x)) : (present v p f).Alike (present v q g) := by
  cases v with
  | none => exact fail_alike
  | some x => exact h x

/-- Outcomes whose issues stand for the same faults are alike. -/
theorem alike_of_faults {faults : List Fault} {p q : String} {value : Option Json} :
    Alike ⟨faults.map (·.issue p), value⟩ ⟨faults.map (·.issue q), value⟩ := by
  simp [Alike]

/-- The branches of one condition are compared one by one. -/
theorem ite_alike {c : Prop} [Decidable c] {a a' b b' : Outcome} (h : a.Alike a')
    (h' : b.Alike b') : (if c then a else b).Alike (if c then a' else b') := by
  split
  · exact h
  · exact h'

end Outcome

theorem checkObjectId_alike {v : Json} {p q : String} :
    (checkObjectId v p).Alike (checkObjectId v q) :=
  Outcome.ite_alike .rfl Outcome.fail_alike

theorem checkDate_alike {v : Json} {p q : String} : (checkDate v p).Alike (checkDate v q) := by
  unfold checkDate
  split
  · exact Outcome.ite_alike .rfl Outcome.fail_alike
  · exact Outcome.fail_alike

/-- An identifier is left as it is. -/
theorem value_of_checkObjectId {v : Json} {path : String} (h : (checkObjectId v path).issues = []) :
    (checkObjectId v path).value = some v := by
  simp only [checkObjectId, Outcome.issues_ite] at h ⊢
  rw [if_pos h, Outcome.value_keep]

/-- A date is left as it is, also where it is given as a text. -/
theorem value_of_checkDate {v : Json} {path : String} (h : (checkDate v path).issues = []) :
    (checkDate v path).value = some v := by
  unfold checkDate at h ⊢
  split at h
  · rw [Outcome.issues_ite] at h
    rw [if_pos h, Outcome.value_keep]
  · exact absurd h Outcome.issues_fail_ne

/-- A check that finds issues at every path or at none. -/
def PathFree (check : String → Outcome) : Prop := ∀ p q, (check p).Alike (check q)

/-! ## Parts of lists and objects -/

/-- A list has no issue when no element has one; it is conformed to the results of its elements,
with null for a result that is absent. -/
theorem checkElements_of_pathFree {check : Json → String → Outcome} (h : ∀ v, PathFree (check v))
    (path : String) (index : Nat) (items : List Json) :
    ((checkElements check path index items).1 = [] ↔ ∀ v ∈ items, (check v "").issues = [])
    ∧ (checkElements check path index items).2
      = items.map fun v => (check v "").value.getD .null := by
  induction items generalizing index with
  | nil => simp [checkElements]
  | cons item rest ih =>
    obtain ⟨hi, hv⟩ := h item (joinPath path (toString index)) ""
    obtain ⟨ihi, ihv⟩ := ih (index + 1)
    rw [checkElements]
    exact ⟨by rw [List.append_eq_nil_iff, hi, ihi, List.forall_mem_cons],
      by rw [hv, ihv, List.map_cons]⟩

/-- Fields have no issue when none of them has one; a field without a result is left out. -/
theorem checkFields_of_pathFree {check : String → Json → String → Outcome}
    (h : ∀ k v, PathFree (check k v)) (path : String) (fields : List (String × Json)) :
    ((checkFields check path fields).1 = [] ↔ ∀ f ∈ fields, (check f.1 f.2 "").issues = [])
    ∧ (checkFields check path fields).2
      = fields.filterMap fun f => (check f.1 f.2 "").value.map (f.1, ·) := by
  induction fields with
  | nil => simp [checkFields]
  | cons field rest ih =>
    obtain ⟨key, value⟩ := field
    obtain ⟨hi, hv⟩ := h key value (joinPath path key) ""
    rw [checkFields]
    refine ⟨by rw [List.append_eq_nil_iff, hi, ih.1, List.forall_mem_cons], ?_⟩
    rw [hv, ih.2, List.filterMap_cons]
    cases (check key value "").value <;> rfl

/-- The same of the entries of a map. -/
theorem checkPairs_of_pathFree {check : Json → String → Outcome} (h : ∀ v, PathFree (check v))
    (path : String) (index : Nat) (entries : List Json) :
    ((checkPairs check path index entries).1 = [] ↔ ∀ v ∈ entries, (check v "").issues = [])
    ∧ (checkPairs check path index entries).2
      = entries.filterMap fun v => (check v "").value := by
  induction entries generalizing index with
  | nil => simp [checkPairs]
  | cons entry rest ih =>
    obtain ⟨hi, hv⟩ := h entry (joinPath path (toString index)) ""
    obtain ⟨ihi, ihv⟩ := ih (index + 1)
    rw [checkPairs]
    refine ⟨by rw [List.append_eq_nil_iff, hi, ihi, List.forall_mem_cons], ?_⟩
    rw [hv, ihv, List.filterMap_cons]
    cases (check entry "").value <;> rfl

/-- A pair is checked without regard to its path when its parts are. -/
theorem checkPair_pathFree {key value : Json → String → Outcome} (hk : ∀ v, PathFree (key v))
    (hv : ∀ v, PathFree (value v)) (entry : Json) : PathFree (checkPair key value entry) := by
  intro p q
  unfold checkPair
  split
  · next k v =>
    obtain ⟨hki, hkv⟩ := hk k (joinPath p "0") (joinPath q "0")
    obtain ⟨hvi, hvv⟩ := hv v (joinPath p "1") (joinPath q "1")
    exact ⟨by simp only [List.append_eq_nil_iff, hki, hvi], by simp only [hkv, hvv]⟩
  · exact Outcome.fail_alike

/-- Whether two results go together does not hang on the path. -/
theorem mergeResults_alike {a b : Option Json} {p q : String} :
    (mergeResults a b p).Alike (mergeResults a b q) := by
  unfold mergeResults
  split
  · exact .rfl
  · exact Outcome.ite_alike .rfl Outcome.fail_alike

/-- The fields whose keys are not declared. -/
def undeclared {α : Type} (declared : List (String × α)) (fields : List (String × Json)) :
    List (String × Json) :=
  fields.filter fun field => (Json.findField? field.1 declared).isNone

namespace Node

/-- The part of checking an object that concerns the fields without a declaration. -/
def checkUndeclared (unknownKeys : UnknownKeys) (catchall : Option Node)
    (others : List (String × Json)) (path : String) : List Issue × List (String × Json) :=
  match catchall with
  | some node => checkFields (fun _ v p => node.check (some v) p) path others
  | none => match unknownKeys with
    | .passthrough => ([], others)
    | .strict =>
      (if others.isEmpty then []
        else [(Fault.unrecognizedKeys (others.map Prod.fst)).issue path], [])
    | .strip => ([], [])

-- A check is one recursion with the checks of the parts, with many equations that most lemmas below
-- rewrite with. Here they are made once, before the lemmas are elaborated side by side.
attribute [local simp] check checkShape checkPositions firstMatch

/-- The check of an object, with its declared and its other fields taken apart. -/
theorem check_object (shape : List (String × Node)) (unknownKeys : UnknownKeys)
    (catchall : Option Node) (description : Option String) (fields : List (String × Json))
    (path : String) :
    check ⟨.object shape unknownKeys catchall, description⟩ (some (.object fields)) path
      = ⟨(checkShape shape fields path).1
          ++ (checkUndeclared unknownKeys catchall (undeclared shape fields) path).1,
        some (Json.ofFields ((checkShape shape fields path).2
          ++ (checkUndeclared unknownKeys catchall (undeclared shape fields) path).2))⟩ := by
  simp only [check, Outcome.present]
  rfl

/-- The fields without a declaration have issues at every path or at none. -/
theorem checkUndeclared_path (unknownKeys : UnknownKeys) {catchall : Option Node}
    (h : ∀ node ∈ catchall, ∀ v, PathFree (node.check v)) (others : List (String × Json))
    (p q : String) :
    ((checkUndeclared unknownKeys catchall others p).1 = []
      ↔ (checkUndeclared unknownKeys catchall others q).1 = [])
    ∧ (checkUndeclared unknownKeys catchall others p).2
      = (checkUndeclared unknownKeys catchall others q).2 := by
  cases catchall with
  | some node =>
    have hc := fun (_ : String) v => h node rfl (some v)
    obtain ⟨hip, hvp⟩ := checkFields_of_pathFree hc p others
    obtain ⟨hiq, hvq⟩ := checkFields_of_pathFree hc q others
    exact ⟨hip.trans hiq.symm, hvp.trans hvq.symm⟩
  | none =>
    cases unknownKeys with
    | strip | passthrough => exact ⟨Iff.rfl, rfl⟩
    | strict =>
      refine ⟨?_, rfl⟩
      cases others <;> simp [checkUndeclared]

/-- Declared keys are checked each with its value, or with the absence of one. -/
theorem checkShape_of_pathFree {shape : List (String × Node)}
    (h : ∀ p ∈ shape, ∀ v, PathFree (p.2.check v)) (fields : List (String × Json))
    (path : String) :
    ((checkShape shape fields path).1 = []
      ↔ ∀ p ∈ shape, (p.2.check (Json.findField? p.1 fields) "").issues = [])
    ∧ (checkShape shape fields path).2
      = shape.filterMap fun p =>
          (p.2.check (Json.findField? p.1 fields) "").value.map (p.1, ·) := by
  induction shape with
  | nil => simp [checkShape]
  | cons property rest ih =>
    obtain ⟨key, node⟩ := property
    obtain ⟨hi, hv⟩ := h _ List.mem_cons_self (Json.findField? key fields) (joinPath path key) ""
    obtain ⟨ihi, ihv⟩ := ih fun p hp => h p (List.mem_cons_of_mem _ hp)
    rw [checkShape]
    refine ⟨by rw [List.append_eq_nil_iff, hi, ihi, List.forall_mem_cons], ?_⟩
    rw [hv, ihv, List.filterMap_cons]
    cases (node.check (Json.findField? key fields) "").value <;> rfl

/-- Items are checked each with the node at its position. -/
theorem checkPositions_of_pathFree {nodes : List Node} (h : ∀ n ∈ nodes, ∀ v, PathFree (n.check v))
    (items : List Json) (path : String) (index : Nat) :
    ((checkPositions nodes items path index).1 = []
      ↔ ∀ e ∈ nodes.zip items, (e.1.check (some e.2) "").issues = [])
    ∧ (checkPositions nodes items path index).2
      = (nodes.zip items).map fun e => (e.1.check (some e.2) "").value.getD .null := by
  induction nodes generalizing items index with
  | nil => simp [checkPositions]
  | cons node nodes ih =>
    cases items with
    | nil => simp [checkPositions]
    | cons item items =>
      obtain ⟨hi, hv⟩ := h _ List.mem_cons_self (some item) (joinPath path (toString index)) ""
      obtain ⟨ihi, ihv⟩ := ih (fun n hn => h n (List.mem_cons_of_mem _ hn)) items (index + 1)
      rw [checkPositions]
      exact ⟨by rw [List.append_eq_nil_iff, hi, ihi, List.zip_cons_cons, List.forall_mem_cons],
        by rw [hv, ihv, List.zip_cons_cons, List.map_cons]⟩

/-- The first branch that takes a value is the first one at every path. -/
theorem firstMatch_path {branches : List Node} (h : ∀ b ∈ branches, ∀ v, PathFree (b.check v))
    (v : Json) (p q : String) : firstMatch branches v p = firstMatch branches v q := by
  induction branches with
  | nil => rfl
  | cons branch rest ih =>
    obtain ⟨hi, hv⟩ := h _ List.mem_cons_self (some v) p q
    have he :
        (branch.check (some v) p).issues.isEmpty = (branch.check (some v) q).issues.isEmpty := by
      rw [Bool.eq_iff_iff, List.isEmpty_iff, List.isEmpty_iff, hi]
    rw [firstMatch, firstMatch, he, hv, ih fun b hb => h b (List.mem_cons_of_mem _ hb)]

/-- A field of a record is checked with its key. -/
theorem checkField_pathFree {key item : Node} (hk : ∀ v, PathFree (key.check v))
    (hv : ∀ v, PathFree (item.check v)) (k : String) (v : Json) :
    PathFree fun p => ⟨(key.check (some (.string k)) p).issues ++ (item.check (some v) p).issues,
      (item.check (some v) p).value⟩ := by
  intro p q
  obtain ⟨hki, -⟩ := hk (some (.string k)) p q
  obtain ⟨hvi, hvv⟩ := hv (some v) p q
  exact ⟨by simp only [List.append_eq_nil_iff, hki, hvi], hvv⟩

/-! ## Nodes -/

/-- An object is checked without regard to its path when all its parts are. -/
theorem object_pathFree {shape : List (String × Node)}
    (hs : ∀ e ∈ shape, ∀ v, PathFree (e.2.check v))
    {catchall : Option Node} (hc : ∀ node ∈ catchall, ∀ v, PathFree (node.check v))
    (unknownKeys : UnknownKeys) (description : Option String) (v : Option Json) :
    PathFree (check ⟨.object shape unknownKeys catchall, description⟩ v) := by
  intro p q
  match v with
  | none | some .null | some (.bool _) | some (.number _) | some (.string _) | some (.array _) =>
    simp only [check]
    exact Outcome.fail_alike
  | some (.object fields) =>
    obtain ⟨hip, hvp⟩ := checkShape_of_pathFree hs fields p
    obtain ⟨hiq, hvq⟩ := checkShape_of_pathFree hs fields q
    obtain ⟨hi, hv⟩ := checkUndeclared_path unknownKeys hc (undeclared shape fields) p q
    rw [check_object, check_object]
    exact ⟨by simp only [List.append_eq_nil_iff, hip, hiq, hi], by simp only [hvp, hvq, hv]⟩

/-- So is a tuple; whether it has the right length is a matter of its own. -/
theorem tuple_pathFree {nodes : List Node} (hn : ∀ n ∈ nodes, ∀ v, PathFree (n.check v))
    {rest : Option Node} (hr : ∀ node ∈ rest, ∀ v, PathFree (node.check v))
    (description : Option String) (v : Option Json) :
    PathFree (check ⟨.tuple nodes rest, description⟩ v) := by
  intro p q
  simp only [check]
  refine Outcome.present_alike fun v => ?_
  split
  · next items =>
    -- whether the length is right does not depend on the path either
    refine Outcome.ite_alike Outcome.fail_alike ?_
    obtain ⟨hip, hvp⟩ := checkPositions_of_pathFree hn items p 0
    obtain ⟨hiq, hvq⟩ := checkPositions_of_pathFree hn items q 0
    cases rest with
    | some node =>
      have hrest : ∀ v : Json, PathFree (node.check (some v)) := fun v => hr node rfl (some v)
      obtain ⟨hrip, hrvp⟩ :=
        checkElements_of_pathFree hrest p nodes.length (items.drop nodes.length)
      obtain ⟨hriq, hrvq⟩ :=
        checkElements_of_pathFree hrest q nodes.length (items.drop nodes.length)
      exact ⟨by simp only [List.append_eq_nil_iff, hip, hiq, hrip, hriq],
        by simp only [hvp, hvq, hrvp, hrvq]⟩
    | none => exact ⟨by simp only [List.append_nil, hip, hiq], by simp only [hvp, hvq]⟩
  · exact Outcome.fail_alike

/-- The elements of a list, whatever faults the list has itself. -/
theorem elements_alike {element : Node} (he : ∀ v, PathFree (element.check v))
    (faults : List Fault) (items : List Json) (p q : String) :
    let checked := fun path => checkElements (fun v p => element.check (some v) p) path 0 items
    Outcome.Alike
      ⟨faults.map (·.issue p) ++ (checked p).1, some (.array (checked p).2)⟩
      ⟨faults.map (·.issue q) ++ (checked q).1, some (.array (checked q).2)⟩ := by
  intro checked
  obtain ⟨hip, hvp⟩ := checkElements_of_pathFree (fun v => he (some v)) p 0 items
  obtain ⟨hiq, hvq⟩ := checkElements_of_pathFree (fun v => he (some v)) q 0 items
  exact ⟨by simp only [checked, List.append_eq_nil_iff, List.map_eq_nil_iff, hip, hiq],
    by simp only [checked, hvp, hvq]⟩

theorem record_pathFree {key item : Node} (hk : ∀ v, PathFree (key.check v))
    (hi : ∀ v, PathFree (item.check v)) (description : Option String) (v : Option Json) :
    PathFree (check ⟨.record key item, description⟩ v) := by
  intro p q
  simp only [check]
  refine Outcome.present_alike fun v => ?_
  split
  · next fields =>
    obtain ⟨hip, hvp⟩ := checkFields_of_pathFree (checkField_pathFree hk hi) p fields
    obtain ⟨hiq, hvq⟩ := checkFields_of_pathFree (checkField_pathFree hk hi) q fields
    exact ⟨by simp only [hip, hiq], by simp only [hvp, hvq]⟩
  · exact Outcome.fail_alike

theorem map_pathFree {key item : Node} (hk : ∀ v, PathFree (key.check v))
    (hi : ∀ v, PathFree (item.check v)) (description : Option String) (v : Option Json) :
    PathFree (check ⟨.map key item, description⟩ v) := by
  intro p q
  simp only [check]
  refine Outcome.present_alike fun v => ?_
  split
  · next entries =>
    have he := checkPair_pathFree (fun v => hk (some v)) (fun v => hi (some v))
    obtain ⟨hip, hvp⟩ := checkPairs_of_pathFree he p 0 entries
    obtain ⟨hiq, hvq⟩ := checkPairs_of_pathFree he q 0 entries
    exact ⟨by simp only [hip, hiq], by simp only [hvp, hvq]⟩
  · exact Outcome.fail_alike

/-- The branch that a value is checked as does not hang on the path. -/
theorem union_pathFree {branches : List Node} (hb : ∀ b ∈ branches, ∀ v, PathFree (b.check v))
    (description : Option String) (v : Option Json) :
    PathFree (check ⟨.union branches, description⟩ v) := by
  intro p q
  simp only [check]
  refine Outcome.present_alike fun v => ?_
  rw [firstMatch_path hb v p q]
  split
  · exact .rfl
  · exact Outcome.fail_alike

/-- The two sides are compared by their results, which do not hang on the path. -/
theorem intersection_pathFree {left right : Node} (hl : ∀ v, PathFree (left.check v))
    (hr : ∀ v, PathFree (right.check v)) (description : Option String) (v : Option Json) :
    PathFree (check ⟨.intersection left right, description⟩ v) := by
  intro p q
  simp only [check]
  refine Outcome.present_alike fun v => ?_
  obtain ⟨hli, hlv⟩ := hl (some v) p q
  obtain ⟨hri, hrv⟩ := hr (some v) p q
  simp only [Bool.and_eq_true, List.isEmpty_iff, hli, hri, hlv, hrv]
  split
  · exact mergeResults_alike
  · exact ⟨by simp only [List.append_eq_nil_iff, hli, hri], rfl⟩

theorem nullable_pathFree {inner : Node} (hi : ∀ v, PathFree (inner.check v))
    (description : Option String) (v : Option Json) :
    PathFree (check ⟨.nullable inner, description⟩ v) := by
  intro p q
  have hinner := hi v p q
  simp only [check]
  split
  · exact .rfl
  · exact hinner

/-- A refinement looks at the conformed value, which is the same at every path. -/
theorem refined_pathFree {inner : Node} (hi : ∀ v, PathFree (inner.check v))
    (refinement : Refinement) (description : Option String) (v : Option Json) :
    PathFree (check ⟨.refined inner refinement, description⟩ v) := by
  intro p q
  simp only [check]
  refine Outcome.present_alike fun v => ?_
  have halike := hi (some v) p q
  rw [halike.2]
  split
  · exact halike
  · simp only [Bool.and_eq_true, List.isEmpty_iff, halike.1]
    exact Outcome.ite_alike ⟨by simp, rfl⟩ halike

/-- **The path of a value does not decide whether the value has issues, or what it conforms to.** -/
theorem check_alike (n : Node) : ∀ v, PathFree (n.check v) := by
  induction n using Node.induction with
  | step n ih =>
    intro v p q
    obtain ⟨kind, description⟩ := n
    cases kind with
    | any | unknown => exact .rfl
    | undefined | void =>
      cases v with
      | none => exact .rfl
      | some v => exact Outcome.fail_alike
    | objectId =>
      cases v with
      | none => exact .rfl
      | some v => exact checkObjectId_alike
    | never | nan => exact Outcome.present_alike fun _ => Outcome.fail_alike
    | null | boolean | bigInt =>
      exact Outcome.present_alike fun _ => Outcome.ite_alike .rfl Outcome.fail_alike
    | date => exact Outcome.present_alike fun _ => checkDate_alike
    | string checks | number checks =>
      refine Outcome.present_alike fun v => ?_
      split
      · exact Outcome.alike_of_faults
      · exact Outcome.fail_alike
    | literal value | nativeEnum members =>
      exact Outcome.present_alike fun v => Outcome.ite_alike .rfl Outcome.fail_alike
    | enumeration values =>
      refine Outcome.present_alike fun v => ?_
      split
      · exact Outcome.ite_alike .rfl Outcome.fail_alike
      · exact Outcome.fail_alike
    | object shape unknownKeys catchall =>
      exact object_pathFree (fun e he => ih e.2 (NodeKind.property_mem_parts he))
        (fun node hn => ih node (NodeKind.catchall_mem_parts hn)) unknownKeys description v p q
    | record key item =>
      have hitem := List.mem_cons_of_mem key (List.mem_singleton_self item)
      exact record_pathFree (ih key List.mem_cons_self) (ih item hitem) description v p q
    | array element bounds | set element bounds =>
      refine Outcome.present_alike fun v => ?_
      split
      · next items => exact elements_alike (ih element List.mem_cons_self) _ items p q
      · exact Outcome.fail_alike
    | tuple nodes rest =>
      exact tuple_pathFree (fun n hn => ih n (NodeKind.item_mem_parts hn))
        (fun node hn => ih node (NodeKind.rest_mem_parts hn)) description v p q
    | map key item =>
      have hitem := List.mem_cons_of_mem key (List.mem_singleton_self item)
      exact map_pathFree (ih key List.mem_cons_self) (ih item hitem) description v p q
    | union branches => exact union_pathFree ih description v p q
    | intersection left right =>
      have hright := List.mem_cons_of_mem left (List.mem_singleton_self right)
      exact intersection_pathFree (ih left List.mem_cons_self) (ih right hright) description v p q
    | optional inner =>
      cases v with
      | none => exact .rfl
      | some v => exact ih inner List.mem_cons_self (some v) p q
    | nullable inner => exact nullable_pathFree (ih inner List.mem_cons_self) description v p q
    | withDefault inner value => exact ih inner List.mem_cons_self _ p q
    | refined inner refinement =>
      exact refined_pathFree (ih inner List.mem_cons_self) refinement description v p q

end Node

end DocumentModel
