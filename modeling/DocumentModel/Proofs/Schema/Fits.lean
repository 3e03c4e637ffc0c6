import Mathlib.Data.List.Basic
import DocumentModel.Proofs.Schema.Checking

/-!
# Values that fit a node

A value, or its absence, fits a node when the check of the node finds no issue; `Node.result` is
then what the value is conformed to. Neither depends on a path. For every kind of node that asks for
something `fits_…` says which values fit, and `result_…` what becomes of them, in terms of the nodes
that the kind is made of. Nothing that follows needs the definition of `Node.check`.
-/

namespace DocumentModel

/-- The kinds that look at a value and leave it as it is. -/
def NodeKind.keepsValue {α : Type} : NodeKind α → Bool
  | .any | .unknown | .undefined | .void | .never | .nan | .null | .boolean | .date | .bigInt
  | .objectId | .number _ | .literal _ | .enumeration _ | .nativeEnum _ => true
  | _ => false

namespace Node

/-- The check of the node finds no issue. -/
def Fits (n : Node) (v : Option Json) : Prop := (n.check v "").issues = []

instance (n : Node) (v : Option Json) : Decidable (n.Fits v) :=
  inferInstanceAs (Decidable (_ = []))

/-- What the check makes of a value. -/
def result (n : Node) (v : Option Json) : Option Json := (n.check v "").value

/-- A value fits at every path or at none. -/
theorem issues_check_eq_nil {n : Node} {v : Option Json} {path : String} :
    (n.check v path).issues = [] ↔ n.Fits v :=
  (check_alike n v path "").1

/-- What a value is conformed to is the same at every path. -/
theorem value_check {n : Node} {v : Option Json} {path : String} :
    (n.check v path).value = n.result v :=
  (check_alike n v path "").2

/-- **A value is parsed exactly if it fits, to its result.** -/
theorem parse_eq_ok_iff {n : Node} {v out : Json} :
    n.parse v = .ok out ↔ n.Fits (some v) ∧ (n.result (some v)).getD .null = out := by
  unfold parse Fits result
  by_cases h : (n.check (some v) "").issues = [] <;> simp [h]

variable {description : Option String} {v : Option Json}

/-! ## Leaves -/

/-- Only absence fits a node that asks for it; every value that is there is an issue. -/
theorem fits_undefined : Fits ⟨.undefined, description⟩ v ↔ v = none := by
  cases v <;> simp [Fits, check]

theorem fits_void : Fits ⟨.void, description⟩ v ↔ v = none := by
  cases v <;> simp [Fits, check]

/-- An identifier may be absent, and is looked at where it is there. -/
theorem fits_objectId : Fits ⟨.objectId, description⟩ v ↔
    ∀ x, v = some x → (checkObjectId x "").issues = [] := by
  cases v <;> simp [Fits, check]

/-- Nothing fits the node without values. -/
theorem not_fits_never : ¬ Fits ⟨.never, description⟩ v := by
  simp [Fits, check]

/-- No value is a number that is none, since there is no text for it. -/
theorem not_fits_nan : ¬ Fits ⟨.nan, description⟩ v := by
  simp [Fits, check]

theorem fits_null : Fits ⟨.null, description⟩ v ↔ ∃ x, v = some x ∧ x.isNull = true := by
  simp [Fits, check, Outcome.expect]

theorem fits_boolean : Fits ⟨.boolean, description⟩ v ↔ ∃ x, v = some x ∧ x.isBool = true := by
  simp [Fits, check, Outcome.expect]

theorem fits_bigInt : Fits ⟨.bigInt, description⟩ v ↔ ∃ x, v = some x ∧ x.isInteger = true := by
  simp [Fits, check, Outcome.expect]

theorem fits_date : Fits ⟨.date, description⟩ v ↔
    ∃ x, v = some x ∧ (checkDate x "").issues = [] := by
  simp [Fits, check]

/-- A string fits when none of its checks finds a fault, each one in what the checks before it have
made of the string. -/
theorem fits_string {checks : List StringCheck} : Fits ⟨.string checks, description⟩ v ↔
    ∃ raw, v = some (.string raw) ∧ (checkString checks raw).1 = [] := by
  simp only [Fits, check, Outcome.issues_present]
  constructor
  · rintro ⟨x, rfl, hx⟩
    split at hx
    · exact ⟨_, rfl, by simpa using hx⟩
    · simp at hx
  · rintro ⟨raw, rfl, hx⟩
    exact ⟨_, rfl, by simpa using hx⟩

/-- A number is checked by its rounded value. -/
theorem fits_number {checks : List NumberCheck} : Fits ⟨.number checks, description⟩ v ↔
    ∃ n, v = some (.number n) ∧ checkNumber checks n.toBinary64 = [] := by
  simp only [Fits, check, Outcome.issues_present]
  constructor
  · rintro ⟨x, rfl, hx⟩
    split at hx
    · exact ⟨_, rfl, by simpa using hx⟩
    · simp at hx
  · rintro ⟨n, rfl, hx⟩
    exact ⟨_, rfl, by simpa using hx⟩

/-- A value fits a literal when it is the same value. -/
theorem fits_literal {expected : Json} : Fits ⟨.literal expected, description⟩ v ↔
    ∃ x, v = some x ∧ x.same expected = true := by
  simp [Fits, check]

theorem fits_enumeration {allowed : List String} : Fits ⟨.enumeration allowed, description⟩ v ↔
    ∃ raw ∈ allowed, v = some (.string raw) := by
  simp only [Fits, check, Outcome.issues_present]
  constructor
  · rintro ⟨x, rfl, hx⟩
    split at hx
    · exact ⟨_, by simpa using hx, rfl⟩
    · simp at hx
  · rintro ⟨raw, hraw, rfl⟩
    exact ⟨_, rfl, by simpa using hraw⟩

/-- The members of an enumeration stand for their values; their names do not count. -/
theorem fits_nativeEnum {members : List EnumMember} : Fits ⟨.nativeEnum members, description⟩ v ↔
    ∃ x, v = some x ∧ Json.isIn x (members.map (·.value.toJson)) = true := by
  simp [Fits, check]

/-- **A node that only looks at a value returns the value**, or its absence. -/
theorem result_of_keepsValue {kind : NodeKind Node} (hk : kind.keepsValue = true)
    (h : Fits ⟨kind, description⟩ v) : result ⟨kind, description⟩ v = v := by
  cases kind with
  | any | unknown => rfl
  | undefined => rw [fits_undefined.mp h]; rfl
  | void => rw [fits_void.mp h]; rfl
  | never => exact absurd h not_fits_never
  | nan => exact absurd h not_fits_nan
  | null =>
    obtain ⟨x, rfl, hx⟩ := fits_null.mp h
    simp [result, check, Outcome.expect, hx]
  | boolean =>
    obtain ⟨x, rfl, hx⟩ := fits_boolean.mp h
    simp [result, check, Outcome.expect, hx]
  | bigInt =>
    obtain ⟨x, rfl, hx⟩ := fits_bigInt.mp h
    simp [result, check, Outcome.expect, hx]
  | date =>
    obtain ⟨x, rfl, hx⟩ := fits_date.mp h
    exact value_of_checkDate hx
  | objectId =>
    cases v with
    | none => rfl
    | some x => exact value_of_checkObjectId (fits_objectId.mp h x rfl)
  | number checks =>
    obtain ⟨n, rfl, hn⟩ := fits_number.mp h
    rfl
  | literal expected =>
    obtain ⟨x, rfl, hx⟩ := fits_literal.mp h
    simp [result, check, hx]
  | enumeration allowed =>
    obtain ⟨raw, hraw, rfl⟩ := fits_enumeration.mp h
    simp [result, check, hraw]
  | nativeEnum members =>
    obtain ⟨x, rfl, hx⟩ := fits_nativeEnum.mp h
    simp [result, check, hx]
  | _ => simp [NodeKind.keepsValue] at hk

/-- A string is what its checks have made of it, whether or not they found a fault. -/
theorem result_string {checks : List StringCheck} {raw : String} :
    result ⟨.string checks, description⟩ (some (.string raw))
      = some (.string (checkString checks raw).2) := rfl

/-! ## Wrappers -/

variable {inner : Node}

/-- An absent value fits an optional node, and only then is the inner node not asked. -/
theorem fits_optional : Fits ⟨.optional inner, description⟩ v ↔ v = none ∨ inner.Fits v := by
  cases v with
  | none => simp [Fits, check]
  | some x => simp [Fits, check]

theorem result_optional_none : result ⟨.optional inner, description⟩ none = none := rfl

theorem result_optional_some {x : Json} :
    result ⟨.optional inner, description⟩ (some x) = inner.result (some x) := rfl

/-- The default is checked in the place of an absent value, and is not checked otherwise. -/
theorem fits_withDefault {value : Json} :
    Fits ⟨.withDefault inner value, description⟩ v ↔ inner.Fits (some (v.getD value)) := Iff.rfl

theorem result_withDefault {value : Json} :
    result ⟨.withDefault inner value, description⟩ v = inner.result (some (v.getD value)) := rfl

/-- Null fits a nullable node; any other value, and absence, must fit the inner node. -/
theorem fits_nullable :
    Fits ⟨.nullable inner, description⟩ v ↔ v = some .null ∨ inner.Fits v := by
  simp only [Fits, check]
  split
  · simp
  · next h => exact (or_iff_right fun he => h he).symm

theorem result_nullable_null :
    result ⟨.nullable inner, description⟩ (some .null) = some .null := rfl

/-- A value other than null is conformed as by the inner node. -/
theorem result_nullable (h : v ≠ some .null) :
    result ⟨.nullable inner, description⟩ v = inner.result v := by
  simp only [result, check]

/-- A refinement is asked about the conformed value of one that fits, and never about an absent
one. -/
theorem fits_refined {refinement : Refinement} :
    Fits ⟨.refined inner refinement, description⟩ v ↔
      ∃ x, v = some x ∧ inner.Fits v ∧ ∀ y ∈ inner.result v, refinement.holds y = true := by
  simp only [Fits, check, Outcome.issues_present]
  constructor
  · rintro ⟨x, rfl, hx⟩
    refine ⟨x, rfl, ?_⟩
    rw [value_check] at hx
    split at hx
    · next hn => exact ⟨hx, by simp [hn]⟩
    · next y hy =>
      split at hx
      · simp at hx
      · next hc => exact ⟨hx, by simpa [hx, hy] using hc⟩
  · rintro ⟨x, rfl, hi, hh⟩
    refine ⟨x, rfl, ?_⟩
    rw [value_check]
    split
    · exact hi
    · next y hy =>
      rw [if_neg (by simp [hh y hy])]
      exact hi

/-- A refinement changes nothing about a value. -/
theorem result_refined {refinement : Refinement} {x : Json} :
    result ⟨.refined inner refinement, description⟩ (some x) = inner.result (some x) := by
  simp only [result, check, Outcome.present_some]
  split
  · rfl
  · next hy =>
    split
    · exact hy.symm
    · rfl

/-! ## Objects -/

/-- Whether the fields without a declaration fit an object. -/
def UndeclaredFit : UnknownKeys → Option Node → List (String × Json) → Prop
  | _, some node, others => ∀ f ∈ others, node.Fits (some f.2)
  | .strict, none, others => others = []
  | _, none, _ => True

/-- What an object keeps of the fields without a declaration. -/
def undeclaredResult : UnknownKeys → Option Node → List (String × Json) → List (String × Json)
  | _, some node, others => others.filterMap fun f => (node.result (some f.2)).map (f.1, ·)
  | .passthrough, none, others => others
  | _, none, _ => []

/-- The declared properties of an object, as far as they are there. -/
def declaredResult (shape : List (String × Node)) (fields : List (String × Json)) :
    List (String × Json) :=
  shape.filterMap fun p => (p.2.result (Json.findField? p.1 fields)).map (p.1, ·)

variable {shape : List (String × Node)} {unknownKeys : UnknownKeys} {catchall : Option Node}

/-- The fields without a declaration: which of them fit, and what is kept of them. -/
theorem checkUndeclared_eq (others : List (String × Json)) (path : String) :
    ((checkUndeclared unknownKeys catchall others path).1 = []
      ↔ UndeclaredFit unknownKeys catchall others)
    ∧ (checkUndeclared unknownKeys catchall others path).2
      = undeclaredResult unknownKeys catchall others := by
  cases catchall with
  | some node => exact checkFields_of_pathFree (fun _ v => check_alike node (some v)) path others
  | none =>
    cases unknownKeys with
    | strip | passthrough => simp [checkUndeclared, UndeclaredFit, undeclaredResult]
    | strict => cases others <;> simp [checkUndeclared, UndeclaredFit, undeclaredResult]

/-- **An object fits when each declared key does, present or absent, and the other fields may
stay.** -/
theorem fits_object : Fits ⟨.object shape unknownKeys catchall, description⟩ v ↔
    ∃ fields, v = some (.object fields)
      ∧ (∀ p ∈ shape, p.2.Fits (Json.findField? p.1 fields))
      ∧ UndeclaredFit unknownKeys catchall (undeclared shape fields) := by
  constructor
  · intro h
    match v with
    | none | some .null | some (.bool _) | some (.number _) | some (.string _) | some (.array _) =>
      simp [Fits, check] at h
    | some (.object fields) =>
      rw [Fits, check_object, List.append_eq_nil_iff, (checkUndeclared_eq _ _).1,
        (checkShape_of_pathFree (fun p _ => check_alike p.2) fields "").1] at h
      exact ⟨fields, rfl, h⟩
  · rintro ⟨fields, rfl, hs, hu⟩
    rw [Fits, check_object, List.append_eq_nil_iff, (checkUndeclared_eq _ _).1,
      (checkShape_of_pathFree (fun p _ => check_alike p.2) fields "").1]
    exact ⟨hs, hu⟩

/-- A conformed object holds the results of the declared keys and of the other fields, in the order
of the keys. -/
theorem result_object {fields : List (String × Json)} :
    result ⟨.object shape unknownKeys catchall, description⟩ (some (.object fields))
      = some (Json.ofFields (declaredResult shape fields
          ++ undeclaredResult unknownKeys catchall (undeclared shape fields))) := by
  rw [result, check_object, (checkUndeclared_eq _ _).2,
    (checkShape_of_pathFree (fun p _ => check_alike p.2) fields "").2]
  rfl

/-! ## Lists -/

variable {element key item left right : Node} {bounds : Bounds}

/-- The elements of a list after they have been checked. -/
def results (n : Node) (items : List Json) : List Json :=
  items.map fun v => (n.result (some v)).getD .null

/-- Elements are checked each on its own, wherever the first of them stands. -/
theorem checkElements_eq (n : Node) (path : String) (index : Nat) (items : List Json) :
    ((checkElements (fun v p => n.check (some v) p) path index items).1 = []
      ↔ ∀ v ∈ items, n.Fits (some v))
    ∧ (checkElements (fun v p => n.check (some v) p) path index items).2 = n.results items :=
  checkElements_of_pathFree (fun v => check_alike n (some v)) path index items

/-- An array fits when it has as many elements as it may and all of them fit. -/
theorem fits_array : Fits ⟨.array element bounds, description⟩ v ↔
    ∃ items, v = some (.array items) ∧ bounds.faults items.length = []
      ∧ ∀ x ∈ items, element.Fits (some x) := by
  simp only [Fits, check, Outcome.issues_present]
  constructor
  · rintro ⟨x, rfl, hx⟩
    split at hx
    · rw [List.append_eq_nil_iff, List.map_eq_nil_iff, (checkElements_eq _ _ _ _).1] at hx
      exact ⟨_, rfl, hx⟩
    · simp at hx
  · rintro ⟨items, rfl, hx⟩
    refine ⟨_, rfl, ?_⟩
    rw [List.append_eq_nil_iff, List.map_eq_nil_iff, (checkElements_eq _ _ _ _).1]
    exact hx

theorem result_array {items : List Json} :
    result ⟨.array element bounds, description⟩ (some (.array items))
      = some (.array (element.results items)) := by
  simp [result, check, (checkElements_eq _ _ _ _).2]

/-- A set fits when it fits as an array and no two of its elements are the same, as they are
given. -/
theorem fits_set : Fits ⟨.set element bounds, description⟩ v ↔
    ∃ items, v = some (.array items) ∧ bounds.faults items.length = []
      ∧ hasDuplicate items = false ∧ ∀ x ∈ items, element.Fits (some x) := by
  simp only [Fits, check, Outcome.issues_present]
  constructor
  · rintro ⟨x, rfl, hx⟩
    split at hx
    · next items =>
      rw [List.append_eq_nil_iff, List.map_eq_nil_iff, List.append_eq_nil_iff,
        (checkElements_eq _ _ _ _).1] at hx
      obtain ⟨⟨hb, hd⟩, he⟩ := hx
      exact ⟨items, rfl, hb, by simpa using hd, he⟩
    · simp at hx
  · rintro ⟨items, rfl, hb, hd, he⟩
    refine ⟨_, rfl, ?_⟩
    rw [List.append_eq_nil_iff, List.map_eq_nil_iff, List.append_eq_nil_iff,
      (checkElements_eq _ _ _ _).1]
    exact ⟨⟨hb, by simp [hd]⟩, he⟩

theorem result_set {items : List Json} :
    result ⟨.set element bounds, description⟩ (some (.array items))
      = some (.array (element.results items)) := by
  simp [result, check, (checkElements_eq _ _ _ _).2]

/-- What each node makes of the element at its place. -/
def resultsEach (nodes : List Node) (items : List Json) : List Json :=
  (nodes.zip items).map fun e => (e.1.result (some e.2)).getD .null

/-- Items are checked by the nodes at their positions, as far as there are both. -/
theorem checkPositions_eq (nodes : List Node) (items : List Json) (path : String) (index : Nat) :
    ((checkPositions nodes items path index).1 = [] ↔ ∀ e ∈ nodes.zip items, e.1.Fits (some e.2))
    ∧ (checkPositions nodes items path index).2 = resultsEach nodes items :=
  checkPositions_of_pathFree (fun n _ => check_alike n) items path index

variable {nodes : List Node} {rest : Option Node}

/-- How a tuple goes through a list that is long enough, and not too long. -/
theorem check_tuple {items : List Json} (hl : nodes.length ≤ items.length)
    (hm : rest = none → items.length ≤ nodes.length) :
    (Fits ⟨.tuple nodes rest, description⟩ (some (.array items)) ↔
      (∀ e ∈ nodes.zip items, e.1.Fits (some e.2))
        ∧ ∀ n ∈ rest, ∀ x ∈ items.drop nodes.length, n.Fits (some x))
    ∧ result ⟨.tuple nodes rest, description⟩ (some (.array items))
      = some (.array (resultsEach nodes items
          ++ (rest.map fun n => n.results (items.drop nodes.length)).getD [])) := by
  rw [Fits, result]
  simp only [check, Outcome.present_some]
  cases rest with
  | none =>
    have hlen : nodes.length = items.length := Nat.le_antisymm hl (hm rfl)
    rw [if_neg (by simp [hlen])]
    simp [(checkPositions_eq _ _ _ _).1, (checkPositions_eq _ _ _ _).2]
  | some n =>
    rw [if_neg (by simpa using hl)]
    simp [(checkPositions_eq _ _ _ _).1, (checkPositions_eq _ _ _ _).2,
      (checkElements_eq _ _ _ _).1, (checkElements_eq _ _ _ _).2]

/-- A tuple fits when it is long enough, and not too long without a rest, and each item fits its
node or the rest. -/
theorem fits_tuple : Fits ⟨.tuple nodes rest, description⟩ v ↔
    ∃ items, v = some (.array items) ∧ nodes.length ≤ items.length
      ∧ (rest = none → items.length ≤ nodes.length)
      ∧ (∀ e ∈ nodes.zip items, e.1.Fits (some e.2))
      ∧ ∀ n ∈ rest, ∀ x ∈ items.drop nodes.length, n.Fits (some x) := by
  constructor
  · intro h
    match v with
    | none | some .null | some (.bool _) | some (.number _) | some (.string _) | some (.object _) =>
      simp [Fits, check] at h
    | some (.array items) =>
      by_cases hl : nodes.length ≤ items.length ∧ (rest = none → items.length ≤ nodes.length)
      · exact ⟨items, rfl, hl.1, hl.2, (check_tuple hl.1 hl.2).1.mp h⟩
      · -- a list of the wrong length is not looked into
        rw [Fits] at h
        simp only [check, Outcome.present_some] at h
        rw [if_pos] at h
        · exact absurd h Outcome.issues_fail_ne
        · simp only [Bool.or_eq_true, decide_eq_true_eq, Bool.and_eq_true,
            Option.isNone_iff_eq_none]
          by_cases hr : rest = none
          · have hlen : ¬ (nodes.length ≤ items.length ∧ items.length ≤ nodes.length) :=
              fun h => hl ⟨h.1, fun _ => h.2⟩
            simp only [hr, true_and]
            omega
          · exact Or.inl (Nat.lt_of_not_le fun h => hl ⟨h, fun he => absurd he hr⟩)
  · rintro ⟨items, rfl, hl, hm, h⟩
    exact (check_tuple hl hm).1.mpr h

/-- A conformed tuple holds the results of its items in their order. -/
theorem result_tuple {items : List Json}
    (h : Fits ⟨.tuple nodes rest, description⟩ (some (.array items))) :
    result ⟨.tuple nodes rest, description⟩ (some (.array items))
      = some (.array (resultsEach nodes items
          ++ (rest.map fun n => n.results (items.drop nodes.length)).getD [])) := by
  obtain ⟨w, he, hl, hm, -⟩ := fits_tuple.mp h
  cases he
  exact (check_tuple hl hm).2

/-- Whether an entry is a pair whose parts fit. -/
def PairFits (key item : Node) (entry : Json) : Prop :=
  ∃ k x, entry = .array [k, x] ∧ key.Fits (some k) ∧ item.Fits (some x)

/-- What becomes of a pair. -/
def pairResult (key item : Node) : Json → Json
  | .array [k, x] => .array [(key.result (some k)).getD .null, (item.result (some x)).getD .null]
  | entry => entry

/-- An entry of a map fits when it is a list of two and its key and its value fit. -/
theorem checkPair_eq_nil {entry : Json} :
    (checkPair (fun v p => key.check (some v) p) (fun v p => item.check (some v) p) entry "").issues
      = [] ↔ PairFits key item entry := by
  unfold checkPair PairFits
  split
  · next k x =>
    simp only [List.append_eq_nil_iff, issues_check_eq_nil]
    refine ⟨fun h => ⟨k, x, rfl, h⟩, ?_⟩
    rintro ⟨_, _, he, h⟩
    cases he
    exact h
  · next hne =>
    refine iff_of_false Outcome.issues_fail_ne ?_
    rintro ⟨k, x, rfl, -⟩
    exact hne k x rfl

theorem value_checkPair {entry : Json} (h : PairFits key item entry) :
    (checkPair (fun v p => key.check (some v) p) (fun v p => item.check (some v) p) entry "").value
      = some (pairResult key item entry) := by
  obtain ⟨k, x, rfl, -⟩ := h
  simp [checkPair, pairResult, value_check]

/-- The entries of a map are checked each on its own. -/
theorem checkPairs_eq (path : String) (entries : List Json) :
    ((checkPairs (checkPair (fun v p => key.check (some v) p) (fun v p => item.check (some v) p))
        path 0 entries).1 = [] ↔ ∀ e ∈ entries, PairFits key item e)
    ∧ ((∀ e ∈ entries, PairFits key item e) →
      (checkPairs (checkPair (fun v p => key.check (some v) p) (fun v p => item.check (some v) p))
        path 0 entries).2 = entries.map (pairResult key item)) := by
  obtain ⟨hi, hv⟩ := checkPairs_of_pathFree
    (checkPair_pathFree (fun v => check_alike key (some v)) (fun v => check_alike item (some v)))
    path 0 entries
  refine ⟨by simp only [hi, checkPair_eq_nil], fun h => ?_⟩
  rw [hv, ← List.filterMap_eq_map]
  exact List.filterMap_congr fun e he => value_checkPair (h e he)

/-- A map fits when all its entries are pairs that fit. -/
theorem fits_map : Fits ⟨.map key item, description⟩ v ↔
    ∃ entries, v = some (.array entries) ∧ ∀ e ∈ entries, PairFits key item e := by
  simp only [Fits, check, Outcome.issues_present]
  constructor
  · rintro ⟨x, rfl, hx⟩
    split at hx
    · exact ⟨_, rfl, (checkPairs_eq _ _).1.mp hx⟩
    · simp at hx
  · rintro ⟨entries, rfl, hx⟩
    exact ⟨_, rfl, (checkPairs_eq _ _).1.mpr hx⟩

theorem result_map {entries : List Json} (h : ∀ e ∈ entries, PairFits key item e) :
    result ⟨.map key item, description⟩ (some (.array entries))
      = some (.array (entries.map (pairResult key item))) := by
  simp only [result, check, Outcome.present_some, (checkPairs_eq _ _).2 h]

/-! ## Records -/

/-- Of a record the keys are checked as strings, and what they are conformed to is dropped. -/
theorem checkFields_record (path : String) (fields : List (String × Json)) :
    ((checkFields (fun k v p => ⟨(key.check (some (.string k)) p).issues
        ++ (item.check (some v) p).issues, (item.check (some v) p).value⟩) path fields).1 = []
      ↔ ∀ f ∈ fields, key.Fits (some (.string f.1)) ∧ item.Fits (some f.2))
    ∧ (checkFields (fun k v p => ⟨(key.check (some (.string k)) p).issues
        ++ (item.check (some v) p).issues, (item.check (some v) p).value⟩) path fields).2
      = fields.filterMap fun f => (item.result (some f.2)).map (f.1, ·) := by
  obtain ⟨hi, hv⟩ := checkFields_of_pathFree
    (checkField_pathFree (check_alike key) (check_alike item)) path fields
  exact ⟨hi.trans (by simp only [List.append_eq_nil_iff, issues_check_eq_nil]), hv⟩

/-- A record fits when all its keys and all its items do. -/
theorem fits_record : Fits ⟨.record key item, description⟩ v ↔
    ∃ fields, v = some (.object fields)
      ∧ ∀ f ∈ fields, key.Fits (some (.string f.1)) ∧ item.Fits (some f.2) := by
  simp only [Fits, check, Outcome.issues_present]
  constructor
  · rintro ⟨x, rfl, hx⟩
    split at hx
    · exact ⟨_, rfl, (checkFields_record _ _).1.mp hx⟩
    · simp at hx
  · rintro ⟨fields, rfl, hx⟩
    exact ⟨_, rfl, (checkFields_record _ _).1.mpr hx⟩

/-- A conformed record keeps its keys and holds the results of its items. -/
theorem result_record {fields : List (String × Json)} :
    result ⟨.record key item, description⟩ (some (.object fields))
      = some (.object (fields.filterMap fun f => (item.result (some f.2)).map (f.1, ·))) := by
  simp only [result, check, Outcome.present_some, (checkFields_record _ _).2]

/-! ## Alternatives -/

variable {branches : List Node}

/-- The branch that is found fits the value, and the value is conformed as by it. -/
theorem firstMatch_eq_some {x : Json} {path : String} {out : Option Json}
    (h : firstMatch branches x path = some out) :
    ∃ b ∈ branches, b.Fits (some x) ∧ out = b.result (some x) := by
  induction branches with
  | nil => simp [firstMatch] at h
  | cons branch rest ih =>
    rw [firstMatch] at h
    split at h
    · next hb =>
      rw [List.isEmpty_iff, issues_check_eq_nil] at hb
      rw [value_check] at h
      exact ⟨branch, List.mem_cons_self, hb, (Option.some.inj h).symm⟩
    · obtain ⟨b, hb, hx⟩ := ih h
      exact ⟨b, List.mem_cons_of_mem _ hb, hx⟩

/-- Where no branch is found, none fits. -/
theorem firstMatch_eq_none {x : Json} {path : String} (h : firstMatch branches x path = none) :
    ∀ b ∈ branches, ¬ b.Fits (some x) := by
  induction branches with
  | nil => simp
  | cons branch rest ih =>
    rw [firstMatch] at h
    split at h
    · simp at h
    · next hb =>
      rw [List.isEmpty_iff, issues_check_eq_nil] at hb
      exact List.forall_mem_cons.mpr ⟨hb, ih h⟩

/-- A value fits a union when it fits a branch; an absent one never does. -/
theorem fits_union : Fits ⟨.union branches, description⟩ v ↔
    ∃ x, v = some x ∧ ∃ b ∈ branches, b.Fits (some x) := by
  simp only [Fits, check, Outcome.issues_present]
  constructor
  · rintro ⟨x, rfl, hx⟩
    split at hx
    · next hm =>
      obtain ⟨b, hb, hf, -⟩ := firstMatch_eq_some hm
      exact ⟨x, rfl, b, hb, hf⟩
    · simp at hx
  · rintro ⟨x, rfl, b, hb, hf⟩
    refine ⟨x, rfl, ?_⟩
    split
    · rfl
    · next hm => exact absurd hf (firstMatch_eq_none hm b hb)

/-- A union takes the result of a branch that the value fits. -/
theorem result_union {x : Json} (h : Fits ⟨.union branches, description⟩ (some x)) :
    ∃ b ∈ branches, b.Fits (some x)
      ∧ result ⟨.union branches, description⟩ (some x) = b.result (some x) := by
  simp only [Fits, result, check, Outcome.present_some] at h ⊢
  split at h
  · next hm => exact firstMatch_eq_some hm
  · simp at h

/-- A value fits an intersection when it fits both sides and the two results go together. -/
theorem fits_intersection : Fits ⟨.intersection left right, description⟩ v ↔
    ∃ x, v = some x ∧ left.Fits v ∧ right.Fits v
      ∧ (mergeResults (left.result v) (right.result v) "").issues = [] := by
  rw [Fits]
  simp only [check, Outcome.issues_present]
  refine exists_congr fun x => and_congr_right fun hx => ?_
  subst hx
  rw [← and_assoc, Fits, Fits]
  split
  · next hc =>
    rw [Bool.and_eq_true, List.isEmpty_iff, List.isEmpty_iff] at hc
    rw [value_check, value_check]
    exact (and_iff_right hc).symm
  · next hc =>
    rw [Bool.and_eq_true, List.isEmpty_iff, List.isEmpty_iff] at hc
    rw [List.append_eq_nil_iff]
    exact iff_of_false hc fun h => hc h.1

/-- It is conformed to the two results, put together. -/
theorem result_intersection {x : Json}
    (h : Fits ⟨.intersection left right, description⟩ (some x)) :
    result ⟨.intersection left right, description⟩ (some x)
      = (mergeResults (left.result (some x)) (right.result (some x)) "").value := by
  obtain ⟨_, _, hl, hr, -⟩ := fits_intersection.mp h
  rw [Fits] at hl hr
  simp only [result, check, Outcome.present_some]
  rw [if_pos (by rw [hl, hr]; rfl)]

end Node

end DocumentModel
