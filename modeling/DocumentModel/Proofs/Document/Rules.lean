import DocumentModel.Document.Equality
import DocumentModel.Proofs.Document.Marking
import DocumentModel.Proofs.Document.WellFormed

/-!
# Rules and what they are written as

A document is written with the rules it has, each under a key of its own (`Document.written_eq`), so
that two documents are written alike exactly if they agree rule by rule
(`Document.same_present_iff`). What a rule has to say is a text, a number, a truth value or a list
of these, and no two of them are written alike.
-/

namespace DocumentModel

namespace Document

variable {d e : Document}

/-! ## Rules under their keys -/

/-- The rules that are present. -/
def present (rs : List (String × Option Json)) : List (String × Json) :=
  rs.flatMap fun r => field? r.1 r.2

variable {rs ts : List (String × Option Json)}

theorem present_cons (key : String) (value : Option Json) :
    present ((key, value) :: rs) = field? key value ++ present rs :=
  List.flatMap_cons

/-- The keys of the rules that are present stand in the order of all rules. -/
theorem keys_present_sublist (rs : List (String × Option Json)) :
    ((present rs).map Prod.fst).Sublist (rs.map Prod.fst) := by
  induction rs with
  | nil => exact List.Sublist.slnil
  | cons r rest ih =>
    obtain ⟨key, value⟩ := r
    rw [present_cons]
    cases value with
    | none => exact ih.cons key
    | some v => exact ih.cons_cons key

/-- At the key of a rule a document has what the rule states, if anything. -/
theorem findField?_present (hnd : (rs.map Prod.fst).Nodup) (key : String) :
    Json.findField? key (present rs) = (Json.findField? key rs).join := by
  induction rs with
  | nil => rfl
  | cons r rest ih =>
    obtain ⟨k, value⟩ := r
    obtain ⟨hk, hrest⟩ := List.nodup_cons.mp hnd
    rw [present_cons, Json.findField?_append, Json.findField?, ih hrest]
    by_cases he : k = key
    · subst he
      have hnone : Json.findField? k rest = none := Json.findField?_eq_none_iff.mpr hk
      rw [hnone, if_pos rfl]
      cases value <;> simp [field?, Json.findField?]
    · rw [if_neg he]
      cases value <;> simp [field?, Json.findField?, he]

/-- The rules with sorted values. -/
def sortedRules (rs : List (String × Option Json)) : List (String × Option Json) :=
  rs.map fun r => (r.1, r.2.map Json.sorted)

theorem keys_sortedRules (rs : List (String × Option Json)) :
    (sortedRules rs).map Prod.fst = rs.map Prod.fst := by
  rw [sortedRules, List.map_map]
  rfl

/-- Sorting the values of rules leaves out none of them. -/
theorem sortedFields_present (rs : List (String × Option Json)) :
    Json.sortedFields (present rs) = present (sortedRules rs) := by
  induction rs with
  | nil => rfl
  | cons r rest ih =>
    obtain ⟨key, value⟩ := r
    rw [sortedRules, List.map_cons, present_cons, present_cons, ← sortedRules, ← ih]
    cases value <;> rfl

/-- What is found under a key is the value of the rule with that key. -/
theorem findField?_sorted_present (hnd : (rs.map Prod.fst).Nodup) (key : String) :
    Json.findField? key (Json.sortFields (Json.sortedFields (present rs)))
      = (Json.findField? key (sortedRules rs)).join := by
  rw [← keys_sortedRules] at hnd
  rw [sortedFields_present, Json.findField?_sortFields,
    Json.findField?_reverse ((keys_present_sublist _).nodup hnd), findField?_present hnd]

/-- With one list of keys, agreeing at every key is agreeing rule by rule. -/
theorem forall_rel_join_iff {R : Json → Json → Prop} (hk : rs.map Prod.fst = ts.map Prod.fst)
    (hnd : (rs.map Prod.fst).Nodup) :
    (∀ key, Option.Rel R (Json.findField? key rs).join (Json.findField? key ts).join)
      ↔ List.Forall₂ (fun r t => Option.Rel R r.2 t.2) rs ts := by
  induction rs generalizing ts with
  | nil =>
    obtain rfl := List.map_eq_nil_iff.mp hk.symm
    exact iff_of_true (fun _ => .none) .nil
  | cons r rest ih =>
    cases ts with
    | nil => cases hk
    | cons t rest' =>
      obtain ⟨key, value⟩ := r
      obtain ⟨key', value'⟩ := t
      rw [List.map_cons, List.map_cons, List.cons.injEq] at hk
      obtain ⟨rfl, hk⟩ := hk
      obtain ⟨hkey, hrest⟩ := List.nodup_cons.mp hnd
      have hnone : Json.findField? key rest = none := Json.findField?_eq_none_iff.mpr hkey
      have hnone' : Json.findField? key rest' = none :=
        Json.findField?_eq_none_iff.mpr (hk ▸ hkey)
      rw [List.forall₂_cons, ← ih hk hrest]
      constructor
      · intro h
        refine ⟨by simpa [Json.findField?] using h key, fun k => ?_⟩
        by_cases he : key = k
        · subst he
          rw [hnone, hnone']
          exact .none
        · simpa [Json.findField?, he] using h k
      · rintro ⟨hvalue, h⟩ k
        by_cases he : key = k
        · simpa [Json.findField?, he] using hvalue
        · simpa [Json.findField?, he] using h k

/-- Two values of a rule are both absent, or equal in sorted form. -/
def Agree (x y : Option Json) : Prop :=
  Option.Rel (fun v w => v.same w = true) (x.map Json.sorted) (y.map Json.sorted)

/-- Two rules that are there agree when they are written as equal values. -/
theorem agree_some_iff {v w : Json} :
    Agree (some v) (some w) ↔ v.sorted.same w.sorted = true := by
  simp [Agree]

theorem agree_none : Agree none none := .none

/-- A rule that is there agrees with none that is absent. -/
theorem not_agree_none_some {v : Json} : ¬Agree none (some v) := by simp [Agree]

theorem not_agree_some_none {v : Json} : ¬Agree (some v) none := by simp [Agree]

/-- **Rules with the same keys are written alike exactly if they agree one by one.** -/
theorem same_present_iff (hk : rs.map Prod.fst = ts.map Prod.fst) (hnd : (rs.map Prod.fst).Nodup) :
    (Json.object (present rs)).sorted.same (Json.object (present ts)).sorted = true
      ↔ List.Forall₂ (fun r t => Agree r.2 t.2) rs ts := by
  rw [Json.sorted, Json.sorted,
    Json.same_object_iff (Json.ascending_sortFields _) (Json.ascending_sortFields _)]
  simp only [findField?_sorted_present hnd, findField?_sorted_present (hk ▸ hnd)]
  rw [forall_rel_join_iff (by rw [keys_sortedRules, keys_sortedRules, hk])
      (by rwa [keys_sortedRules]),
    sortedRules, sortedRules, List.forall₂_map_left_iff, List.forall₂_map_right_iff]
  rfl

/-- Nothing is written where no rule is there. -/
theorem present_eq_nil_iff : present rs = [] ↔ ∀ r ∈ rs, r.2 = none := by
  rw [present, List.flatMap_eq_nil_iff]
  refine forall_congr' fun r => imp_congr_right fun _ => ?_
  cases r.2 <;> simp [field?]

/-! ## Rules of documents -/

/-- The rules of a document, each under its key. -/
def rules (d : Document) : List (String × Option Json) :=
  [("title", d.title.map Json.string),
    ("description", d.description.map Json.string),
    ("bsonType", d.bsonType.map BsonTypes.toJson),
    ("enum", d.enumeration.map Json.array),
    ("multipleOf", d.multipleOf.map Json.number),
    ("minimum", d.minimum.map Json.number),
    ("exclusiveMinimum", d.exclusiveMinimum.map Json.bool),
    ("maximum", d.maximum.map Json.number),
    ("exclusiveMaximum", d.exclusiveMaximum.map Json.bool),
    ("minLength", d.minLength.map Json.ofNat),
    ("maxLength", d.maxLength.map Json.ofNat),
    ("pattern", d.pattern.map Json.string),
    ("items", writtenItems d.items),
    ("additionalItems", writtenExtra d.additionalItems),
    ("minItems", d.minItems.map Json.ofNat),
    ("maxItems", d.maxItems.map Json.ofNat),
    ("uniqueItems", d.uniqueItems.map Json.bool),
    ("required", d.required.map fun keys => .array (keys.map Json.string)),
    ("properties", writtenProperties d.properties),
    ("additionalProperties", writtenExtra d.additionalProperties),
    ("allOf", writtenDocuments d.allOf),
    ("anyOf", writtenDocuments d.anyOf),
    ("oneOf", writtenDocuments d.oneOf),
    ("not", writtenSome d.no)]

/-- Every rule has a key of its own. -/
theorem nodup_keys_rules (d : Document) : (d.rules.map Prod.fst).Nodup := by
  simp [rules]

/-- **A document is written as the object of the rules it has.** -/
theorem written_eq (d : Document) : d.written = .object (present d.rules) := by
  cases d
  rw [written]
  simp only [rules, present_cons, List.append_assoc]
  simp [present]

/-! ## Comparing values of rules -/

section

variable {α : Type} {x y : Option α} {f : α → Json}

/-- Rules agree as far as the writing of what they state tells them apart. -/
theorem agree_map_iff {r : α → α → Bool}
    (h : ∀ a ∈ x, ∀ b ∈ y, (f a).sorted.same (f b).sorted = true ↔ r a b = true) :
    Agree (x.map f) (y.map f) ↔ sameOption r x y = true := by
  cases x with
  | none => cases y <;> simp [Agree, sameOption]
  | some a =>
    cases y with
    | none => simp [Agree, sameOption]
    | some b => simpa [Agree, sameOption] using h a rfl b rfl

/-- They are equal when the writing tells all of them apart. -/
theorem agree_map_iff_eq (h : ∀ a b, (f a).sorted.same (f b).sorted = true ↔ a = b) :
    Agree (x.map f) (y.map f) ↔ x = y := by
  cases x <;> cases y <;> simp [Agree, h]

end

theorem agree_strings_iff {x y : Option String} :
    Agree (x.map Json.string) (y.map Json.string) ↔ x = y :=
  agree_map_iff_eq fun _ _ => beq_iff_eq

theorem agree_bools_iff {x y : Option Bool} :
    Agree (x.map Json.bool) (y.map Json.bool) ↔ x = y :=
  agree_map_iff_eq fun _ _ => beq_iff_eq

theorem agree_lengths_iff {x y : Option Nat} :
    Agree (x.map Json.ofNat) (y.map Json.ofNat) ↔ x = y :=
  agree_map_iff_eq fun _ _ => beq_iff_eq.trans Int.ofNat_inj

/-- Numbers are written as numbers, which agree when they are the same number. -/
theorem agree_numbers_iff {x y : Option JsonNumber} :
    Agree (x.map Json.number) (y.map Json.number) ↔ sameOption JsonNumber.same x y = true :=
  agree_map_iff fun _ _ _ _ => Iff.rfl

/-- Names are written in their order, so the order counts. -/
theorem agree_required_iff {x y : Option (List String)} :
    Agree (x.map fun keys => .array (keys.map Json.string))
      (y.map fun keys => .array (keys.map Json.string)) ↔ x = y := by
  refine agree_map_iff_eq fun keys keys' => ?_
  rw [Json.sorted_array_map fun _ => rfl, Json.sorted_array_map fun _ => rfl, Json.same]
  exact Json.sameItems_map_iff_eq fun _ _ => beq_iff_eq

/-- One type is a text and several ones a list, of whatever length. -/
theorem same_toJson_iff (types types' : BsonTypes) :
    types.toJson.sorted.same types'.toJson.sorted = true ↔ types = types' := by
  have hname : ∀ t t' : BsonType,
      (Json.string t.name).same (.string t'.name) = true ↔ t = t' := fun t t' =>
    beq_iff_eq.trans BsonType.name_injective.eq_iff
  match types, types' with
  | .one t, .one t' =>
    rw [BsonTypes.one.injEq]
    exact hname t t'
  | .many ts, .many ts' =>
    rw [BsonTypes.toJson, BsonTypes.toJson, Json.sorted_array_map fun _ => rfl,
      Json.sorted_array_map fun _ => rfl, Json.same, BsonTypes.many.injEq]
    exact Json.sameItems_map_iff_eq hname
  | .one _, .many _ | .many _, .one _ => exact iff_of_false nofun nofun

/-- Listed values agree one by one, in their order. -/
theorem agree_enumeration_iff {x y : Option (List Json)}
    (hx : ∀ values ∈ x, ∀ v ∈ values, v.sorted = v)
    (hy : ∀ values ∈ y, ∀ v ∈ values, v.sorted = v) :
    Agree (x.map Json.array) (y.map Json.array) ↔ sameOption Json.sameItems x y = true := by
  refine agree_map_iff fun values hv values' hv' => ?_
  rw [Json.sorted_array_of_forall (hx values hv), Json.sorted_array_of_forall (hy values' hv')]
  exact Iff.rfl

end Document

end DocumentModel
