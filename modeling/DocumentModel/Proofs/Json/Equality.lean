import DocumentModel.Json.Basic

/-!
# Equality of values

`Json.same` compares values with numbers taken by their size. It is symmetric and transitive; a
number that is none at all is the only value that differs from itself.
-/

namespace DocumentModel

/-! ## Numbers -/

/-- Equality of binary numbers is symmetric. -/
theorem Binary64.same_symm {x y : Binary64} (h : x.same y = true) : y.same x = true := by
  cases x <;> cases y <;> simp_all [Binary64.same]

/-- It is transitive, also between the two zeros. -/
theorem Binary64.same_trans {x y z : Binary64} (h : x.same y = true) (h' : y.same z = true) :
    x.same z = true := by
  cases x <;> cases y <;> cases z <;> simp_all [Binary64.same]

/-- An integer equals no fraction, and two numbers of one kind are compared by their values. -/
theorem JsonNumber.same_symm {m n : JsonNumber} (h : m.same n = true) : n.same m = true := by
  cases m <;> cases n <;> simp_all [JsonNumber.same, Binary64.same_symm]

theorem JsonNumber.same_trans {k m n : JsonNumber} (h : k.same m = true) (h' : m.same n = true) :
    k.same n = true := by
  cases k <;> cases m <;> cases n <;> simp_all [JsonNumber.same]
  exact Binary64.same_trans h h'

/-! ## Values -/

namespace Json

mutual

/-- **Equality of values is symmetric**, which needs the same of lists and of fields. -/
theorem same_symm : ∀ {v w : Json}, v.same w = true → w.same v = true
  | .null, w, h => by cases w <;> simp_all [same]
  | .bool a, w, h => by cases w <;> simp_all [same]
  | .number a, w, h => by cases w <;> simp_all [same, JsonNumber.same_symm]
  | .string a, w, h => by cases w <;> simp_all [same]
  | .array as, w, h => by
    cases w with
    | array bs => exact sameItems_symm (by simpa [same] using h)
    | _ => simp [same] at h
  | .object as, w, h => by
    cases w with
    | object bs => exact sameFields_symm (by simpa [same] using h)
    | _ => simp [same] at h

theorem sameItems_symm : ∀ {as bs : List Json}, sameItems as bs = true → sameItems bs as = true
  | [], bs, h => by cases bs <;> simp_all [sameItems]
  | a :: as, bs, h => by
    cases bs with
    | nil => simp [sameItems] at h
    | cons b bs =>
      simp only [sameItems, Bool.and_eq_true] at h ⊢
      exact ⟨same_symm h.1, sameItems_symm h.2⟩

theorem sameFields_symm : ∀ {as bs : List (String × Json)},
    sameFields as bs = true → sameFields bs as = true
  | [], bs, h => by cases bs <;> simp_all [sameFields]
  | (k, a) :: as, bs, h => by
    cases bs with
    | nil => simp [sameFields] at h
    | cons b bs =>
      simp only [sameFields, Bool.and_eq_true, beq_iff_eq] at h ⊢
      exact ⟨⟨h.1.1.symm, same_symm h.1.2⟩, sameFields_symm h.2⟩

end

/-- Two values are compared in either order. -/
theorem same_comm {v w : Json} : v.same w = w.same v :=
  Bool.eq_iff_iff.mpr ⟨same_symm, same_symm⟩

mutual

/-- **Equality of values is transitive.** It is not reflexive, since a number need not equal
itself. -/
theorem same_trans : ∀ {u v w : Json}, u.same v = true → v.same w = true → u.same w = true
  | .null, v, w, h, h' => by cases v <;> cases w <;> simp_all [same]
  | .bool a, v, w, h, h' => by cases v <;> cases w <;> simp_all [same]
  | .number a, v, w, h, h' => by
    cases v <;> cases w <;> simp_all [same]
    exact JsonNumber.same_trans h h'
  | .string a, v, w, h, h' => by cases v <;> cases w <;> simp_all [same]
  | .array as, v, w, h, h' => by
    cases v with
    | array bs =>
      cases w with
      | array cs => exact sameItems_trans (by simpa [same] using h) (by simpa [same] using h')
      | _ => simp [same] at h'
    | _ => simp [same] at h
  | .object as, v, w, h, h' => by
    cases v with
    | object bs =>
      cases w with
      | object cs => exact sameFields_trans (by simpa [same] using h) (by simpa [same] using h')
      | _ => simp [same] at h'
    | _ => simp [same] at h

theorem sameItems_trans : ∀ {as bs cs : List Json},
    sameItems as bs = true → sameItems bs cs = true → sameItems as cs = true
  | [], bs, cs, h, h' => by cases bs <;> cases cs <;> simp_all [sameItems]
  | a :: as, bs, cs, h, h' => by
    cases bs with
    | nil => simp [sameItems] at h
    | cons b bs =>
      cases cs with
      | nil => simp [sameItems] at h'
      | cons c cs =>
        simp only [sameItems, Bool.and_eq_true] at h h' ⊢
        exact ⟨same_trans h.1 h'.1, sameItems_trans h.2 h'.2⟩

theorem sameFields_trans : ∀ {as bs cs : List (String × Json)},
    sameFields as bs = true → sameFields bs cs = true → sameFields as cs = true
  | [], bs, cs, h, h' => by cases bs <;> cases cs <;> simp_all [sameFields]
  | (k, a) :: as, bs, cs, h, h' => by
    cases bs with
    | nil => simp [sameFields] at h
    | cons b bs =>
      cases cs with
      | nil => simp [sameFields] at h'
      | cons c cs =>
        simp only [sameFields, Bool.and_eq_true, beq_iff_eq] at h h' ⊢
        exact ⟨⟨h.1.1.trans h'.1.1, same_trans h.1.2 h'.1.2⟩, sameFields_trans h.2 h'.2⟩

end

/-! ## Membership -/

/-- A value is in a list when an entry of the list equals it. -/
theorem isIn_iff {v : Json} {values : List Json} :
    isIn v values = true ↔ ∃ w ∈ values, w.same v = true := by
  simp [isIn]

/-- Among texts this is membership. -/
theorem isIn_strings {s : String} {texts : List String} :
    isIn (.string s) (texts.map .string) = true ↔ s ∈ texts := by
  simp [isIn, same]

end Json

end DocumentModel
