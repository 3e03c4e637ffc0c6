import Mathlib.Data.List.Nodup
import Mathlib.Order.Basic
import DocumentModel.Class.Registry

/-!
# Defining a class

`define?` adds one entry to a registry, under the next number, when the base that is asked for is
known and older (`Registry.exists_of_define?`). In a registry whose numbers were handed out before
(`Registry.Numbered`) a class that is known is older, so a definition fails exactly when its base is
not known (`Registry.define?_eq_error_iff`).
-/

namespace DocumentModel

/-! ## Numbers -/

/-- A built-in class has a number below those of the declared classes. -/
def ClassId.number : ClassId → Nat
  | .builtin c => c.index
  | .declared number => number

theorem BuiltinClass.index_lt_firstNumber (c : BuiltinClass) : c.index < ClassId.firstNumber := by
  cases c <;> decide

theorem BuiltinClass.index_injective {c c' : BuiltinClass} (h : c.index = c'.index) : c = c' := by
  revert h
  cases c <;> cases c' <;> decide

/-- The number says which class it is, if declared classes are numbered from the first number on. -/
theorem ClassId.number_injective {id id' : ClassId} (h : id.number = id'.number)
    (hfirst : ∀ n, id = .declared n → ClassId.firstNumber ≤ n)
    (hfirst' : ∀ n, id' = .declared n → ClassId.firstNumber ≤ n) : id = id' := by
  cases id with
  | builtin c =>
    cases id' with
    | builtin c' => rw [BuiltinClass.index_injective h]
    | declared n' =>
      have hlt : n' < ClassId.firstNumber := Eq.trans_lt h.symm c.index_lt_firstNumber
      exact absurd (hfirst' n' rfl) (Nat.not_le_of_lt hlt)
  | declared n =>
    cases id' with
    | builtin c' =>
      have hlt : n < ClassId.firstNumber := Eq.trans_lt h c'.index_lt_firstNumber
      exact absurd (hfirst n rfl) (Nat.not_le_of_lt hlt)
    | declared n' => exact congrArg ClassId.declared h

namespace Registry

variable {r r' : Registry} {numbers numbers' : ClassNumbers} {name : String} {id b : ClassId}
  {base : Option ClassId} {e : ClassEntry}

/-! ## What a definition does -/

/-- **A class that is defined is one new entry**, with the name and the base that were asked for. -/
theorem exists_of_define? (h : r.define? numbers name base = .ok (id, r', numbers')) :
    ∃ e : ClassEntry, e.number = numbers.next ∧ e.name = name ∧ e.base = base
      ∧ (∀ b ∈ base, r.contains b = true) ∧ id = .declared numbers.next
      ∧ r' = { r with classes := r.classes ++ [e] } ∧ numbers' = ⟨numbers.next + 1⟩ := by
  unfold define? at h
  cases base with
  | none =>
    cases h
    exact ⟨_, rfl, rfl, rfl, nofun, rfl, rfl, rfl⟩
  | some b =>
    cases b with
    | builtin c =>
      cases h
      refine ⟨_, rfl, rfl, rfl, ?_, rfl, rfl, rfl⟩
      rintro _ ⟨⟩
      rfl
    | declared n =>
      dsimp only at h
      split at h
      · next hn =>
        cases h
        refine ⟨_, rfl, rfl, rfl, ?_, rfl, rfl, rfl⟩
        rintro _ ⟨⟩
        exact hn.1
      · cases h

theorem exists_of_define?_eq_error {err : SchemaError}
    (h : r.define? numbers name base = .error err) :
    ∃ n, base = some (.declared n) ∧ ¬ (r.contains (.declared n) = true ∧ n < numbers.next)
      ∧ err = .unknownBase (.declared n) name := by
  unfold define? at h
  cases base with
  | none => cases h
  | some b =>
    cases b with
    | builtin c => cases h
    | declared n =>
      dsimp only at h
      split at h
      · cases h
      · next hn =>
        cases h
        exact ⟨n, rfl, hn, rfl⟩

/-! ## Which classes are known -/

/-- A new entry is found under its own number only, and only if nothing was there. -/
theorem entry?_append (r : Registry) (e : ClassEntry) (number : Nat) :
    Registry.entry? { r with classes := r.classes ++ [e] } number
      = (r.entry? number).or (if e.number = number then some e else none) := by
  unfold entry?
  rw [List.find?_append, List.find?_singleton]
  by_cases h : e.number = number
  · rw [if_pos h, if_pos (beq_iff_eq.mpr h)]
  · rw [if_neg h, if_neg (fun hb => h (beq_iff_eq.mp hb))]

theorem contains_declared_iff {number : Nat} :
    r.contains (.declared number) = true ↔ ∃ e ∈ r.classes, e.number = number := by
  rw [contains, entry?, List.find?_isSome]
  simp only [beq_iff_eq]

/-- One more class is known. -/
theorem contains_append_iff : { r with classes := r.classes ++ [e] }.contains id = true
    ↔ r.contains id = true ∨ id = .declared e.number := by
  cases id with
  | builtin c => exact iff_of_true rfl (Or.inl rfl)
  | declared number =>
    rw [contains_declared_iff, contains_declared_iff]
    rw [ClassId.declared.injEq, @eq_comm Nat number]
    simp only [List.mem_append, List.mem_singleton, or_and_right, exists_or, exists_eq_left]

/-! ## Which numbers are used -/

/-- Every class of a registry has a number of its own, of those that were handed out before. -/
structure Numbered (r : Registry) (next : Nat) : Prop where
  first : ∀ e ∈ r.classes, ClassId.firstNumber ≤ e.number
  below : ∀ e ∈ r.classes, e.number < next
  once : (r.classes.map (·.number)).Nodup

namespace Numbered

theorem empty (next : Nat) : ({} : Registry).Numbered next :=
  ⟨nofun, nofun, List.nodup_nil⟩

variable {next next' : Nat}

theorem mono (h : r.Numbered next) (hle : next ≤ next') : r.Numbered next' where
  first := h.first
  below e he := Nat.lt_of_lt_of_le (h.below e he) hle
  once := h.once

/-- **The next number may be used once.** -/
theorem append (h : r.Numbered next) (hfirst : ClassId.firstNumber ≤ next) (he : e.number = next) :
    { r with classes := r.classes ++ [e] }.Numbered (next + 1) where
  first := by
    intro x hx
    rcases List.mem_append.mp hx with hx | hx
    · exact h.first x hx
    · rw [List.mem_singleton.mp hx, he]
      exact hfirst
  below := by
    intro x hx
    rcases List.mem_append.mp hx with hx | hx
    · exact Nat.lt_succ_of_lt (h.below x hx)
    · rw [List.mem_singleton.mp hx, he]
      exact Nat.lt_succ_self next
  once := by
    rw [List.map_append, List.map_singleton]
    refine List.Nodup.append h.once (List.nodup_singleton _) ?_
    rw [List.disjoint_singleton, he]
    intro hm
    obtain ⟨x, hx, hnext⟩ := List.mem_map.mp hm
    exact Nat.ne_of_lt (h.below x hx) hnext

end Numbered

/-- **A definition fails exactly when its base is not known**, as a class that is known has a
smaller number. -/
theorem define?_eq_error_iff (hr : r.Numbered numbers.next) :
    (∃ e, r.define? numbers name base = .error e) ↔ ∃ b ∈ base, r.contains b = false := by
  constructor
  · rintro ⟨e, h⟩
    obtain ⟨n, rfl, hn, -⟩ := exists_of_define?_eq_error h
    refine ⟨.declared n, rfl, Bool.eq_false_iff.mpr fun hknown => ?_⟩
    obtain ⟨entry, hentry, rfl⟩ := contains_declared_iff.mp hknown
    exact hn ⟨hknown, hr.below entry hentry⟩
  · rintro ⟨b, hb, hunknown⟩
    cases h : r.define? numbers name base with
    | ok result =>
      obtain ⟨-, -, -, -, hknown, -⟩ := exists_of_define? h
      rw [hknown b hb] at hunknown
      cases hunknown
    | error e => exact ⟨e, rfl⟩

/-! ## Bases -/

/-- Every base is known. -/
def BasesKnown (r : Registry) : Prop := ∀ e ∈ r.classes, ∀ b ∈ e.base, r.contains b = true

theorem basesKnown_empty : ({} : Registry).BasesKnown := by simp [BasesKnown]

theorem BasesKnown.append (h : r.BasesKnown) (hb : ∀ b ∈ e.base, r.contains b = true) :
    { r with classes := r.classes ++ [e] }.BasesKnown := by
  intro x hx b hxb
  rcases List.mem_append.mp hx with hx | hx
  · exact contains_append_iff.mpr (Or.inl (h x hx b hxb))
  · rw [List.mem_singleton.mp hx] at hxb
    exact contains_append_iff.mpr (Or.inl (hb b hxb))

/-- **Declaring a class keeps every base known.** From the empty registry on, no base is unknown. -/
theorem BasesKnown.define? (h : r.BasesKnown)
    (hd : r.define? numbers name base = .ok (id, r', numbers')) : r'.BasesKnown := by
  obtain ⟨e, -, -, he, hb, -, rfl, -⟩ := exists_of_define? hd
  exact h.append (he ▸ hb)

theorem entry_of_base? (h : r.base? id = some b) :
    ∃ e ∈ r.classes, id = .declared e.number ∧ e.base = some b := by
  cases id with
  | builtin c => cases h
  | declared number =>
    obtain ⟨e, he, hb⟩ := Option.bind_eq_some_iff.mp h
    have hnumber := number_of_entry? he
    exact ⟨e, List.mem_of_find?_eq_some he, congrArg ClassId.declared hnumber.symm, hb⟩

/-- **A base is known to the registry of its class.** -/
theorem BasesKnown.contains_base (h : r.BasesKnown) (hb : r.base? id = some b) :
    r.contains b = true := by
  obtain ⟨e, he, -, heb⟩ := entry_of_base? hb
  exact h e he b heb

/-- **A base has a smaller number than its class.** -/
theorem Numbered.base_lt {next : Nat} (hr : r.Numbered next) (hb : r.base? id = some b) :
    b.number < id.number := by
  obtain ⟨e, he, rfl, heb⟩ := entry_of_base? hb
  cases b with
  | builtin c => exact Nat.lt_of_lt_of_le c.index_lt_firstNumber (hr.first e he)
  | declared n => exact e.base_lt n heb

end Registry

end DocumentModel
