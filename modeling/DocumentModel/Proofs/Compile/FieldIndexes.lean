import DocumentModel.Compile.Indexes
import DocumentModel.Proofs.Compile.Steps

/-!
# Indexes of one field

What a field asks for in terms of the index that it wants where its class stands: nothing, if there
is none, and else a description of its own, followed by the indexes of the class that it passes
through to.
-/

namespace DocumentModel

/-- The index that a field wants. Where its class is nested in another, one that is excluded does
not count. -/
def FieldDeclaration.wanted? (d : FieldDeclaration) (nested : Bool) : Option IndexSpec :=
  d.index.filter fun index => !(nested && index.exclude)

variable {r : Registry}
  {classIndexes : ClassId → String → Except SchemaError (List IndexDescription)} {owner : ClassId}
  {parent : Option String} {d : FieldDeclaration} {index : IndexSpec}

theorem FieldDeclaration.wanted?_of_none (hi : d.index = none) (nested : Bool) :
    d.wanted? nested = none := by
  rw [wanted?, hi, Option.filter_none]

/-- An excluded index is wanted where the field stands at the top. -/
theorem FieldDeclaration.wanted?_of_some (hi : d.index = some index) (nested : Bool) :
    d.wanted? nested = if nested && index.exclude then none else some index := by
  rw [wanted?, hi, Option.filter_some]
  cases nested && index.exclude <;> rfl

/-- What is wanted of a field is the index it declares. -/
theorem FieldDeclaration.index_of_wanted? {nested : Bool} (h : d.wanted? nested = some index) :
    d.index = some index :=
  (Option.filter_eq_some_iff.mp h).1

/-- A field without an index that is wanted has none, whatever it refers to. -/
theorem fieldIndexes_of_none (h : d.wanted? parent.isSome = none) :
    fieldIndexes r classIndexes owner parent d = .ok [] := by
  unfold fieldIndexes
  cases hi : d.index with
  | none => rfl
  | some index =>
    rw [d.wanted?_of_some hi] at h
    split at h
    · next hx =>
      dsimp only
      rw [if_pos hx]
      rfl
    · cases h

theorem fieldIndexes_of_some (h : d.wanted? parent.isSome = some index) :
    fieldIndexes r classIndexes owner parent d
      = match IndexDescription.ofSpec? (indexPath parent d.name) index with
        | .error direction => .error (.invalidDirection direction)
        | .ok own => match d.embedded? index with
          | none => .ok [own]
          | some target =>
            if target = owner then
              .error (.circularReference (r.displayName owner ++ "." ++ d.name))
            else (own :: ·) <$> classIndexes target (indexPath parent d.name) := by
  obtain ⟨hi, hx⟩ := Option.filter_eq_some_iff.mp h
  unfold fieldIndexes
  rw [hi]
  dsimp only
  rw [Bool.not_eq_true', ← Bool.not_eq_true] at hx
  rw [if_neg hx]
  rfl

/-- **A field that has its indexes has described its own and found those that it passes through
to.** -/
theorem exists_of_fieldIndexes_eq_ok {indexes : List IndexDescription}
    (h : d.wanted? parent.isSome = some index)
    (hok : fieldIndexes r classIndexes owner parent d = .ok indexes) :
    ∃ own beneath, IndexDescription.ofSpec? (indexPath parent d.name) index = .ok own
      ∧ indexes = own :: beneath
      ∧ (d.embedded? index = none ∧ beneath = []
        ∨ ∃ target, d.embedded? index = some target ∧ target ≠ owner
          ∧ classIndexes target (indexPath parent d.name) = .ok beneath) := by
  rw [fieldIndexes_of_some h] at hok
  split at hok
  · cases hok
  · next own hown =>
    split at hok
    · next he =>
      cases hok
      exact ⟨own, [], hown, rfl, Or.inl ⟨he, rfl⟩⟩
    · next target he =>
      split at hok
      · cases hok
      · next hne =>
        obtain ⟨beneath, hbeneath, rfl⟩ := map_eq_ok_iff.mp hok
        exact ⟨own, beneath, hown, rfl, Or.inr ⟨target, he, hne, hbeneath⟩⟩

/-- **A field fails for its direction, for passing through to its own class, or with the class that
it passes through to.** -/
theorem exists_of_fieldIndexes_eq_error {e : SchemaError}
    (herror : fieldIndexes r classIndexes owner parent d = .error e) :
    ∃ index, d.wanted? parent.isSome = some index
      ∧ ((∃ direction, IndexDescription.ofSpec? (indexPath parent d.name) index = .error direction
          ∧ e = .invalidDirection direction)
        ∨ ∃ target, d.embedded? index = some target
          ∧ (target = owner ∧ e = .circularReference (r.displayName owner ++ "." ++ d.name)
            ∨ classIndexes target (indexPath parent d.name) = .error e)) := by
  cases h : d.wanted? parent.isSome with
  | none =>
    rw [fieldIndexes_of_none h] at herror
    cases herror
  | some index =>
    refine ⟨index, rfl, ?_⟩
    rw [fieldIndexes_of_some h] at herror
    split at herror
    · next direction hd =>
      cases herror
      exact Or.inl ⟨direction, hd, rfl⟩
    · split at herror
      · cases herror
      · next target he =>
        split at herror
        · next hself =>
          cases herror
          exact Or.inr ⟨target, he, Or.inl ⟨hself, rfl⟩⟩
        · exact Or.inr ⟨target, he, Or.inr (map_eq_error_iff.mp herror)⟩

end DocumentModel
