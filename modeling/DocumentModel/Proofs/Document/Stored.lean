import DocumentModel.Database
import DocumentModel.Proofs.Database.Recording
import DocumentModel.Proofs.Document.Writing

/-!
# Validators that are found in place

A collection is left as it is where it has the validator it should have, and the two are compared as
values. The values of documents determine the documents, so that the comparison finds the same
document and no other one (`Document.toJson_faithful`).
-/

namespace DocumentModel

/-! ## Stored validators -/

namespace CollectionAdmin

variable {σ ε : Type} {db : CollectionAdmin σ ε} {collection : String} {validator : Json} {s s' : σ}

/-- A collection is left as it is only where it has a validator that is the one it should have. -/
theorem yields_unchanged_iff :
    (db.ensureValidator collection validator).Yields s .unchanged s' ↔
      ∃ s₁ stored, (db.collectionExists collection).Yields s true s₁
        ∧ (db.collectionValidator collection).Yields s₁ (some stored) s'
        ∧ stored.same validator = true := by
  constructor
  · intro h
    obtain ⟨there, s₁, hthere, h⟩ := Command.yields_bind_iff.mp h
    cases there with
    | false =>
      obtain ⟨_, s₂, -, h⟩ := Command.yields_bind_iff.mp h
      cases h
    | true =>
      obtain ⟨current, s₂, hcurrent, h⟩ := Command.yields_bind_iff.mp h
      split at h
      · next hany =>
        cases h
        cases current with
        | none => cases hany
        | some stored => exact ⟨s₁, stored, hthere, hcurrent, hany⟩
      · obtain ⟨_, s₃, -, h⟩ := Command.yields_bind_iff.mp h
        cases h
  · rintro ⟨s₁, stored, hthere, hcurrent, hsame⟩
    refine hthere.bind (hcurrent.bind ?_)
    rw [Option.any_some, hsame]
    exact Command.yields_pure _ _

end CollectionAdmin

namespace Document

variable {a b : Document}

theorem same_validator (ha : a.Throughout InOrder) (hb : b.Throughout InOrder) :
    b.validator.same a.validator = true ↔ b.same a = true := by
  rw [← toJson_same_iff hb ha, validator, validator, Json.same, Json.sameFields]
  simp [Json.sameFields]

/-- **The value of a document determines the document.** The values of two documents are equal
exactly if the documents are, only a document without rules is written as `{}`, and a collection is
left as it is only where the validator found there is the wanted one: if the validator is that of a
document, the two documents are the same. -/
theorem toJson_faithful (ha : a.Throughout InOrder) (hb : b.Throughout InOrder) :
    a.toJson.same b.toJson = a.same b
    ∧ (a.toJson = .object [] ↔ a.isEmpty = true) ∧ a.isEmpty = a.same {}
    ∧ ∀ {σ ε : Type} (db : CollectionAdmin σ ε) (collection : String) (s s' : σ),
      ((db.ensureValidator collection a.validator).Yields s .unchanged s' →
        ∃ s₁ stored, (db.collectionExists collection).Yields s true s₁
          ∧ (db.collectionValidator collection).Yields s₁ (some stored) s'
          ∧ stored.same a.validator = true)
      ∧ ∀ s₁, (db.collectionExists collection).Yields s true s₁ →
        (db.collectionValidator collection).Yields s₁ (some b.validator) s' →
        ((db.ensureValidator collection a.validator).Yields s .unchanged s' ↔ b.same a = true) := by
  refine ⟨Bool.eq_iff_iff.mpr (toJson_same_iff ha hb), toJson_eq_empty_iff, isEmpty_eq_same ha, ?_⟩
  intro σ ε db collection s s'
  refine ⟨CollectionAdmin.yields_unchanged_iff.mp, fun s₁ hthere hstored => ?_⟩
  rw [CollectionAdmin.yields_unchanged_iff, ← same_validator ha hb]
  constructor
  · rintro ⟨s₂, stored, hthere', hstored', hsame⟩
    obtain ⟨-, rfl⟩ := hthere.unique hthere'
    obtain ⟨hvalidator, -⟩ := hstored.unique hstored'
    rwa [Option.some.inj hvalidator]
  · intro hsame
    exact ⟨s₁, b.validator, hthere, hstored, hsame⟩

/-- A name, and perhaps an age. -/
def person : Document :=
  { ofType .object with
    properties := some [("age", ofType .int), ("name", ofType .string)], required := some ["name"] }

/-- The same without any other key. -/
def closedPerson : Document := { person with additionalProperties := some (.allowed false) }

/-- Where further keys are refused, the document that allows them is not in place. -/
theorem toJson_faithful_person :
    person.Throughout InOrder ∧ closedPerson.Throughout InOrder
    ∧ person.toJson.same closedPerson.toJson = false ∧ person.toJson ≠ .object []
    ∧ ∃ s s₁ s' : Database, (Database.admin.collectionExists "people").Yields s true s₁
      ∧ (Database.admin.collectionValidator "people").Yields s₁ (some closedPerson.validator) s'
      ∧ ¬(Database.admin.ensureValidator "people" person.validator).Yields s .unchanged s' := by
  have hproperties : Json.Ascending [("age", ofType .int), ("name", ofType .string)] :=
    List.pairwise_pair.mpr (show "age" < "name" by decide)
  have hleaf : ∀ type, (ofType type).Throughout InOrder := fun type =>
    throughout_of_parts_eq_nil rfl ⟨nofun, nofun⟩
  have hparts : ∀ d ∈ [ofType .int, ofType .string], d.Throughout InOrder :=
    List.forall_mem_cons.mpr ⟨hleaf _, List.forall_mem_singleton.mpr (hleaf _)⟩
  have hperson : person.Throughout InOrder :=
    .intro ⟨nofun, by rintro _ ⟨⟩; exact hproperties⟩ hparts
  have hclosed : closedPerson.Throughout InOrder :=
    .intro ⟨nofun, by rintro _ ⟨⟩; exact hproperties⟩ hparts
  obtain ⟨hsame, hempty, -, hensure⟩ := toJson_faithful hperson hclosed
  let s : Database := { validators := [("people", some closedPerson.validator)] }
  let s₁ : Database := { s with log := [("exists", "people")] }
  let s' : Database := { s with log := [("exists", "people"), ("validator", "people")] }
  have hthere : (Database.admin.collectionExists "people").Yields s true s₁ := rfl
  have hstored : (Database.admin.collectionValidator "people").Yields s₁
      (some closedPerson.validator) s' := rfl
  refine ⟨hperson, hclosed, hsame.trans rfl, fun h => ?_, s, s₁, s', hthere, hstored, fun h => ?_⟩
  · cases hempty.mp h
  · cases ((hensure Database.admin "people" s s').2 s₁ hthere hstored).mp h

end Document

end DocumentModel
