import Mathlib.Logic.Function.Basic
import DocumentModel.Database
import DocumentModel.Proofs.Database.Recording
import DocumentModel.Proofs.Json.Fields

/-!
# Databases that store what they are told

A database is a store when its states stand for `Contents`, and the six commands read and change the
contents as their names say (`CollectionAdmin.IsStore`). A store may refuse what has no sense: to
create a collection that exists, to change one that does not, and to create no indexes. The database
in memory is a store (`Database.isStore`), and so is one that refuses an empty list of indexes.
-/

namespace DocumentModel

/-! ## Contents -/

/-- What a database keeps: the collections that exist with their validators, and the indexes. -/
structure Contents where
  validators : String → Option (Option Json)
  indexes : String → List IndexDescription

namespace Contents

variable {c c₁ c₂ : Contents} {collection : String}

def setValidator (c : Contents) (collection : String) (validator : Json) : Contents :=
  { c with validators := Function.update c.validators collection (some (some validator)) }

def setIndexes (c : Contents) (collection : String) (indexes : List IndexDescription) : Contents :=
  { c with indexes := Function.update c.indexes collection indexes }

@[simp]
theorem validators_setValidator (validator : Json) :
    (c.setValidator collection validator).validators collection = some (some validator) :=
  Function.update_self ..

@[simp]
theorem indexes_setIndexes (indexes : List IndexDescription) :
    (c.setIndexes collection indexes).indexes collection = indexes :=
  Function.update_self ..

@[simp]
theorem validators_setIndexes (indexes : List IndexDescription) :
    (c.setIndexes collection indexes).validators = c.validators :=
  rfl

/-- Of two lists of indexes the one set last counts. -/
@[simp]
theorem setIndexes_setIndexes (indexes others : List IndexDescription) :
    (c.setIndexes collection others).setIndexes collection indexes
      = c.setIndexes collection indexes := by
  simp [setIndexes]

/-- A collection that is given the indexes it has stays as it is. -/
@[simp]
theorem setIndexes_self : c.setIndexes collection (c.indexes collection) = c := by
  simp [setIndexes]

/-- Whatever differs between the two belongs to one collection. -/
structure AgreesOutside (collection : String) (c c' : Contents) : Prop where
  validators : ∀ other, other ≠ collection → c'.validators other = c.validators other
  indexes : ∀ other, other ≠ collection → c'.indexes other = c.indexes other

theorem AgreesOutside.refl : AgreesOutside collection c c := ⟨fun _ _ => rfl, fun _ _ => rfl⟩

/-- A run of changes touches one collection when each of them does. -/
theorem AgreesOutside.trans (h : AgreesOutside collection c c₁)
    (h' : AgreesOutside collection c₁ c₂) : AgreesOutside collection c c₂ where
  validators other hne := (h'.validators other hne).trans (h.validators other hne)
  indexes other hne := (h'.indexes other hne).trans (h.indexes other hne)

/-- The validator of a collection is no concern of the others. -/
theorem AgreesOutside.setValidator (h : AgreesOutside collection c c₁) (validator : Json) :
    AgreesOutside collection c (c₁.setValidator collection validator) where
  validators other hne := (Function.update_of_ne hne _ _).trans (h.validators other hne)
  indexes := h.indexes

/-- Neither are its indexes. -/
theorem AgreesOutside.setIndexes (h : AgreesOutside collection c c₁)
    (indexes : List IndexDescription) :
    AgreesOutside collection c (c₁.setIndexes collection indexes) where
  validators := h.validators
  indexes other hne := (Function.update_of_ne hne _ _).trans (h.indexes other hne)

end Contents

/-! ## Stores -/

/-- What the states of a database stand for. -/
structure View (σ : Type) where
  contents : σ → Contents
  /-- Whether the database carries out commands in this state. -/
  Serves : σ → Prop

/-- The command answers `a` and leaves the database, in service, with the contents `after`. -/
def View.Carries {σ ε α : Type} (view : View σ) (c : Command σ ε α) (s : σ) (a : α)
    (after : Contents) : Prop :=
  ∃ s', c.Yields s a s' ∧ view.Serves s' ∧ view.contents s' = after

namespace CollectionAdmin

variable {σ ε : Type}

/-- The commands read and change the contents. -/
structure IsStore (db : CollectionAdmin σ ε) (view : View σ) : Prop where
  collectionExists {s : σ} (hs : view.Serves s) (collection : String) :
    view.Carries (db.collectionExists collection) s
      ((view.contents s).validators collection).isSome (view.contents s)
  createCollection {s : σ} (hs : view.Serves s) (collection : String) (validator : Json)
    (habsent : (view.contents s).validators collection = none) :
    view.Carries (db.createCollection collection validator) s ()
      ((view.contents s).setValidator collection validator)
  collectionValidator {s : σ} (hs : view.Serves s) (collection : String) (current : Option Json)
    (hfound : (view.contents s).validators collection = some current) :
    view.Carries (db.collectionValidator collection) s current (view.contents s)
  modifyValidator {s : σ} (hs : view.Serves s) (collection : String) (validator : Json)
    (current : Option Json) (hfound : (view.contents s).validators collection = some current) :
    view.Carries (db.modifyValidator collection validator) s ()
      ((view.contents s).setValidator collection validator)
  dropIndexes {s : σ} (hs : view.Serves s) (collection : String) (current : Option Json)
    (hfound : (view.contents s).validators collection = some current) :
    view.Carries (db.dropIndexes collection) s () ((view.contents s).setIndexes collection [])
  createIndexes {s : σ} (hs : view.Serves s) (collection : String)
    (indexes : List IndexDescription) (current : Option Json)
    (hfound : (view.contents s).validators collection = some current) (hne : indexes ≠ []) :
    view.Carries (db.createIndexes collection indexes) s ()
      ((view.contents s).setIndexes collection ((view.contents s).indexes collection ++ indexes))

/-- The same database, except that it refuses to create no indexes. -/
def refusingNoIndexes (db : CollectionAdmin σ ε) (refusal : ε) : CollectionAdmin σ ε :=
  { db with createIndexes := fun collection indexes =>
      if indexes.isEmpty then throw refusal else db.createIndexes collection indexes }

theorem createIndexes_refusingNoIndexes (db : CollectionAdmin σ ε) (refusal : ε)
    (collection : String) (indexes : List IndexDescription) :
    (db.refusingNoIndexes refusal).createIndexes collection indexes
      = if indexes.isEmpty then throw refusal else db.createIndexes collection indexes :=
  rfl

/-- **A store that refuses an empty list of indexes is still a store.** -/
theorem IsStore.refusingNoIndexes {db : CollectionAdmin σ ε} {view : View σ}
    (h : db.IsStore view) (refusal : ε) : (db.refusingNoIndexes refusal).IsStore view where
  collectionExists := h.collectionExists
  createCollection := h.createCollection
  collectionValidator := h.collectionValidator
  modifyValidator := h.modifyValidator
  dropIndexes := h.dropIndexes
  createIndexes := by
    intro s hs collection indexes current hfound hne
    have hsent : ¬ indexes.isEmpty = true := fun he => hne (List.isEmpty_iff.mp he)
    rw [createIndexes_refusingNoIndexes, if_neg hsent]
    exact h.createIndexes hs collection indexes current hfound hne

end CollectionAdmin

/-! ## The database in memory -/

namespace Database

open Command

variable {db : Database} {collection : String}

/-- The contents of a database that refuses nothing. -/
def view : View Database where
  contents db := ⟨fun collection => Json.findField? collection db.validators, db.indexesOf⟩
  Serves db := db.refused = none

/-- The database after a command was logged. -/
def logged (db : Database) (command collection : String) : Database :=
  { db with log := db.log ++ [(command, collection)] }

/-- A command that is not refused is written down and goes on. -/
theorem yields_receive (h : db.refused = none) (command collection : String) :
    (receive command collection).Yields db () (db.logged command collection) := by
  unfold receive
  refine (yields_modify _ db).bind ((yields_get _).bind ?_)
  have haccepted : ¬ db.refused = some command := by
    rw [h]
    exact nofun
  dsimp only
  rw [if_neg haccepted]
  exact yields_pure () _

/-- A command that only answers leaves the contents as they are. -/
theorem carries_reading {α : Type} (h : db.refused = none) (command collection : String)
    (answer : Database → α) :
    view.Carries (do receive command collection; pure (answer (← get))) db
      (answer (db.logged command collection)) (view.contents db) :=
  ⟨db.logged command collection,
    (yields_receive h command collection).bind ((yields_get _).bind (yields_pure _ _)), h, rfl⟩

/-- A command that changes the database changes the contents in the same way. -/
theorem carries_changing (h : db.refused = none) (command collection : String)
    (change : Database → Database) (hchange : ∀ db, (change db).refused = db.refused) :
    view.Carries (do receive command collection; modify change) db ()
      (view.contents (change (db.logged command collection))) := by
  refine ⟨change (db.logged command collection),
    (yields_receive h command collection).bind (yields_modify _ _), ?_, rfl⟩
  exact (hchange _).trans h

/-- The validator of a collection in memory is the one of its contents. -/
theorem contents_setValidator (validator : Json) :
    view.contents (db.setValidator collection (some validator))
      = (view.contents db).setValidator collection validator := by
  refine congrArg (Contents.mk · db.indexesOf) (funext fun other => ?_)
  rw [setValidator, Json.findField?_insertField, Function.update_apply]
  simp only [eq_comm]
  rfl

theorem contents_removeIndexes :
    view.contents (db.removeIndexes collection) = (view.contents db).setIndexes collection [] := by
  refine congrArg (Contents.mk _) (funext fun other => ?_)
  rw [indexesOf, removeIndexes, Json.findField?_filter_ne, Function.update_apply]
  split <;> rfl

/-- New indexes come after those that the collection has. -/
theorem contents_addIndexes (indexes : List IndexDescription) :
    view.contents (db.addIndexes collection indexes)
      = (view.contents db).setIndexes collection (db.indexesOf collection ++ indexes) := by
  refine congrArg (Contents.mk _) (funext fun other => ?_)
  rw [indexesOf, addIndexes, Json.findField?_insertField, Function.update_apply]
  by_cases ho : collection = other
  · rw [if_pos ho, if_pos ho.symm]
    rfl
  · rw [if_neg ho, if_neg (Ne.symm ho)]
    rfl

/-- **The database in memory is a store.** -/
theorem isStore : admin.IsStore view where
  collectionExists {db} hs collection := carries_reading hs "exists" collection _
  createCollection {db} hs collection validator _ := by
    rw [← contents_setValidator]
    exact carries_changing hs "create" collection (setValidator collection validator) fun _ => rfl
  collectionValidator {db} hs collection current hfound := by
    have hread : db.validator? collection = current := by
      rw [validator?, show Json.findField? collection db.validators = some current from hfound,
        Option.join_some]
    rw [← hread]
    exact carries_reading hs "validator" collection (·.validator? collection)
  modifyValidator {db} hs collection validator current _ := by
    rw [← contents_setValidator]
    exact carries_changing hs "collMod" collection (setValidator collection validator) fun _ => rfl
  dropIndexes {db} hs collection current _ := by
    rw [← contents_removeIndexes]
    exact carries_changing hs "dropIndexes" collection (removeIndexes collection) fun _ => rfl
  createIndexes {db} hs collection indexes current _ _ := by
    have hcarries := carries_changing hs "createIndexes" collection (addIndexes collection indexes)
      fun _ => rfl
    rw [contents_addIndexes] at hcarries
    exact hcarries

end Database

end DocumentModel
