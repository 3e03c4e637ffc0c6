import DocumentModel.Proofs.Database.Storing
import DocumentModel.Proofs.Document.WellFormed

/-!
# Applying a model to a store

What `CollectionAdmin.ensureModel` does to a store is a function of the contents alone
(`CollectionAdmin.IsStore.issues_ensureModel`), and the function is idempotent: a store to which a
model was applied has the validator and the indexes of the model, and applying the model again sends
no command that would set a validator (`CollectionAdmin.IsStore.ensureModel_converges`).
-/

namespace DocumentModel

/-! ## What is done to the contents -/

namespace Contents

variable {c : Contents} {collection : String} {validator : Json}

/-- What has to be done for a collection to have a validator. -/
def actionFor (c : Contents) (collection : String) (validator : Json) : ValidatorAction :=
  match c.validators collection with
  | none => .created
  | some current => if current.any (·.same validator) then .unchanged else .updated

/-- The contents once the collection has the validator. -/
def withValidator (c : Contents) (collection : String) (validator : Json) : Contents :=
  if c.actionFor collection validator = .unchanged then c else c.setValidator collection validator

/-- The contents once the indexes are created, next to those there were or instead of them. -/
def withIndexes (c : Contents) (collection : String) (indexes : List IndexDescription)
    (dropExisting : Bool) : Contents :=
  c.setIndexes collection ((if dropExisting then [] else c.indexes collection) ++ indexes)

/-- Nothing is to be done exactly if the collection has the same validator. -/
theorem actionFor_eq_unchanged_iff : c.actionFor collection validator = .unchanged ↔
    ∃ w, c.validators collection = some (some w) ∧ w.same validator = true := by
  unfold actionFor
  cases c.validators collection with
  | none => simp
  | some current => cases current <;> simp

/-- Afterwards the collection exists and has the validator, or one that is the same, as far as the
validator equals itself. -/
theorem exists_validators_withValidator (c : Contents) (collection : String) (validator : Json) :
    ∃ w, (c.withValidator collection validator).validators collection = some (some w)
      ∧ (validator.same validator = true → w.same validator = true) := by
  unfold withValidator
  split
  · next hunchanged =>
    obtain ⟨w, hw, hsame⟩ := actionFor_eq_unchanged_iff.mp hunchanged
    exact ⟨w, hw, fun _ => hsame⟩
  · exact ⟨validator, validators_setValidator validator, id⟩

/-- The other collections are not touched by it. -/
theorem agreesOutside_withValidator (c : Contents) (collection : String) (validator : Json) :
    AgreesOutside collection c (c.withValidator collection validator) := by
  unfold withValidator
  split
  · exact .refl
  · exact AgreesOutside.refl.setValidator validator

/-- The contents once a model is applied and the indexes there were are dropped. -/
def applied (c : Contents) (collection : String) (validator : Json)
    (indexes : List IndexDescription) : Contents :=
  (c.withValidator collection validator).withIndexes collection indexes true

theorem validators_applied (c : Contents) (collection : String) (validator : Json)
    (indexes : List IndexDescription) :
    (c.applied collection validator indexes).validators
      = (c.withValidator collection validator).validators :=
  rfl

theorem indexes_applied (c : Contents) (collection : String) (validator : Json)
    (indexes : List IndexDescription) :
    (c.applied collection validator indexes).indexes collection = indexes :=
  indexes_setIndexes indexes

/-- Neither are they by the indexes. -/
theorem agreesOutside_applied (c : Contents) (collection : String) (validator : Json)
    (indexes : List IndexDescription) :
    AgreesOutside collection c (c.applied collection validator indexes) :=
  (agreesOutside_withValidator c collection validator).setIndexes _

/-- Where the model was applied, its validator is found in place. -/
theorem actionFor_applied (c : Contents) (collection : String) (indexes : List IndexDescription)
    (h : validator.same validator = true) :
    (c.applied collection validator indexes).actionFor collection validator = .unchanged := by
  obtain ⟨w, hw, hsame⟩ := exists_validators_withValidator c collection validator
  rw [← validators_applied c collection validator indexes] at hw
  exact actionFor_eq_unchanged_iff.mpr ⟨w, hw, hsame h⟩

/-- **Applying a model twice is applying it once.** -/
theorem applied_applied (c : Contents) (collection : String) (indexes : List IndexDescription)
    (h : validator.same validator = true) :
    (c.applied collection validator indexes).applied collection validator indexes
      = c.applied collection validator indexes := by
  have hunchanged := actionFor_applied c collection indexes h
  rw [applied, withValidator, if_pos hunchanged, withIndexes, if_pos rfl, List.nil_append]
  exact setIndexes_setIndexes indexes _

end Contents

/-! ## Commands with their notes -/

variable {σ ε α β : Type}

namespace View

variable {view : View σ} {s : σ} {a : α} {b : β} {P : Event σ → Prop} {after mid : Contents}

/-- The command answers `a`, notes events that meet `P`, and leaves the database, in service, with
the contents `after`. -/
def Issues (view : View σ) (c : Command (σ × List (Event σ)) ε α) (s : σ) (a : α)
    (P : Event σ → Prop) (after : Contents) : Prop :=
  ∃ s' events, (∀ earlier, c.Yields (s, earlier) a (s', earlier ++ events)) ∧ view.Serves s'
    ∧ view.contents s' = after ∧ ∀ e ∈ events, P e

/-- Without a command nothing happens. -/
theorem issues_pure (hs : view.Serves s) :
    view.Issues (pure a : Command (σ × List (Event σ)) ε α) s a P (view.contents s) := by
  refine ⟨s, [], fun earlier => ?_, hs, rfl, nofun⟩
  rw [List.append_nil]
  exact Command.yields_pure a _

/-- Commands that keep to their collection one after the other do so together. -/
theorem Issues.bind {c : Command (σ × List (Event σ)) ε α}
    {f : α → Command (σ × List (Event σ)) ε β} (hc : view.Issues c s a P mid)
    (hf : ∀ s₁, view.Serves s₁ → view.contents s₁ = mid → view.Issues (f a) s₁ b P after) :
    view.Issues (c >>= f) s b P after := by
  obtain ⟨s₁, first, hfirst, hs₁, hmid, hP⟩ := hc
  obtain ⟨s₂, second, hsecond, hs₂, hafter, hP'⟩ := hf s₁ hs₁ hmid
  refine ⟨s₂, first ++ second, fun earlier => ?_, hs₂, hafter, ?_⟩
  · rw [← List.append_assoc]
    exact (hfirst earlier).bind (hsecond (earlier ++ first))
  · exact List.forall_mem_append.mpr ⟨hP, hP'⟩

/-- A single command is noted with the state that it left. -/
theorem Carries.noted {c : Command σ ε α} (h : view.Carries c s a after) {kind : CommandKind}
    {collection : String} (hP : ∀ s', view.contents s' = after → P ⟨kind, collection, s'⟩) :
    view.Issues (c.noted kind collection) s a P after := by
  obtain ⟨s', hc, hs', hafter⟩ := h
  refine ⟨s', [⟨kind, collection, s'⟩], hc.noted kind collection, hs', hafter, ?_⟩
  exact List.forall_mem_singleton.mpr (hP s' hafter)

end View

/-- The command is about this collection and leaves the others as they were in `c`; and it sets no
validator where nothing has to be done. -/
structure Event.Within (view : View σ) (collection : String) (c : Contents)
    (action : ValidatorAction) (e : Event σ) : Prop where
  about : e.collection = collection
  others : c.AgreesOutside collection (view.contents e.after)
  silent : action = .unchanged → e.kind ≠ .createCollection ∧ e.kind ≠ .modifyValidator

/-! ## Applying a model -/

namespace CollectionAdmin.IsStore

variable {db : CollectionAdmin σ ε} {view : View σ} {s : σ} {collection : String}

/-- **Ensuring a validator** does what the contents ask for, and nothing to other collections. -/
theorem issues_ensureValidator (h : db.IsStore view) (hs : view.Serves s) (validator : Json) :
    view.Issues (db.recorded.ensureValidator collection validator) s
      ((view.contents s).actionFor collection validator)
      (Event.Within view collection (view.contents s)
        ((view.contents s).actionFor collection validator))
      ((view.contents s).withValidator collection validator) := by
  generalize hc : view.contents s = c
  have hread : ∀ kind s' action, kind ≠ .createCollection ∧ kind ≠ .modifyValidator →
      view.contents s' = c → Event.Within view collection c action ⟨kind, collection, s'⟩ := by
    rintro kind s' action hkind rfl
    exact ⟨rfl, .refl, fun _ => hkind⟩
  have hset : ∀ kind s' action, action ≠ .unchanged →
      view.contents s' = c.setValidator collection validator →
      Event.Within view collection c action ⟨kind, collection, s'⟩ := by
    intro kind s' action haction he
    exact ⟨rfl, he ▸ Contents.AgreesOutside.refl.setValidator validator,
      fun hu => absurd hu haction⟩
  have hexists := h.collectionExists hs collection
  rw [hc] at hexists
  unfold ensureValidator
  cases hfound : c.validators collection with
  | none =>
    have haction : c.actionFor collection validator = .created := by
      rw [Contents.actionFor, hfound]
    rw [Contents.withValidator, haction, if_neg (by decide)]
    rw [hfound] at hexists
    refine (hexists.noted fun s' => hread _ s' _ (by decide)).bind fun s₁ hs₁ hc₁ => ?_
    have hcreate := h.createCollection hs₁ collection validator (by rw [hc₁, hfound])
    rw [hc₁] at hcreate
    refine (hcreate.noted fun s' => hset _ s' _ (by decide)).bind fun s₂ hs₂ hc₂ => ?_
    rw [← hc₂]
    exact View.issues_pure hs₂
  | some current =>
    rw [hfound] at hexists
    refine (hexists.noted fun s' => hread _ s' _ (by decide)).bind fun s₁ hs₁ hc₁ => ?_
    have hcurrent := h.collectionValidator hs₁ collection current (by rw [hc₁, hfound])
    rw [hc₁] at hcurrent
    refine (hcurrent.noted fun s' => hread _ s' _ (by decide)).bind fun s₂ hs₂ hc₂ => ?_
    by_cases hsame : current.any (·.same validator) = true
    · have haction : c.actionFor collection validator = .unchanged := by
        simp only [Contents.actionFor, hfound, if_pos hsame]
      rw [Contents.withValidator, haction, if_pos rfl, if_pos hsame, ← hc₂]
      exact View.issues_pure hs₂
    · have haction : c.actionFor collection validator = .updated := by
        simp only [Contents.actionFor, hfound, if_neg hsame]
      rw [Contents.withValidator, haction, if_neg hsame, if_neg (by decide)]
      have hmodify := h.modifyValidator hs₂ collection validator current (by rw [hc₂, hfound])
      rw [hc₂] at hmodify
      refine (hmodify.noted fun s' => hset _ s' _ (by decide)).bind fun s₃ hs₃ hc₃ => ?_
      rw [← hc₃]
      exact View.issues_pure hs₃

/-- **Ensuring indexes** replaces them or adds to them, and touches no validator. -/
theorem issues_ensureIndexes (h : db.IsStore view) (hs : view.Serves s) {c : Contents}
    {action : ValidatorAction} (ho : c.AgreesOutside collection (view.contents s))
    {current : Option Json} (hfound : (view.contents s).validators collection = some current)
    (indexes : List IndexDescription) (dropExisting : Bool) :
    view.Issues (db.recorded.ensureIndexes collection indexes dropExisting) s ()
      (Event.Within view collection c action)
      ((view.contents s).withIndexes collection indexes dropExisting) := by
  -- every command leaves the contents at hand with some other indexes for the collection
  have hwithin : ∀ kind s' given, kind ≠ .createCollection ∧ kind ≠ .modifyValidator →
      view.contents s' = (view.contents s).setIndexes collection given →
      Event.Within view collection c action ⟨kind, collection, s'⟩ := by
    intro kind s' given hkind he
    exact ⟨rfl, he ▸ ho.setIndexes given, fun _ => hkind⟩
  have hcreate : ∀ s₁ given, view.Serves s₁ →
      view.contents s₁ = (view.contents s).setIndexes collection given →
      view.Issues
        (if indexes.isEmpty then pure () else db.recorded.createIndexes collection indexes)
        s₁ () (Event.Within view collection c action)
        ((view.contents s).setIndexes collection (given ++ indexes)) := by
    intro s₁ given hs₁ hc₁
    cases indexes with
    | nil =>
      rw [List.append_nil, ← hc₁]
      exact View.issues_pure hs₁
    | cons first rest =>
      have hcarries := h.createIndexes hs₁ collection (first :: rest) current
        (by rw [hc₁, Contents.validators_setIndexes, hfound]) (List.cons_ne_nil first rest)
      rw [hc₁, Contents.indexes_setIndexes, Contents.setIndexes_setIndexes] at hcarries
      exact hcarries.noted fun s' => hwithin _ s' _ (by decide)
  unfold ensureIndexes Contents.withIndexes
  cases dropExisting with
  | false => exact hcreate s _ hs Contents.setIndexes_self.symm
  | true =>
    have hdrop := h.dropIndexes hs collection current hfound
    exact (hdrop.noted fun s' => hwithin _ s' _ (by decide)).bind fun s₁ => hcreate s₁ []

/-- **What applying a model does to a store**, as a function of its contents. -/
theorem issues_ensureModel (h : db.IsStore view) (hs : view.Serves s) (ofSchema : SchemaError → ε)
    (collection : String) {model : Model} {validator : Json}
    (hv : model.validator? = .ok validator) (dropExisting : Bool) :
    view.Issues (db.recorded.ensureModel ofSchema collection model dropExisting) s
      ((view.contents s).actionFor collection validator)
      (Event.Within view collection (view.contents s)
        ((view.contents s).actionFor collection validator))
      (((view.contents s).withValidator collection validator).withIndexes collection model.indexes
        dropExisting) := by
  unfold ensureModel
  simp only [hv]
  refine (h.issues_ensureValidator hs validator).bind fun s₁ hs₁ hc₁ => ?_
  obtain ⟨current, hfound, -⟩ :=
    Contents.exists_validators_withValidator (view.contents s) collection validator
  have ho := Contents.agreesOutside_withValidator (view.contents s) collection validator
  rw [← hc₁] at hfound ho ⊢
  refine (h.issues_ensureIndexes hs₁ ho hfound model.indexes dropExisting).bind
    fun s₂ hs₂ hc₂ => ?_
  rw [← hc₂]
  exact View.issues_pure hs₂

end CollectionAdmin.IsStore

/-! ## Applying it twice -/

namespace CollectionAdmin

/-- A run that applies the model and drops the indexes there were: its answer, the commands it sends
and the state it leaves. -/
structure Applies (db : CollectionAdmin σ ε) (ofSchema : SchemaError → ε) (collection : String)
    (model : Model) (s : σ) (action : ValidatorAction) (events : List (Event σ)) (s' : σ) :
    Prop where
  run : (db.ensureModel ofSchema collection model true).Yields s action s'
  noted :
    (db.recorded.ensureModel ofSchema collection model true).Yields (s, []) action (s', events)

variable {db : CollectionAdmin σ ε} {view : View σ} {s : σ} {collection : String}

/-- Every model with a validator can be applied to every store. -/
theorem IsStore.exists_applies (h : db.IsStore view) (hs : view.Serves s)
    (ofSchema : SchemaError → ε) (collection : String) {model : Model} {validator : Json}
    (hv : model.validator? = .ok validator) :
    ∃ events s', db.Applies ofSchema collection model s
        ((view.contents s).actionFor collection validator) events s'
      ∧ view.Serves s'
      ∧ view.contents s' = (view.contents s).applied collection validator model.indexes
      ∧ ∀ e ∈ events, e.Within view collection (view.contents s)
        ((view.contents s).actionFor collection validator) := by
  obtain ⟨s', events, hnoted, hs', hafter, hwithin⟩ :=
    h.issues_ensureModel hs ofSchema collection hv true
  have hrun := (db.tracks_ensureModel collection ofSchema model true).yields (hnoted [])
  exact ⟨events, s', ⟨hrun, hnoted []⟩, hs', hafter, hwithin⟩

/-- **Applying a model converges, and applying it again changes nothing**, on every store and from
every state it serves. Afterwards the collection has the validator and the indexes of the model. The
second run finds that out without setting a validator, and neither run touches another collection at
any time. The literals of the model are values as they can be read: a validator with a number in it
that is none would differ from itself. -/
theorem IsStore.ensureModel_converges (h : db.IsStore view) (ofSchema : SchemaError → ε)
    (collection : String) {model : Model} {validator : Json}
    (hv : model.validator? = .ok validator) (hn : model.node.Throughout Node.StatesWellFormed)
    (hs : view.Serves s) :
    ∃ action first s₁ second s₂,
      db.Applies ofSchema collection model s action first s₁
      ∧ db.Applies ofSchema collection model s₁ .unchanged second s₂
      ∧ (∃ w, (view.contents s₁).validators collection = some (some w) ∧ w.same validator = true)
      ∧ (view.contents s₁).indexes collection = model.indexes
      ∧ view.contents s₂ = view.contents s₁
      ∧ (∀ e ∈ second, e.kind ≠ .createCollection ∧ e.kind ≠ .modifyValidator)
      ∧ ∀ e ∈ first ++ second, e.collection = collection
        ∧ (view.contents s).AgreesOutside collection (view.contents e.after) := by
  have hsame := (Model.wellFormed_of_validator? hn hv).same_self
  obtain ⟨first, s₁, hfirst, hs₁, hc₁, hwithin₁⟩ := h.exists_applies hs ofSchema collection hv
  obtain ⟨second, s₂, hsecond, -, hc₂, hwithin₂⟩ := h.exists_applies hs₁ ofSchema collection hv
  have hunchanged := Contents.actionFor_applied (view.contents s) collection model.indexes hsame
  rw [← hc₁] at hunchanged
  rw [hunchanged] at hsecond hwithin₂
  obtain ⟨w, hw, hsame'⟩ :=
    Contents.exists_validators_withValidator (view.contents s) collection validator
  refine ⟨_, first, s₁, second, s₂, hfirst, hsecond, ⟨w, ?_, hsame' hsame⟩, ?_, ?_, ?_, ?_⟩
  · rw [hc₁, Contents.validators_applied, hw]
  · rw [hc₁, Contents.indexes_applied]
  · rw [hc₂, hc₁, Contents.applied_applied _ _ _ hsame]
  · exact fun e he => (hwithin₂ e he).silent rfl
  · refine List.forall_mem_append.mpr ⟨fun e he => ?_, fun e he => ?_⟩
    · exact ⟨(hwithin₁ e he).about, (hwithin₁ e he).others⟩
    · -- the second run starts from contents that differ from the first for this collection only
      have hstart :=
        Contents.agreesOutside_applied (view.contents s) collection validator model.indexes
      rw [← hc₁] at hstart
      exact ⟨(hwithin₂ e he).about, hstart.trans (hwithin₂ e he).others⟩

/-- A model without indexes, with a literal in its node. -/
def invoices : Model where
  id := .declared 64
  name := "Invoice"
  node := Node.ofShape [("kind", Node.ofKind (.literal (.string "invoice")))]
  indexes := []

/-- A database with a validator and an index that the model has not. -/
def outdated : Database where
  validators := [("invoices", some (.object [])), ("users", none)]
  indexes := [("invoices", [⟨"number", .ascending, true, false, none⟩])]

theorem ensureModel_converges_invoices :
    ∃ validator, invoices.validator? = .ok validator
      ∧ invoices.node.Throughout Node.StatesWellFormed ∧ Database.view.Serves outdated
      ∧ ∃ action s₁ s₂,
        ((Database.admin.refusingNoIndexes (.rejected "createIndexes")).ensureModel .schema
          "invoices" invoices true).Yields outdated action s₁
        ∧ ((Database.admin.refusingNoIndexes (.rejected "createIndexes")).ensureModel .schema
          "invoices" invoices true).Yields s₁ .unchanged s₂
        ∧ s₁.indexesOf "invoices" = [] ∧ Database.view.contents s₂ = Database.view.contents s₁ := by
  have hn : invoices.node.Throughout Node.StatesWellFormed := by
    simp [invoices, Node.ofShape, Node.ofKind, Node.Throughout.mk_iff, Node.StatesWellFormed,
      NodeKind.parts, Json.wellFormed_string]
  have hstore := Database.isStore.refusingNoIndexes (.rejected "createIndexes")
  obtain ⟨validator, hv⟩ : ∃ validator, invoices.validator? = .ok validator := ⟨_, rfl⟩
  have hs : Database.view.Serves outdated := rfl
  obtain ⟨action, first, s₁, second, s₂, hfirst, hsecond, -, hindexes, hcontents, -⟩ :=
    hstore.ensureModel_converges .schema "invoices" hv hn hs
  exact ⟨validator, hv, hn, hs, action, s₁, s₂, hfirst.run, hsecond.run, hindexes, hcontents⟩

end CollectionAdmin

end DocumentModel
