import DocumentModel.Admin

/-!
# The commands that a run issues

`CollectionAdmin.recorded` is a database that passes every command on and notes it, together with
the state in which the command left the database. Programs run on it as they run on the database
itself (`CollectionAdmin.tracks_ensureModel`), so what is proved of the notes is true of every run.
-/

namespace DocumentModel

/-- The six commands on a database. -/
inductive CommandKind
  | collectionExists
  | createCollection
  | collectionValidator
  | modifyValidator
  | dropIndexes
  | createIndexes
  deriving DecidableEq, Repr

/-- A command as it was issued, with the state that it left. -/
structure Event (σ : Type) where
  kind : CommandKind
  collection : String
  after : σ

namespace Command

variable {σ ε α β : Type} {c : Command σ ε α} {s s₁ s₂ : σ} {a : α} {b : β}

/-- The command answers `a` and leaves the state `s'`. -/
def Yields (c : Command σ ε α) (s : σ) (a : α) (s' : σ) : Prop := c.run.run s = (.ok a, s')

theorem yields_pure (a : α) (s : σ) : Yields (pure a : Command σ ε α) s a s := rfl

theorem yields_get (s : σ) : Yields (get : Command σ ε σ) s s s := rfl

theorem yields_modify (f : σ → σ) (s : σ) : Yields (modify f : Command σ ε PUnit) s () (f s) := rfl

/-- A step after a command that succeeds starts where that command ends. -/
theorem run_bind_of_ok {f : α → Command σ ε β} (h : c.run.run s = (.ok a, s₁)) :
    (c >>= f).run.run s = (f a).run.run s₁ := by
  rw [ExceptT.run_bind, StateT.run_bind, h]
  rfl

/-- Nothing runs after a command that fails. -/
theorem run_bind_of_error {f : α → Command σ ε β} {e : ε} (h : c.run.run s = (.error e, s₁)) :
    (c >>= f).run.run s = (.error e, s₁) := by
  rw [ExceptT.run_bind, StateT.run_bind, h]
  rfl

/-- Two commands that succeed one after the other succeed together. -/
theorem Yields.bind {f : α → Command σ ε β} (hc : c.Yields s a s₁) (hf : (f a).Yields s₁ b s₂) :
    Yields (c >>= f) s b s₂ :=
  (run_bind_of_ok hc).trans hf

/-- From one state a command has one answer and one state after it. -/
theorem Yields.unique {a' : α} {s₁' : σ} (h : c.Yields s a s₁) (h' : c.Yields s a' s₁') :
    a = a' ∧ s₁ = s₁' := by
  obtain ⟨ha, hs⟩ := Prod.mk.inj (h.symm.trans h')
  exact ⟨Except.ok.inj ha, hs⟩

/-- **A sequence succeeds exactly if its first part does and the second one does from there.** -/
theorem yields_bind_iff {f : α → Command σ ε β} :
    Yields (c >>= f) s b s₂ ↔ ∃ a s₁, c.Yields s a s₁ ∧ (f a).Yields s₁ b s₂ := by
  refine ⟨fun h => ?_, fun ⟨a, s₁, hc, hf⟩ => hc.bind hf⟩
  cases hc : c.run.run s with
  | mk answer s₁ =>
    cases answer with
    | ok a => exact ⟨a, s₁, hc, (run_bind_of_ok hc).symm.trans h⟩
    | error e => cases (run_bind_of_error hc).symm.trans h

/-! ## Recording -/

/-- The same command, which is noted when it is done. -/
def noted (kind : CommandKind) (collection : String) (c : Command σ ε α) :
    Command (σ × List (Event σ)) ε α :=
  .mk fun (s, events) =>
    let (answer, s') := c.run.run s
    (answer, s', events ++ [⟨kind, collection, s'⟩])

/-- A noted command does what it did and adds one event, with the state that it leaves. -/
theorem run_noted (kind : CommandKind) (collection : String) (c : Command σ ε α) (s : σ)
    (events : List (Event σ)) :
    (c.noted kind collection).run.run (s, events)
      = ((c.run.run s).1, (c.run.run s).2, events ++ [⟨kind, collection, (c.run.run s).2⟩]) :=
  rfl

theorem Yields.noted (h : c.Yields s a s₁) (kind : CommandKind) (collection : String)
    (events : List (Event σ)) :
    (c.noted kind collection).Yields (s, events) a (s₁, events ++ [⟨kind, collection, s₁⟩]) := by
  unfold Yields at *
  rw [run_noted, h]

/-- A command and the same command with notes: they answer the same and leave the same state, and
notes are only added. -/
def Tracks (c : Command σ ε α) (c' : Command (σ × List (Event σ)) ε α) : Prop :=
  ∀ s events answer s', c.run.run s = (answer, s') →
    ∃ more, c'.run.run (s, events) = (answer, s', events ++ more)

variable {c' : Command (σ × List (Event σ)) ε α}

/-- Noting a command changes neither its answer nor its effect, also where it fails. -/
theorem tracks_noted (kind : CommandKind) (collection : String) (c : Command σ ε α) :
    Tracks c (c.noted kind collection) := by
  intro s events answer s' h
  refine ⟨[⟨kind, collection, s'⟩], ?_⟩
  rw [run_noted, h]

theorem tracks_pure (a : α) : Tracks (pure a : Command σ ε α) (pure a) := by
  intro s events answer s' h
  cases h
  exact ⟨[], by rw [List.append_nil]; rfl⟩

theorem tracks_throw (e : ε) : Tracks (throw e : Command σ ε α) (throw e) := by
  intro s events answer s' h
  cases h
  exact ⟨[], by rw [List.append_nil]; rfl⟩

/-- A sequence is tracked when its parts are. -/
theorem Tracks.bind {f : α → Command σ ε β} {f' : α → Command (σ × List (Event σ)) ε β}
    (hc : Tracks c c') (hf : ∀ a, Tracks (f a) (f' a)) : Tracks (c >>= f) (c' >>= f') := by
  intro s events answer s' h
  cases hrun : c.run.run s with
  | mk first s₁ =>
    obtain ⟨more, hmore⟩ := hc s events first s₁ hrun
    cases first with
    | error e =>
      rw [run_bind_of_error hrun] at h
      cases h
      exact ⟨more, run_bind_of_error hmore⟩
    | ok a =>
      rw [run_bind_of_ok hrun] at h
      obtain ⟨rest, hrest⟩ := hf a s₁ (events ++ more) answer s' h
      refine ⟨more ++ rest, ?_⟩
      rw [run_bind_of_ok hmore, hrest, List.append_assoc]

/-- A run with notes is a run. -/
theorem Tracks.yields (h : Tracks c c') {events more : List (Event σ)}
    (hc : c'.Yields (s, events) a (s₁, more)) : c.Yields s a s₁ := by
  obtain ⟨_, hrun⟩ := h s events _ _ rfl
  have he := congrArg (fun r => (r.1, r.2.1)) (hrun.symm.trans hc)
  exact he

end Command

namespace CollectionAdmin

variable {σ ε : Type} (db : CollectionAdmin σ ε)

/-- The database with every command noted. -/
def recorded : CollectionAdmin (σ × List (Event σ)) ε where
  collectionExists collection := (db.collectionExists collection).noted .collectionExists collection
  createCollection collection validator :=
    (db.createCollection collection validator).noted .createCollection collection
  collectionValidator collection :=
    (db.collectionValidator collection).noted .collectionValidator collection
  modifyValidator collection validator :=
    (db.modifyValidator collection validator).noted .modifyValidator collection
  dropIndexes collection := (db.dropIndexes collection).noted .dropIndexes collection
  createIndexes collection indexes :=
    (db.createIndexes collection indexes).noted .createIndexes collection

open Command

variable (collection : String)

/-- With recorded commands a validator is ensured in the same way. -/
theorem tracks_ensureValidator (validator : Json) :
    Tracks (db.ensureValidator collection validator)
      (db.recorded.ensureValidator collection validator) := by
  unfold ensureValidator
  refine (tracks_noted _ _ _).bind fun found => ?_
  cases found with
  | false => exact (tracks_noted _ _ _).bind fun _ => tracks_pure _
  | true =>
    refine (tracks_noted _ _ _).bind fun current => ?_
    split
    · exact tracks_pure _
    · exact (tracks_noted _ _ _).bind fun _ => tracks_pure _

/-- So are indexes. -/
theorem tracks_ensureIndexes (indexes : List IndexDescription) (dropExisting : Bool) :
    Tracks (db.ensureIndexes collection indexes dropExisting)
      (db.recorded.ensureIndexes collection indexes dropExisting) := by
  have hcreate : Tracks (if indexes.isEmpty then pure () else db.createIndexes collection indexes)
      (if indexes.isEmpty then pure () else db.recorded.createIndexes collection indexes) := by
    split
    · exact tracks_pure _
    · exact tracks_noted _ _ _
  unfold ensureIndexes
  cases dropExisting with
  | false => exact hcreate
  | true => exact (tracks_noted _ _ _).bind fun _ => hcreate

/-- **Taking notes changes nothing in how a model is applied.** -/
theorem tracks_ensureModel (ofSchema : SchemaError → ε) (model : Model) (dropExisting : Bool) :
    Tracks (db.ensureModel ofSchema collection model dropExisting)
      (db.recorded.ensureModel ofSchema collection model dropExisting) := by
  unfold ensureModel
  split
  · exact tracks_throw _
  · exact (db.tracks_ensureValidator collection _).bind fun _ =>
      (db.tracks_ensureIndexes collection _ _).bind fun _ => tracks_pure _

end CollectionAdmin

end DocumentModel
