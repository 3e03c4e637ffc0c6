import DocumentModel.Database
import DocumentModel.Proofs.Database.Recording

/-!
# The calls of a run that may fail

`CollectionAdmin.transcribed` is a database that passes every command on and writes it down with
what it was told and what it answered. The calls by which a model is applied are planned in advance
(`Call.forModel`), up to what the database answers about the collection. However its commands answer
and fail, a run makes the planned calls, or ends at the first of them that fails and returns its
error (`CollectionAdmin.ensureModel_calls`).
-/

namespace DocumentModel

/-- A command as it was sent, with the answer to it. -/
inductive Call (ε : Type)
  | collectionExists (collection : String) (answer : Except ε Bool)
  | createCollection (collection : String) (validator : Json) (answer : Except ε Unit)
  | collectionValidator (collection : String) (answer : Except ε (Option Json))
  | modifyValidator (collection : String) (validator : Json) (answer : Except ε Unit)
  | dropIndexes (collection : String) (answer : Except ε Unit)
  | createIndexes (collection : String) (indexes : List IndexDescription) (answer : Except ε Unit)

namespace Call

variable {ε : Type}

/-- The same call when it fails. -/
def refused (e : ε) : Call ε → Call ε
  | .collectionExists collection _ => .collectionExists collection (.error e)
  | .createCollection collection validator _ => .createCollection collection validator (.error e)
  | .collectionValidator collection _ => .collectionValidator collection (.error e)
  | .modifyValidator collection validator _ => .modifyValidator collection validator (.error e)
  | .dropIndexes collection _ => .dropIndexes collection (.error e)
  | .createIndexes collection indexes _ => .createIndexes collection indexes (.error e)

/-- The error of a call that failed. -/
def error? : Call ε → Option ε
  | .collectionExists _ (.error e) | .createCollection _ _ (.error e)
  | .collectionValidator _ (.error e) | .modifyValidator _ _ (.error e)
  | .dropIndexes _ (.error e) | .createIndexes _ _ (.error e) => some e
  | _ => none

theorem error?_refused (e : ε) (c : Call ε) : (c.refused e).error? = some e := by
  cases c <;> rfl

/-! ## Plans -/

/-- The calls that give a collection its validator: one that is not stored is created, and one whose
validator is missing or another one is changed. -/
def forValidator (collection : String) (validator : Json) :
    (stored : Option (Option Json)) → List (Call ε)
  | none =>
    [.collectionExists collection (.ok false), .createCollection collection validator (.ok ())]
  | some current =>
    [.collectionExists collection (.ok true), .collectionValidator collection (.ok current)]
      ++ if current.any (·.same validator) then []
        else [.modifyValidator collection validator (.ok ())]

/-- What `forValidator` does to the collection. -/
def actionOn (validator : Json) : (stored : Option (Option Json)) → ValidatorAction
  | none => .created
  | some current => if current.any (·.same validator) then .unchanged else .updated

/-- The calls that create indexes; no indexes are not sent. -/
def forIndexes (collection : String) (indexes : List IndexDescription) (dropExisting : Bool) :
    List (Call ε) :=
  (if dropExisting then [.dropIndexes collection (.ok ())] else [])
    ++ if indexes.isEmpty then [] else [.createIndexes collection indexes (.ok ())]

/-- The calls that apply a validator with indexes. -/
def forModel (collection : String) (validator : Json) (stored : Option (Option Json))
    (indexes : List IndexDescription) (dropExisting : Bool) : List (Call ε) :=
  forValidator collection validator stored ++ forIndexes collection indexes dropExisting

/-- No failure is planned. -/
theorem error?_of_mem_forModel (collection : String) (validator : Json)
    (stored : Option (Option Json)) (indexes : List IndexDescription) (dropExisting : Bool) :
    ∀ c ∈ forModel (ε := ε) collection validator stored indexes dropExisting, c.error? = none := by
  rw [forModel, forIndexes, List.forall_mem_append, List.forall_mem_append]
  refine ⟨?_, ?_, ?_⟩
  · cases stored with
    | none => simp [forValidator, error?]
    | some current =>
      rw [forValidator, List.forall_mem_append]
      refine ⟨by simp [error?], ?_⟩
      split <;> simp [error?]
  · split <;> simp [error?]
  · split <;> simp [error?]

/-! ## Keeping to a plan -/

variable {α β : Type} {a : α} {b : β} {e : ε} {plan more calls : List (Call ε)}
  {answer : Except ε α} {answer' : Except ε β}

/-- The calls go as planned up to one that fails, which is the last. -/
def BreakOff (plan calls : List (Call ε)) (e : ε) : Prop :=
  ∃ done next, done ++ [next] <+: plan ∧ calls = done ++ [next.refused e]

/-- The calls are the planned ones and the answer is `a`; or they break off with an error, which is
the answer then. -/
def Follow (plan : List (Call ε)) (a : α) (calls : List (Call ε)) : Except ε α → Prop
  | .ok b => calls = plan ∧ b = a
  | .error e => BreakOff plan calls e

theorem Follow.append_right (h : Follow plan a calls (.error e)) (more : List (Call ε)) (b : β) :
    Follow (plan ++ more) b calls (.error e) := by
  obtain ⟨done, next, hdone, hcalls⟩ := h
  exact ⟨done, next, hdone.trans (List.prefix_append plan more), hcalls⟩

theorem Follow.append_left (h : Follow more b calls answer') (first : List (Call ε)) :
    Follow (first ++ more) b (first ++ calls) answer' := by
  cases answer' with
  | ok b' => exact ⟨congrArg (first ++ ·) h.1, h.2⟩
  | error e =>
    obtain ⟨done, next, hdone, hcalls⟩ := h
    refine ⟨first ++ done, next, ?_, ?_⟩
    · rw [List.append_assoc]
      exact (List.prefix_append_right_inj first).mpr hdone
    · rw [hcalls, List.append_assoc]

/-- **No call follows one that failed, and its error is the answer.** -/
theorem Follow.eq_nil_of_error? (h : Follow plan a calls answer)
    (hplan : ∀ c ∈ plan, c.error? = none) {earlier later : List (Call ε)} {c : Call ε}
    (hcalls : calls = earlier ++ c :: later) (hc : c.error? = some e) :
    later = [] ∧ answer = .error e := by
  have hplanned : c ∉ plan := fun hm => by
    rw [hplan c hm] at hc
    cases hc
  cases answer with
  | ok b =>
    obtain ⟨rfl, rfl⟩ := h
    exact absurd (by simp [hcalls]) hplanned
  | error e' =>
    obtain ⟨done, next, hdone, rfl⟩ := h
    have hearlier : c ∉ done := fun hm =>
      hplanned (hdone.subset (List.mem_append_left _ hm))
    rcases later.eq_nil_or_concat with rfl | ⟨l, last, rfl⟩
    · obtain ⟨-, hlast⟩ := List.append_inj' hcalls rfl
      obtain rfl : next.refused e' = c := List.singleton_inj.mp hlast
      rw [error?_refused] at hc
      exact ⟨rfl, congrArg Except.error (Option.some.inj hc)⟩
    · -- the last call is the failed one, so that this one would have gone as planned
      rw [List.concat_eq_append, ← List.cons_append, ← List.append_assoc] at hcalls
      obtain ⟨rfl, -⟩ := List.append_inj' hcalls rfl
      exact absurd (List.mem_append_right _ List.mem_cons_self) hearlier

end Call

/-! ## Transcripts -/

namespace Command

variable {σ ε α β : Type}

/-- The same command, which is written down with its answer. -/
def transcribed (call : Except ε α → Call ε) (c : Command σ ε α) :
    Command (σ × List (Call ε)) ε α :=
  .mk fun (s, calls) =>
    let (answer, s') := c.run.run s
    (answer, s', calls ++ [call answer])

/-- A command and the same command with its calls written down: they answer the same and leave the
same state, and the calls keep to one of some plans, each of which leads to an answer. -/
def Obeys (c : Command σ ε α) (c' : Command (σ × List (Call ε)) ε α)
    (plans : List (Call ε) → α → Prop) : Prop :=
  ∀ s earlier, ∃ calls,
    c'.run.run (s, earlier) = ((c.run.run s).1, (c.run.run s).2, earlier ++ calls)
      ∧ ∃ plan a, plans plan a ∧ Call.Follow plan a calls (c.run.run s).1

variable {c : Command σ ε α} {c' : Command (σ × List (Call ε)) ε α}
  {plans plans' : List (Call ε) → α → Prop}

/-- What obeys some plans obeys more plans. -/
theorem Obeys.mono (h : Obeys c c' plans) (hplans : ∀ plan a, plans plan a → plans' plan a) :
    Obeys c c' plans' := by
  intro s earlier
  obtain ⟨calls, hrun, plan, a, hplan, hfollow⟩ := h s earlier
  exact ⟨calls, hrun, plan, a, hplans plan a hplan, hfollow⟩

theorem obeys_pure (a : α) :
    Obeys (pure a : Command σ ε α) (pure a) fun plan b => plan = [] ∧ b = a := by
  intro s earlier
  refine ⟨[], ?_, [], a, ⟨rfl, rfl⟩, rfl, rfl⟩
  rw [List.append_nil]
  rfl

/-- A single call is planned with any answer; if it fails, it is the one that was planned. -/
theorem obeys_transcribed [Inhabited α] {call : Except ε α → Call ε}
    (hcall : ∀ a e, (call (.ok a)).refused e = call (.error e)) (c : Command σ ε α) :
    Obeys c (c.transcribed call) fun plan a => plan = [call (.ok a)] := by
  intro s earlier
  refine ⟨[call (c.run.run s).1], rfl, ?_⟩
  cases (c.run.run s).1 with
  | ok a => exact ⟨_, a, rfl, rfl, rfl⟩
  | error e =>
    refine ⟨_, default, rfl, [], call (.ok default), List.prefix_rfl, ?_⟩
    rw [hcall]
    rfl

/-- **A sequence keeps to the plans of its steps**, one after the other, up to the first failure. -/
theorem Obeys.bind {f : α → Command σ ε β} {f' : α → Command (σ × List (Call ε)) ε β}
    {q : α → List (Call ε) → β → Prop} (hc : Obeys c c' plans)
    (hf : ∀ a, Obeys (f a) (f' a) (q a)) :
    Obeys (c >>= f) (c' >>= f') fun plan b =>
      ∃ first a rest, plans first a ∧ q a rest b ∧ plan = first ++ rest := by
  intro s earlier
  obtain ⟨first, hfirst, plan, a, hplan, hfollow⟩ := hc s earlier
  cases hrun : c.run.run s with
  | mk answer s₁ =>
    rw [hrun] at hfirst hfollow
    cases answer with
    | error e =>
      -- what was planned after the failure is never sent
      obtain ⟨-, -, rest, b, hrest, -⟩ := hf a s₁ []
      refine ⟨first, ?_, plan ++ rest, b, ⟨plan, a, rest, hplan, hrest, rfl⟩, ?_⟩
      · rw [run_bind_of_error hrun, run_bind_of_error hfirst]
      · rw [run_bind_of_error hrun]
        exact hfollow.append_right rest b
    | ok a' =>
      obtain ⟨rfl, rfl⟩ := hfollow
      obtain ⟨more, hmore, rest, b, hrest, hfollow'⟩ := hf a' s₁ (earlier ++ first)
      refine ⟨first ++ more, ?_, first ++ rest, b, ⟨first, a', rest, hplan, hrest, rfl⟩, ?_⟩
      · rw [run_bind_of_ok hrun, run_bind_of_ok hfirst, hmore, List.append_assoc]
      · rw [run_bind_of_ok hrun]
        exact hfollow'.append_left first

end Command

namespace CollectionAdmin

open Command

variable {σ ε : Type} (db : CollectionAdmin σ ε)

/-- The database with every call written down. -/
def transcribed : CollectionAdmin (σ × List (Call ε)) ε where
  collectionExists collection :=
    (db.collectionExists collection).transcribed (.collectionExists collection)
  createCollection collection validator :=
    (db.createCollection collection validator).transcribed (.createCollection collection validator)
  collectionValidator collection :=
    (db.collectionValidator collection).transcribed (.collectionValidator collection)
  modifyValidator collection validator :=
    (db.modifyValidator collection validator).transcribed (.modifyValidator collection validator)
  dropIndexes collection := (db.dropIndexes collection).transcribed (.dropIndexes collection)
  createIndexes collection indexes :=
    (db.createIndexes collection indexes).transcribed (.createIndexes collection indexes)

variable (collection : String)

/-- The calls for a validator depend on the one that is stored. -/
theorem obeys_ensureValidator (validator : Json) :
    Obeys (db.ensureValidator collection validator)
      (db.transcribed.ensureValidator collection validator) fun plan action =>
        ∃ stored, plan = Call.forValidator collection validator stored
          ∧ action = Call.actionOn validator stored := by
  unfold ensureValidator
  refine ((obeys_transcribed (fun _ _ => rfl) _).bind (q := fun found plan action =>
    ∃ stored, .collectionExists collection (.ok found) :: plan
        = Call.forValidator collection validator stored
      ∧ action = Call.actionOn validator stored) fun found => ?_).mono ?_
  · cases found with
    | false =>
      refine ((obeys_transcribed (fun _ _ => rfl) _).bind fun _ => obeys_pure _).mono ?_
      rintro _ _ ⟨_, _, _, rfl, ⟨rfl, rfl⟩, rfl⟩
      exact ⟨none, rfl, rfl⟩
    | true =>
      refine ((obeys_transcribed (fun _ _ => rfl) _).bind (q := fun current plan action =>
        plan = (if current.any (·.same validator) then []
          else [.modifyValidator collection validator (.ok ())])
        ∧ action = if current.any (·.same validator) then .unchanged else .updated)
        fun current => ?_).mono ?_
      · split
        · exact obeys_pure _
        · refine ((obeys_transcribed (fun _ _ => rfl) _).bind fun _ => obeys_pure _).mono ?_
          rintro _ _ ⟨_, _, _, rfl, ⟨rfl, rfl⟩, rfl⟩
          exact ⟨rfl, rfl⟩
      · rintro _ _ ⟨_, current, _, rfl, ⟨rfl, rfl⟩, rfl⟩
        exact ⟨some current, rfl, rfl⟩
  · rintro _ _ ⟨_, found, rest, rfl, ⟨stored, hplan, rfl⟩, rfl⟩
    exact ⟨stored, hplan, rfl⟩

/-- The calls for indexes do not depend on what is stored. -/
theorem obeys_ensureIndexes (indexes : List IndexDescription) (dropExisting : Bool) :
    Obeys (db.ensureIndexes collection indexes dropExisting)
      (db.transcribed.ensureIndexes collection indexes dropExisting) fun plan _ =>
        plan = Call.forIndexes collection indexes dropExisting := by
  have hcreate : Obeys (if indexes.isEmpty then pure () else db.createIndexes collection indexes)
      (if indexes.isEmpty then pure () else db.transcribed.createIndexes collection indexes)
      fun plan _ => plan = if indexes.isEmpty then []
        else [.createIndexes collection indexes (.ok ())] := by
    split
    · exact (obeys_pure ()).mono fun _ _ h => h.1
    · exact obeys_transcribed (fun _ _ => rfl) _
  unfold ensureIndexes Call.forIndexes
  cases dropExisting with
  | false => exact hcreate
  | true =>
    refine ((obeys_transcribed (fun _ _ => rfl) _).bind fun _ => hcreate).mono ?_
    rintro _ _ ⟨_, _, _, rfl, rfl, rfl⟩
    rfl

theorem obeys_ensureModel (ofSchema : SchemaError → ε) {model : Model} {validator : Json}
    (hv : model.validator? = .ok validator) (dropExisting : Bool) :
    Obeys (db.ensureModel ofSchema collection model dropExisting)
      (db.transcribed.ensureModel ofSchema collection model dropExisting) fun plan action =>
        ∃ stored, plan = Call.forModel collection validator stored model.indexes dropExisting
          ∧ action = Call.actionOn validator stored := by
  unfold ensureModel
  simp only [hv]
  refine ((db.obeys_ensureValidator collection validator).bind fun action =>
    (db.obeys_ensureIndexes collection model.indexes dropExisting).bind fun _ =>
      obeys_pure action).mono ?_
  rintro _ _ ⟨_, _, _, ⟨stored, rfl, rfl⟩, ⟨_, _, _, rfl, ⟨rfl, rfl⟩, rfl⟩, rfl⟩
  refine ⟨stored, ?_, rfl⟩
  rw [List.append_nil]
  rfl

/-- **A failing command ends the run**, on every database and however its commands answer. The calls
of a run that applies a model are those of `Call.forModel`, for what the database told of the
collection, or they break off: the last one failed, and all before it went as planned. No call
follows one that failed, whose error is returned. A model without a document makes no call. The
calls are those of the run itself, since writing them down changes neither the answer nor the
state. -/
theorem ensureModel_calls (ofSchema : SchemaError → ε) (model : Model) (dropExisting : Bool)
    (s : σ) :
    ∃ answer s' calls,
      (db.ensureModel ofSchema collection model dropExisting).run.run s = (answer, s')
      ∧ (db.transcribed.ensureModel ofSchema collection model dropExisting).run.run (s, [])
        = (answer, s', calls)
      ∧ (∀ e, model.validator? = .error e → calls = [] ∧ answer = .error (ofSchema e) ∧ s' = s)
      ∧ (∀ validator, model.validator? = .ok validator → ∃ stored,
        (calls = Call.forModel collection validator stored model.indexes dropExisting
          ∧ answer = .ok (Call.actionOn validator stored))
        ∨ ∃ done next e,
          done ++ [next] <+: Call.forModel collection validator stored model.indexes dropExisting
            ∧ calls = done ++ [next.refused e] ∧ answer = .error e)
      ∧ ∀ earlier call later e, calls = earlier ++ call :: later → call.error? = some e →
        later = [] ∧ answer = .error e := by
  cases hv : model.validator? with
  | error e =>
    refine ⟨.error (ofSchema e), s, [], ?_, ?_, ?_, nofun, ?_⟩
    · simp only [ensureModel, hv]
      rfl
    · simp only [ensureModel, hv]
      rfl
    · rintro _ ⟨⟩
      exact ⟨rfl, rfl, rfl⟩
    · intro earlier call later _ h
      simp at h
  | ok validator =>
    obtain ⟨calls, hcalls, _, _, ⟨stored, rfl, rfl⟩, hfollow⟩ :=
      db.obeys_ensureModel collection ofSchema hv dropExisting s []
    have hplan := Call.error?_of_mem_forModel (ε := ε) collection validator stored model.indexes
      dropExisting
    cases hrun : (db.ensureModel ofSchema collection model dropExisting).run.run s with
    | mk answer s' =>
      rw [hrun] at hcalls hfollow
      refine ⟨answer, s', calls, rfl, hcalls, (fun _ h => nomatch h), ?_,
        fun _ _ _ _ => hfollow.eq_nil_of_error? hplan⟩
      rintro _ ⟨⟩
      refine ⟨stored, ?_⟩
      cases answer with
      | ok action => exact Or.inl ⟨hfollow.1, congrArg Except.ok hfollow.2⟩
      | error e =>
        obtain ⟨done, next, hdone, hbroken⟩ := hfollow
        exact Or.inr ⟨done, next, e, hdone, hbroken, rfl⟩

/-- A database that refuses to create collections is told nothing about indexes. -/
example (id : ClassId) (indexes : List IndexDescription) :
    let run :=
      Database.admin.transcribed.ensureModel .schema "people" ⟨id, "Person", .any, indexes⟩ true
    (run.run.run ({ refused := some "create" }, [])).2.2
      = [.collectionExists "people" (.ok false),
        .createCollection "people" (Document.validator {}) (.error (.rejected "create"))] := rfl

end CollectionAdmin

end DocumentModel
