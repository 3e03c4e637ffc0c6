import DocumentModel.Proofs.Compile.Sessions

/-!
# Declared fields in sessions

Fields that are declared remain declared, perhaps in another way, and a level contributes declared
fields only (`Session.run_declared`). So what a class declares tells which fields it may have from
its ancestors (`Session.fields_agree_of_not_declares`).
-/

namespace DocumentModel

/-! ## Changes to declarations -/

namespace Registry

variable {r : Registry} {id level : ClassId} {field key : String}
  {change : FieldDeclaration → FieldDeclaration}

theorem findClass?_updateClass (change : List FieldDeclaration → List FieldDeclaration)
    (fields : List (ClassId × List FieldDeclaration)) :
    findClass? level (updateClass change id fields) = if level = id
      then some (change ((findClass? id fields).getD [])) else findClass? level fields := by
  induction fields with
  | nil =>
    rw [updateClass, findClass?_cons]
    by_cases h : level = id
    · rw [if_pos h.symm, if_pos h]
      rfl
    · rw [if_neg fun he => h he.symm, if_neg h]
  | cons entry rest ih =>
    obtain ⟨c, ds⟩ := entry
    rw [updateClass]
    by_cases hc : c = id
    · rw [if_pos hc, findClass?_cons, findClass?_cons, findClass?_cons, if_pos hc]
      subst hc
      by_cases h : level = c
      · rw [if_pos h.symm, if_pos h]
        rfl
      · rw [if_neg fun he => h he.symm, if_neg h, if_neg fun he => h he.symm]
    · rw [if_neg hc, findClass?_cons, ih, findClass?_cons, findClass?_cons, if_neg hc]
      by_cases h : level = id
      · subst h
        rw [if_neg hc, if_pos rfl, if_pos rfl]
      · rw [if_neg h, if_neg h]

/-- A change to a field of a class concerns the declarations of this class alone. -/
theorem declarations_update :
    (r.update id field change).declarations level = if level = id
      then updateField change field (r.declarations level) else r.declarations level := by
  have hupdate : (r.update id field change).declarations? level = if level = id
      then some (updateField change field (r.declarations id)) else r.declarations? level :=
    findClass?_updateClass _ r.fields
  rw [declarations, hupdate]
  by_cases h : level = id
  · rw [if_pos h, if_pos h, h]
    rfl
  · rw [if_neg h, if_neg h]
    rfl

/-- The class declares a field of this name. -/
def Declares (r : Registry) (level : ClassId) (key : String) : Prop :=
  ∃ d ∈ r.declarations level, d.name = key

theorem Declares.updateField {declared : List FieldDeclaration}
    (hchange : ∀ d, (change d).name = d.name) (h : ∃ d ∈ declared, d.name = key) :
    ∃ d ∈ updateField change field declared, d.name = key := by
  induction declared with
  | nil => simp at h
  | cons d rest ih =>
    rw [Registry.updateField]
    obtain ⟨d', hm, hd'⟩ := h
    rcases List.mem_cons.mp hm with rfl | hm
    · split
      · exact ⟨change d', List.mem_cons_self, (hchange d').trans hd'⟩
      · exact ⟨d', List.mem_cons_self, hd'⟩
    · split
      · exact ⟨d', List.mem_cons_of_mem _ hm, hd'⟩
      · obtain ⟨d'', hm, hd''⟩ := ih ⟨d', hm, hd'⟩
        exact ⟨d'', List.mem_cons_of_mem _ hm, hd''⟩

/-- A field that is declared remains declared. -/
theorem Declares.update (hchange : ∀ d, (change d).name = d.name) (h : r.Declares level key) :
    (r.update id field change).Declares level key := by
  rw [Declares, declarations_update]
  split
  · exact Declares.updateField hchange h
  · exact h

theorem exists_mem_updateField (change : FieldDeclaration → FieldDeclaration) (field : String)
    (declared : List FieldDeclaration) : ∃ d, change d ∈ updateField change field declared := by
  induction declared with
  | nil => exact ⟨_, List.mem_singleton.mpr rfl⟩
  | cons d rest ih =>
    rw [updateField]
    split
    · exact ⟨d, List.mem_cons_self⟩
    · obtain ⟨d', hd'⟩ := ih
      exact ⟨d', List.mem_cons_of_mem d hd'⟩

end Registry

namespace Session

variable {s : Session} {commands : List Command} {id level : ClassId} {node : Node} {key : String}

/-- **Levels contribute fields that are declared.** -/
def Declared (s : Session) : Prop :=
  ∀ level node, findClass? level s.cache.own = some node →
    ∀ key field, node.field? key = some field → s.registry.Declares level key

/-- No command takes a declaration away. -/
theorem step_declared (hs : s.Layered) (h : s.Declared) (command : Command) :
    (s.step command).Declared := by
  cases command with
  | define name base =>
    rw [step]
    split
    · next hd =>
      obtain ⟨e, -, -, -, -, -, rfl, -⟩ := Registry.exists_of_define? hd
      exact h
    · exact h
  | setType id field tag options =>
    exact fun level node hk key field hf => (h level node hk key field hf).update fun _ => rfl
  | setDetails id field details =>
    exact fun level node hk key field hf => (h level node hk key field hf).update fun _ => rfl
  | setIndex id field index =>
    exact fun level node hk key field hf => (h level node hk key field hf).update fun _ => rfl
  | ask request =>
    intro level node hk key field hf
    cases hold : findClass? level s.cache.own with
    | some kept =>
      have hlater := (step_layered hs (.ask request)).2.cache.own.findClass?_eq_some hold
      cases hlater.symm.trans hk
      exact h level node hold key field hf
    | none =>
      -- the level is new, and made of what is declared now
      have hlevel := Cache.Layered.levelFrom_of_request hs hk
      cases level with
      | builtin b => cases ((step_layered hs (.ask request)).1.own _ _ hk).1
      | declared number =>
        obtain ⟨shape, rfl, -, hdeclared⟩ := Registry.shape_of_levelFrom hlevel
        rw [Registry.declarations_frozen_of_none hold] at hdeclared
        refine hdeclared key (by_contra fun hm => ?_)
        cases (Shape.get?_eq_none hm).symm.trans hf

theorem run_declared (hs : s.Layered) (h : s.Declared) (commands : List Command) :
    (s.run commands).Declared := by
  induction commands generalizing s with
  | nil => exact h
  | cons command rest ih => exact ih (step_layered hs command).1 (step_declared hs h command)

theorem start_declared (r : Registry) (numbers : ClassNumbers) : (start r numbers).Declared :=
  nofun

/-- A level contributes nothing for a field that its class does not declare. -/
theorem Declared.contribution_eq_none (h : s.Declared) (hk : ¬ s.registry.Declares level key) :
    s.contribution level key = none := by
  cases hc : s.contribution level key with
  | none => rfl
  | some field =>
    obtain ⟨node, hnode, hf⟩ := Option.bind_eq_some_iff.mp hc
    cases level with
    | builtin b =>
      cases hnode
      cases b <;> cases hf
    | declared number => exact absurd (h _ node hnode key field hf) hk

/-- **Two classes agree on a field that neither they nor their ancestors declare** before the one
that they have in common. -/
theorem fields_agree_of_not_declares {r : Registry} {numbers : ClassNumbers}
    {id₁ id₂ base : ClassId} {node₁ node₂ : Node} {younger₁ younger₂ older₁ older₂ : List ClassId}
    (h₁ : (start r numbers).Builds commands id₁ node₁)
    (h₂ : (start r numbers).Builds commands id₂ node₂)
    (hl₁ : ((start r numbers).run commands).registry.lineage id₁ = .ok (younger₁ ++ base :: older₁))
    (hl₂ : ((start r numbers).run commands).registry.lineage id₂ = .ok (younger₂ ++ base :: older₂))
    (hnone : ∀ level ∈ younger₁ ++ younger₂,
      ¬ ((start r numbers).run commands).registry.Declares level key) :
    node₁.field? key = node₂.field? key := by
  have hlayered := start_layered r numbers
  have hdeclared := run_declared hlayered (start_declared r numbers) commands
  have hcontribution := fun level hm => hdeclared.contribution_eq_none (hnone level hm)
  exact (fields_agree hlayered h₁ h₂ hl₁ hl₂ hcontribution).1

end Session

end DocumentModel
