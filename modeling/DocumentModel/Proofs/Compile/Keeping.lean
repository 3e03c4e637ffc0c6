import DocumentModel.Proofs.Compile.Agreement

/-!
# What builds keep

Results are only ever added to a cache: a class keeps the result that it had first (`Extends`).
`Build.Relates` compares two builds, each of which starts from a cache of its own. A relation
between caches that holds before them holds after them again, and they answer the same.
-/

namespace DocumentModel

/-! ## Kept results -/

section

variable {α : Type} {id other : ClassId} {a : α} {kept kept' kept'' entries : List (ClassId × α)}

/-- More results are kept, all of them of classes that had none. -/
def Extends (kept kept' : List (ClassId × α)) : Prop :=
  ∃ new, kept' = kept ++ new ∧ ∀ entry ∈ new, findClass? entry.1 kept = none

/-- Of two lists of results the first one counts, where it has the class. -/
theorem findClass?_append :
    findClass? id (kept ++ kept') = (findClass? id kept).or (findClass? id kept') := by
  rw [findClass?, findClass?, findClass?, List.find?_append, Option.map_or]

theorem findClass?_cons (entry : ClassId × α) (rest : List (ClassId × α)) :
    findClass? id (entry :: rest) = if entry.1 = id then some entry.2 else findClass? id rest := by
  rw [findClass?, List.find?_cons]
  by_cases h : entry.1 = id
  · simp [h]
  · simp [h, findClass?]

theorem findClass?_singleton_self : findClass? id [(id, a)] = some a := by simp [findClass?]

/-- A class of which there is an entry has a result. -/
theorem exists_of_mem {entry : ClassId × α} (h : entry ∈ kept) :
    ∃ b, findClass? entry.1 kept = some b := by
  rw [← Option.isSome_iff_exists, findClass?, Option.isSome_map, List.find?_isSome]
  exact ⟨entry, h, by simp⟩

namespace Extends

theorem refl (kept : List (ClassId × α)) : Extends kept kept := ⟨[], by simp, by simp⟩

/-- A result that is kept is kept from then on. -/
theorem findClass?_eq_some (h : Extends kept kept') (hk : findClass? id kept = some a) :
    findClass? id kept' = some a := by
  obtain ⟨new, rfl, -⟩ := h
  rw [findClass?_append, hk, Option.some_or]

/-- What has no result at the end had none before. -/
theorem findClass?_eq_none (h : Extends kept kept') (hk : findClass? id kept' = none) :
    findClass? id kept = none := by
  obtain ⟨new, rfl, -⟩ := h
  rw [findClass?_append, Option.or_eq_none_iff] at hk
  exact hk.1

/-- Results that are added one after the other are added together. -/
theorem trans (h : Extends kept kept') (h' : Extends kept' kept'') : Extends kept kept'' := by
  obtain ⟨new, rfl, hnew⟩ := h
  obtain ⟨newer, rfl, hnewer⟩ := h'
  refine ⟨new ++ newer, List.append_assoc .., fun entry hm => ?_⟩
  rcases List.mem_append.mp hm with hm | hm
  · exact hnew entry hm
  · exact findClass?_eq_none ⟨new, rfl, hnew⟩ (hnewer entry hm)

/-- **Either nothing is added, or a class without result gets one.** -/
theorem eq_or_exists (h : Extends kept kept') :
    kept' = kept ∨ ∃ id a, findClass? id kept = none ∧ findClass? id kept' = some a := by
  obtain ⟨new, rfl, hnew⟩ := h
  cases new with
  | nil => exact Or.inl (List.append_nil kept)
  | cons entry rest =>
    have hnone := hnew entry List.mem_cons_self
    obtain ⟨a, ha⟩ := exists_of_mem (List.mem_cons_self (a := entry) (l := rest))
    exact Or.inr ⟨entry.1, a, hnone, by rw [findClass?_append, hnone, Option.none_or, ha]⟩

end Extends

/-! ### Keeping one result -/

/-- A class that has a result keeps it. -/
theorem keepFirst_of_kept (h : findClass? id kept = some a) (b : α) :
    keepFirst id b kept = kept := by
  rw [keepFirst, h, Option.isSome_some, if_pos rfl]

/-- A class without one is put at the end. -/
theorem keepFirst_of_none (h : findClass? id kept = none) (b : α) :
    keepFirst id b kept = kept ++ [(id, b)] := by
  rw [keepFirst, h, Option.isSome_none, if_neg Bool.false_ne_true]

theorem extends_keepFirst (id : ClassId) (a : α) (kept : List (ClassId × α)) :
    Extends kept (keepFirst id a kept) := by
  cases h : findClass? id kept with
  | some b =>
    rw [keepFirst_of_kept h]
    exact .refl kept
  | none =>
    rw [keepFirst_of_none h]
    exact ⟨_, rfl, fun entry hm => by rw [List.mem_singleton.mp hm, h]⟩

theorem findClass?_keepFirst_self (h : findClass? id kept = none) (a : α) :
    findClass? id (keepFirst id a kept) = some a := by
  rw [keepFirst_of_none h, findClass?_append, h, Option.none_or, findClass?_singleton_self]

/-- Keeping the result of one class gives no result to another. -/
theorem findClass?_keepFirst_of_ne (hne : other ≠ id) (h : findClass? other kept = none) :
    findClass? other (keepFirst id a kept) = none := by
  cases hk : findClass? other (keepFirst id a kept) with
  | none => rfl
  | some b =>
    rcases findClass?_keepFirst hk with hk | ⟨he, -⟩
    · cases h.symm.trans hk
    · exact absurd he hne

/-! ### Keeping several results -/

/-- Keeps results one after the other. -/
def keepAll (entries kept : List (ClassId × α)) : List (ClassId × α) :=
  entries.foldl (fun kept entry => keepFirst entry.1 entry.2 kept) kept

theorem keepAll_cons (entry : ClassId × α) (entries kept : List (ClassId × α)) :
    keepAll (entry :: entries) kept = keepAll entries (keepFirst entry.1 entry.2 kept) :=
  rfl

/-- **Keeping results never changes those that are there.** -/
theorem extends_keepAll (entries kept : List (ClassId × α)) :
    Extends kept (keepAll entries kept) := by
  induction entries generalizing kept with
  | nil => exact .refl kept
  | cons entry rest ih => exact (extends_keepFirst ..).trans (ih _)

/-- Where all classes have results, nothing is added. -/
theorem keepAll_of_kept (h : ∀ entry ∈ entries, ∃ b, findClass? entry.1 kept = some b) :
    keepAll entries kept = kept := by
  induction entries with
  | nil => rfl
  | cons entry rest ih =>
    obtain ⟨⟨b, hb⟩, hrest⟩ := List.forall_mem_cons.mp h
    rw [keepAll_cons, keepFirst_of_kept hb, ih hrest]

/-- Every class of the entries has a result afterwards, its own or an older one. -/
theorem exists_findClass?_keepAll {entry : ClassId × α} (h : entry ∈ entries) :
    ∃ b, findClass? entry.1 (keepAll entries kept) = some b := by
  induction entries generalizing kept with
  | nil => cases h
  | cons first rest ih =>
    rw [keepAll_cons]
    rcases List.mem_cons.mp h with rfl | h
    · cases hk : findClass? entry.1 kept with
      | none => exact ⟨_, (extends_keepAll ..).findClass?_eq_some (findClass?_keepFirst_self hk _)⟩
      | some b =>
        rw [keepFirst_of_kept hk]
        exact ⟨b, (extends_keepAll ..).findClass?_eq_some hk⟩
    · exact ih h

end

/-! ## Steps of a build -/

namespace Build

variable {α β : Type} {x y : Build α} {f g : α → Build β} {c : Cache} {a : α} {e : SchemaError}

/-- The second step starts from the cache that the first step leaves. -/
theorem run_bind_of_ok (h : x.answer c = .ok a) :
    (x >>= f).answer c = (f a).answer (x.after c)
      ∧ (x >>= f).after c = (f a).after (x.after c) := by
  have hrun : (x >>= f).run.run c = (f a).run.run (x.after c) := by
    simp only [ExceptT.run_bind, StateT.run_bind]
    unfold answer at h
    unfold after
    rcases hx : x.run.run c with ⟨_, c'⟩
    rw [hx] at h
    cases h
    rfl
  exact ⟨congrArg Prod.fst hrun, congrArg Prod.snd hrun⟩

/-- A build ends with a step that fails. -/
theorem run_bind_of_error (h : x.answer c = .error e) :
    (x >>= f).answer c = .error e ∧ (x >>= f).after c = x.after c := by
  have hrun : (x >>= f).run.run c = (.error e, x.after c) := by
    simp only [ExceptT.run_bind, StateT.run_bind]
    unfold answer at h
    unfold after
    rcases hx : x.run.run c with ⟨_, c'⟩
    rw [hx] at h
    cases h
    rfl
  exact ⟨congrArg Prod.fst hrun, congrArg Prod.snd hrun⟩

/-- A sequence that answers has gone through both of its parts. -/
theorem exists_of_bind_eq_ok {b : β} (h : (x >>= f).answer c = .ok b) :
    ∃ a, x.answer c = .ok a ∧ (f a).answer (x.after c) = .ok b := by
  cases hx : x.answer c with
  | ok a =>
    rw [(run_bind_of_ok hx).1] at h
    exact ⟨a, rfl, h⟩
  | error e =>
    rw [(run_bind_of_error hx).1] at h
    cases h

/-- A failing build has left the cache as it was, if all its steps do. -/
theorem after_of_bind_eq_error (hx : x.after c = c)
    (hf : ∀ a, (f a).answer c = .error e → (f a).after c = c) (h : (x >>= f).answer c = .error e) :
    (x >>= f).after c = c := by
  cases hxa : x.answer c with
  | ok a =>
    rw [(run_bind_of_ok hxa).1, hx] at h
    rw [(run_bind_of_ok hxa).2, hx]
    exact hf a h
  | error e' => rw [(run_bind_of_error hxa).2, hx]

/-- Looking at the cache changes nothing. -/
theorem run_get_bind {f : Cache → Build α} :
    (get >>= f).answer c = (f c).answer c ∧ (get >>= f).after c = (f c).after c :=
  ⟨rfl, rfl⟩

theorem run_map (f : α → β) (x : Build α) (c : Cache) :
    (f <$> x).answer c = f <$> x.answer c ∧ (f <$> x).after c = x.after c := by
  rw [← bind_pure_comp]
  cases h : x.answer c with
  | ok a => exact run_bind_of_ok h
  | error e => exact run_bind_of_error h

/-! ### Two builds -/

variable {P : Cache → Cache → Prop} {d : Cache}

/-- **Two builds agree if their first steps answer the same**, and their second steps agree after
these. -/
theorem run_bind_alike (h : x.answer c = y.answer d)
    (herror : ∀ e, y.answer d = .error e → P (x.after c) (y.after d))
    (hok : ∀ a, y.answer d = .ok a → (f a).answer (x.after c) = (g a).answer (y.after d)
      ∧ P ((f a).after (x.after c)) ((g a).after (y.after d))) :
    (x >>= f).answer c = (y >>= g).answer d ∧ P ((x >>= f).after c) ((y >>= g).after d) := by
  cases hy : y.answer d with
  | ok a =>
    obtain ⟨hanswer, hafter⟩ := run_bind_of_ok (f := f) (h.trans hy)
    obtain ⟨hanswer', hafter'⟩ := run_bind_of_ok (f := g) hy
    rw [hanswer, hafter, hanswer', hafter']
    exact hok a hy
  | error e =>
    obtain ⟨hanswer, hafter⟩ := run_bind_of_error (f := f) (h.trans hy)
    obtain ⟨hanswer', hafter'⟩ := run_bind_of_error (f := g) hy
    rw [hanswer, hafter, hanswer', hafter']
    exact ⟨rfl, herror e hy⟩

/-- From related caches two builds answer the same, and they leave related caches. -/
def Relates (P : Cache → Cache → Prop) (x y : Build α) : Prop :=
  ∀ c d, P c d → x.answer c = y.answer d ∧ P (x.after c) (y.after d)

namespace Relates

theorem pure (a : α) : Relates P (pure a) (pure a) := fun _ _ h => ⟨rfl, h⟩

theorem throw (e : SchemaError) : Relates P (throw e : Build α) (throw e) := fun _ _ h => ⟨rfl, h⟩

theorem ofExcept (e : Except SchemaError α) :
    Relates P (ExceptT.mk (Pure.pure e)) (ExceptT.mk (Pure.pure e)) := fun _ _ h => ⟨rfl, h⟩

/-- Builds that start alike and go on alike are alike. -/
theorem bind (h : Relates P x y) (hf : ∀ a, Relates P (f a) (g a)) :
    Relates P (x >>= f) (y >>= g) := by
  intro c d hcd
  obtain ⟨hanswer, hafter⟩ := h c d hcd
  exact run_bind_alike hanswer (fun _ _ => hafter) fun a _ => hf a _ _ hafter

theorem map (f : α → β) (h : Relates P x y) : Relates P (f <$> x) (f <$> y) := by
  rw [← bind_pure_comp, ← bind_pure_comp]
  exact h.bind fun a => .pure (f a)

/-- A change of the cache is fine when it keeps the relation. -/
theorem modify {f : Cache → Cache} (h : ∀ c d, P c d → P (f c) (f d)) :
    Relates P (modify f) (modify f) :=
  fun c d hcd => ⟨rfl, h c d hcd⟩

end Relates

/-- A relation between caches goes through the steps of a computation. -/
theorem relates_simulation (P : Cache → Cache → Prop) :
    Simulation Build Build fun _ => Relates P where
  pure := .pure
  throw := .throw
  bind := .bind

end Build

end DocumentModel
