/-!
# Steps that may fail

A computation of several steps succeeds when all its steps do, and fails with the error of one of
them.
-/

namespace DocumentModel

variable {ε α β σ : Type}

/-! ## Two steps -/

/-- Two steps succeed when the first one does and the second one does with its result. -/
theorem bind_eq_ok_iff {x : Except ε α} {f : α → Except ε β} {b : β} :
    x >>= f = .ok b ↔ ∃ a, x = .ok a ∧ f a = .ok b := by
  cases x with
  | ok a => exact ⟨fun h => ⟨a, rfl, h⟩, fun ⟨_, he, h⟩ => by cases he; exact h⟩
  | error e => exact iff_of_false nofun fun ⟨_, he, _⟩ => nomatch he

/-- Two steps fail with the error of the first one that fails. -/
theorem bind_eq_error_iff {x : Except ε α} {f : α → Except ε β} {e : ε} :
    x >>= f = .error e ↔ x = .error e ∨ ∃ a, x = .ok a ∧ f a = .error e := by
  cases x with
  | ok a =>
    constructor
    · exact fun h => Or.inr ⟨a, rfl, h⟩
    · rintro (he | ⟨_, he, h⟩)
      · cases he
      · cases he
        exact h
  | error e' =>
    constructor
    · intro h
      cases h
      exact Or.inl rfl
    · rintro (he | ⟨_, he, -⟩)
      · cases he
        rfl
      · cases he

/-- What is made of a result does not decide whether there is one. -/
theorem map_eq_ok_iff {x : Except ε α} {f : α → β} {b : β} :
    f <$> x = .ok b ↔ ∃ a, x = .ok a ∧ f a = b := by
  cases x with
  | ok a =>
    constructor
    · intro h
      cases h
      exact ⟨a, rfl, rfl⟩
    · rintro ⟨_, he, rfl⟩
      cases he
      rfl
  | error e => exact iff_of_false nofun fun ⟨_, he, _⟩ => nomatch he

theorem map_eq_error_iff {x : Except ε α} {f : α → β} {e : ε} :
    f <$> x = .error e ↔ x = .error e := by
  cases x with
  | ok a => exact iff_of_false nofun nofun
  | error e' =>
    constructor
    · intro h
      cases h
      rfl
    · intro h
      cases h
      rfl

/-! ## Steps along a list -/

/-- Results and elements stand at the same places. -/
theorem forall₂_of_mapM_eq_ok {f : α → Except ε β} {l : List α} {l' : List β}
    (h : l.mapM f = .ok l') :
    l'.length = l.length ∧ (∀ a ∈ l, ∃ b ∈ l', f a = .ok b) ∧ ∀ b ∈ l', ∃ a ∈ l, f a = .ok b := by
  induction l generalizing l' with
  | nil =>
    cases h
    simp
  | cons a rest ih =>
    rw [List.mapM_cons, bind_eq_ok_iff] at h
    obtain ⟨b, hb, h⟩ := h
    obtain ⟨bs, hbs, h⟩ := bind_eq_ok_iff.mp h
    cases h
    obtain ⟨hlen, hl, hr⟩ := ih hbs
    refine ⟨by simp [hlen], ?_, ?_⟩
    · intro x hx
      rcases List.mem_cons.mp hx with rfl | hx
      · exact ⟨b, List.mem_cons_self, hb⟩
      · obtain ⟨y, hy, hf⟩ := hl x hx
        exact ⟨y, List.mem_cons_of_mem _ hy, hf⟩
    · intro y hy
      rcases List.mem_cons.mp hy with rfl | hy
      · exact ⟨a, List.mem_cons_self, hb⟩
      · obtain ⟨x, hx, hf⟩ := hr y hy
        exact ⟨x, List.mem_cons_of_mem _ hx, hf⟩

/-- A list of steps fails with the error of one of them. -/
theorem exists_of_mapM_eq_error {f : α → Except ε β} {l : List α} {e : ε}
    (h : l.mapM f = .error e) : ∃ a ∈ l, f a = .error e := by
  induction l with
  | nil => cases h
  | cons a rest ih =>
    rw [List.mapM_cons, bind_eq_error_iff] at h
    rcases h with h | ⟨b, -, h⟩
    · exact ⟨a, List.mem_cons_self, h⟩
    · rcases bind_eq_error_iff.mp h with h | ⟨_, _, h⟩
      · obtain ⟨x, hx, hf⟩ := ih h
        exact ⟨x, List.mem_cons_of_mem _ hx, hf⟩
      · cases h

theorem flatten_mapM_cons {f : α → Except ε (List β)} (a : α) (l : List α) :
    List.flatten <$> (a :: l).mapM f
      = f a >>= fun own => (own ++ ·) <$> (List.flatten <$> l.mapM f) := by
  rw [List.mapM_cons]
  cases f a with
  | error e => rfl
  | ok own => cases l.mapM f <;> rfl

/-- When all steps succeed, each one does. -/
theorem exists_of_flatten_mapM_eq_ok {f : α → Except ε (List β)} {l : List α} {all : List β}
    (h : List.flatten <$> l.mapM f = .ok all) {a : α} (ha : a ∈ l) : ∃ own, f a = .ok own := by
  obtain ⟨each, heach, -⟩ := map_eq_ok_iff.mp h
  obtain ⟨own, -, hown⟩ := (forall₂_of_mapM_eq_ok heach).2.1 a ha
  exact ⟨own, hown⟩

/-- Every entry of the whole comes from a step. -/
theorem mem_of_flatten_mapM_eq_ok {f : α → Except ε (List β)} {l : List α}
    {all : List β} (h : List.flatten <$> l.mapM f = .ok all) {b : β} (hb : b ∈ all) :
    ∃ a ∈ l, ∃ own, f a = .ok own ∧ b ∈ own := by
  obtain ⟨each, heach, rfl⟩ := map_eq_ok_iff.mp h
  obtain ⟨own, hown, hb⟩ := List.mem_flatten.mp hb
  obtain ⟨a, ha, hf⟩ := (forall₂_of_mapM_eq_ok heach).2.2 own hown
  exact ⟨a, ha, own, hf, hb⟩

theorem exists_of_flatten_mapM_eq_error {f : α → Except ε (List β)} {l : List α} {e : ε}
    (h : List.flatten <$> l.mapM f = .error e) : ∃ a ∈ l, f a = .error e :=
  exists_of_mapM_eq_error (map_eq_error_iff.mp h)

/-- What is done to all results may be done at the end. -/
theorem flatten_mapM_map {f f' : α → Except ε (List β)} {g : β → β} {l : List α}
    (h : ∀ a ∈ l, f' a = List.map g <$> f a) :
    List.flatten <$> l.mapM f' = List.map g <$> (List.flatten <$> l.mapM f) := by
  induction l with
  | nil => rfl
  | cons a rest ih =>
    obtain ⟨ha, hrest⟩ := List.forall_mem_cons.mp h
    rw [flatten_mapM_cons, flatten_mapM_cons, ha, ih hrest]
    cases f a with
    | error e => rfl
    | ok own =>
      cases rest.mapM f with
      | error e => rfl
      | ok others => exact congrArg Except.ok List.map_append.symm

theorem exists_of_foldlM_eq_ok {f : σ → α → Except ε σ} {l : List α} {s t : σ}
    (h : l.foldlM f s = .ok t) : ∀ a ∈ l, ∃ s t, f s a = .ok t := by
  induction l generalizing s with
  | nil => simp
  | cons a rest ih =>
    rw [List.foldlM_cons, bind_eq_ok_iff] at h
    obtain ⟨u, hu, h⟩ := h
    exact List.forall_mem_cons.mpr ⟨⟨s, u, hu⟩, ih h⟩

/-- What every step keeps holds at the end. -/
theorem of_foldlM_eq_ok {p : σ → Prop} {f : σ → α → Except ε σ} {l : List α} {s t : σ} (hs : p s)
    (hstep : ∀ a ∈ l, ∀ s t, p s → f s a = .ok t → p t) (h : l.foldlM f s = .ok t) : p t := by
  induction l generalizing s with
  | nil =>
    cases h
    exact hs
  | cons a rest ih =>
    obtain ⟨ha, hrest⟩ := List.forall_mem_cons.mp hstep
    rw [List.foldlM_cons, bind_eq_ok_iff] at h
    obtain ⟨u, hu, h⟩ := h
    exact ih (ha s u hs hu) hrest h

/-- A run that fails has failed at one of its steps, from some state. -/
theorem exists_of_foldlM_eq_error {f : σ → α → Except ε σ} {l : List α} {s : σ} {e : ε}
    (h : l.foldlM f s = .error e) : ∃ a ∈ l, ∃ s, f s a = .error e := by
  induction l generalizing s with
  | nil => cases h
  | cons a rest ih =>
    rw [List.foldlM_cons, bind_eq_error_iff] at h
    rcases h with h | ⟨u, -, h⟩
    · exact ⟨a, List.mem_cons_self, s, h⟩
    · obtain ⟨x, hx, hf⟩ := ih h
      exact ⟨x, List.mem_cons_of_mem _ hx, hf⟩

end DocumentModel
