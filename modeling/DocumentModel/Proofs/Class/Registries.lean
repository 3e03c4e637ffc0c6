import DocumentModel.Proofs.Class.Lineages

/-!
# Identity and ancestry in all registries

The registries of a program draw the numbers of their classes from one place, in whatever order
classes are defined in them. What one command keeps (`Registries.Sound.step`) holds after any
commands: numbers belong to one class of one registry, and go down along bases. So classes have
identities and lineages in every state that can be reached
(`Registries.identity_and_ancestry_of_run`).
-/

namespace DocumentModel

/-- The registries of a program, and the numbers for the classes of all of them, which do not run
out here. -/
structure Registries where
  all : List Registry := []
  numbers : ClassNumbers := {}

namespace Registries

/-- A new registry, or a class in the registry at a position. -/
inductive Command
  | new
  | define (position : Nat) (name : String) (base : Option ClassId)

/-- What a definition returns. -/
def reply? (s : Registries) : Command → Option (Except SchemaError ClassId)
  | .new => none
  | .define position name base =>
    s.all[position]?.map fun r => (·.1) <$> r.define? s.numbers name base

def step (s : Registries) : Command → Registries
  | .new => { s with all := s.all ++ [{}] }
  | .define position name base =>
    match s.all[position]? with
    | none => s
    | some r =>
      match r.define? s.numbers name base with
      | .ok (_, r', numbers) => ⟨s.all.set position r', numbers⟩
      | .error _ => s

/-- The registries after commands in turn. -/
def run (s : Registries) (commands : List Command) : Registries := commands.foldl step s

/-- The class that a command defines, if it does. -/
def defined? (s : Registries) (command : Command) : Option ClassId :=
  (s.reply? command).bind Except.toOption

/-- The classes that commands in turn define, the first one first. -/
def definedBy : Registries → List Command → List ClassId
  | _, [] => []
  | s, command :: rest => (s.defined? command).toList ++ (s.step command).definedBy rest

/-- The registry at a position knows a class. -/
def Knows (s : Registries) (position : Nat) (id : ClassId) : Prop :=
  ∃ r, s.all[position]? = some r ∧ r.contains id = true

@[simp]
theorem run_nil (s : Registries) : s.run [] = s := rfl

@[simp]
theorem run_cons (s : Registries) (command : Command) (rest : List Command) :
    s.run (command :: rest) = (s.step command).run rest :=
  rfl

variable {s : Registries} {r : Registry} {command : Command} {position : Nat} {name : String}
  {base : Option ClassId} {id : ClassId} {e : SchemaError}

/-! ## One command -/

/-- **A definition that fails changes nothing.** -/
theorem step_of_reply?_eq_error (h : s.reply? command = some (.error e)) : s.step command = s := by
  cases command with
  | new => cases h
  | define position name base =>
    obtain ⟨r, hr, h⟩ := Option.map_eq_some_iff.mp h
    rw [map_eq_error_iff] at h
    rw [step, hr]
    dsimp only
    rw [h]

/-- **A definition that succeeds adds one entry to one registry**, under the next number. -/
theorem exists_of_reply?_eq_ok (h : s.reply? (.define position name base) = some (.ok id)) :
    ∃ (r : Registry) (entry : ClassEntry), s.all[position]? = some r
      ∧ entry.number = s.numbers.next ∧ entry.name = name ∧ entry.base = base
      ∧ (∀ b ∈ base, r.contains b = true) ∧ id = .declared s.numbers.next
      ∧ s.step (.define position name base)
        = ⟨s.all.set position { r with classes := r.classes ++ [entry] },
          ⟨s.numbers.next + 1⟩⟩ := by
  obtain ⟨r, hr, h⟩ := Option.map_eq_some_iff.mp h
  obtain ⟨⟨_, r', numbers'⟩, hd, rfl⟩ := map_eq_ok_iff.mp h
  obtain ⟨entry, hnumber, hname, hbase, hb, hid, rfl, rfl⟩ := Registry.exists_of_define? hd
  refine ⟨r, entry, hr, hnumber, hname, hbase, hb, hid, ?_⟩
  rw [step, hr]
  dsimp only
  rw [hd]

/-- A command makes a registry, adds one entry to one registry, or does nothing. -/
theorem step_cases (s : Registries) (command : Command) :
    (command = .new ∧ s.defined? command = none ∧ s.step command = { s with all := s.all ++ [{}] })
    ∨ (s.defined? command = none ∧ s.step command = s)
    ∨ ∃ position name base, command = .define position name base
      ∧ s.reply? command = some (.ok (.declared s.numbers.next)) := by
  cases command with
  | new => exact Or.inl ⟨rfl, rfl, rfl⟩
  | define position name base =>
    cases hreply : s.reply? (.define position name base) with
    | none =>
      have hr : s.all[position]? = none := Option.map_eq_none_iff.mp hreply
      refine Or.inr (Or.inl ⟨by rw [defined?, hreply]; rfl, ?_⟩)
      rw [step, hr]
    | some result =>
      cases result with
      | error e =>
        exact Or.inr (Or.inl ⟨by rw [defined?, hreply]; rfl, step_of_reply?_eq_error hreply⟩)
      | ok id =>
        obtain ⟨-, -, -, -, -, -, -, hid, -⟩ := exists_of_reply?_eq_ok hreply
        exact Or.inr (Or.inr ⟨position, name, base, rfl, by rw [hid]⟩)

/-! ## Who knows a class -/

theorem knows_new_iff {n : Nat} :
    (s.step .new).Knows position (.declared n) ↔ s.Knows position (.declared n) := by
  constructor
  · rintro ⟨r, hr, hc⟩
    rw [step, List.getElem?_append] at hr
    split at hr
    · exact ⟨r, hr, hc⟩
    · -- the new registry knows no declared class
      have hnew := List.mem_of_getElem? hr
      rw [List.mem_singleton.mp hnew] at hc
      cases hc
  · rintro ⟨r, hr, hc⟩
    obtain ⟨hlt, -⟩ := List.getElem?_eq_some_iff.mp hr
    exact ⟨r, (List.getElem?_append_left hlt).trans hr, hc⟩

theorem knows_define_iff (h : s.reply? (.define position name base) = some (.ok id)) {i n : Nat} :
    (s.step (.define position name base)).Knows i (.declared n)
      ↔ s.Knows i (.declared n) ∨ i = position ∧ .declared n = id := by
  obtain ⟨r, entry, hr, hnumber, -, -, -, rfl, hstep⟩ := exists_of_reply?_eq_ok h
  obtain ⟨hlt, -⟩ := List.getElem?_eq_some_iff.mp hr
  rw [hstep, Knows, Knows]
  by_cases hi : i = position
  · subst hi
    simp only [List.getElem?_set_self hlt, hr, Option.some.injEq, exists_eq_left',
      Registry.contains_append_iff, hnumber, true_and]
  · simp only [List.getElem?_set_ne (Ne.symm hi), hi, false_and, or_false]

/-! ## What one command keeps -/

/-- **Numbers belong to one class of one registry, and bases are known.** -/
structure Sound (s : Registries) : Prop where
  first : ClassId.firstNumber ≤ s.numbers.next
  numbered : ∀ r ∈ s.all, r.Numbered s.numbers.next
  apart : ∀ i j n, s.Knows i (.declared n) → s.Knows j (.declared n) → i = j
  bases : ∀ r ∈ s.all, r.BasesKnown

namespace Sound

theorem start : ({} : Registries).Sound where
  first := Nat.le_refl _
  numbered := nofun
  apart := by
    rintro i j n ⟨r, hr, -⟩
    cases hr
  bases := nofun

theorem number_lt (h : s.Sound) {n : Nat} (hk : s.Knows position (.declared n)) :
    n < s.numbers.next := by
  obtain ⟨r, hr, hc⟩ := hk
  obtain ⟨e, he, rfl⟩ := Registry.contains_declared_iff.mp hc
  exact (h.numbered r (List.mem_of_getElem? hr)).below e he

theorem new (h : s.Sound) : (s.step .new).Sound where
  first := h.first
  numbered := by
    intro r hr
    rcases List.mem_append.mp hr with hr | hr
    · exact h.numbered r hr
    · rw [List.mem_singleton.mp hr]
      exact .empty _
  apart := by
    intro i j n hi hj
    exact h.apart i j n (knows_new_iff.mp hi) (knows_new_iff.mp hj)
  bases := by
    intro r hr
    rcases List.mem_append.mp hr with hr | hr
    · exact h.bases r hr
    · rw [List.mem_singleton.mp hr]
      exact Registry.basesKnown_empty

theorem define (h : s.Sound) (hd : s.reply? (.define position name base) = some (.ok id)) :
    (s.step (.define position name base)).Sound := by
  have hknows := @knows_define_iff _ _ _ _ _ hd
  obtain ⟨r, entry, hr, hnumber, -, hbase, hb, rfl, hstep⟩ := exists_of_reply?_eq_ok hd
  have hmem : r ∈ s.all := List.mem_of_getElem? hr
  refine ⟨?first, ?numbered, ?apart, ?bases⟩
  case first =>
    rw [hstep]
    exact Nat.le_succ_of_le h.first
  case numbered =>
    rw [hstep]
    intro x hx
    rcases List.mem_or_eq_of_mem_set hx with hx | rfl
    · exact (h.numbered x hx).mono (Nat.le_succ _)
    · exact (h.numbered r hmem).append h.first hnumber
  case apart =>
    intro i j n hi hj
    -- the new number was not known anywhere
    rcases hknows.mp hi with hold | ⟨rfl, hnew⟩
    · rcases hknows.mp hj with hold' | ⟨-, hnew⟩
      · exact h.apart i j n hold hold'
      · cases hnew
        exact absurd (h.number_lt hold) (Nat.lt_irrefl _)
    · rcases hknows.mp hj with hold | ⟨rfl, -⟩
      · cases hnew
        exact absurd (h.number_lt hold) (Nat.lt_irrefl _)
      · rfl
  case bases =>
    rw [hstep]
    intro x hx
    rcases List.mem_or_eq_of_mem_set hx with hx | rfl
    · exact h.bases x hx
    · exact (h.bases r hmem).append (hbase ▸ hb)

/-- **One command keeps registries sound.** -/
theorem step (h : s.Sound) (command : Command) : (s.step command).Sound := by
  rcases step_cases s command with ⟨rfl, -, -⟩ | ⟨-, hsame⟩ | ⟨position, name, base, rfl, hd⟩
  · exact h.new
  · rw [hsame]
    exact h
  · exact h.define hd

/-- **So does a run.** -/
theorem run (h : s.Sound) (commands : List Command) : (s.run commands).Sound := by
  induction commands generalizing s with
  | nil => exact h
  | cons command rest ih => exact ih (h.step command)

end Sound

/-! ## The classes that were defined -/

/-- **Classes get ever greater numbers.** -/
theorem pairwise_definedBy (s : Registries) (commands : List Command) :
    (s.definedBy commands).Pairwise (fun older younger => older.number < younger.number)
      ∧ ∀ id ∈ s.definedBy commands, s.numbers.next ≤ id.number := by
  induction commands generalizing s with
  | nil => exact ⟨List.Pairwise.nil, nofun⟩
  | cons command rest ih =>
    obtain ⟨hpairwise, hle⟩ := ih (s.step command)
    rw [definedBy]
    rcases step_cases s command with
      ⟨-, hnone, hstep⟩ | ⟨hnone, hstep⟩ | ⟨position, name, base, rfl, hd⟩
    · rw [hstep] at hpairwise hle
      rw [hnone, hstep]
      exact ⟨hpairwise, hle⟩
    · rw [hstep] at hpairwise hle
      rw [hnone, hstep]
      exact ⟨hpairwise, hle⟩
    · have hdefined :
          s.defined? (.define position name base) = some (.declared s.numbers.next) := by
        rw [defined?, hd]
        rfl
      obtain ⟨_, _, -, -, -, -, -, -, hstep⟩ := exists_of_reply?_eq_ok hd
      have hnext : (s.step (.define position name base)).numbers.next = s.numbers.next + 1 := by
        rw [hstep]
      rw [hnext] at hle
      rw [hdefined, Option.toList_some, List.singleton_append]
      refine ⟨List.pairwise_cons.mpr ⟨hle, hpairwise⟩, List.forall_mem_cons.mpr ⟨Nat.le_refl _, ?_⟩⟩
      exact fun id hid => Nat.le_of_succ_le (hle id hid)

/-! ## Any commands -/

/-- A number says which class it is, be it built-in or declared, wherever it is known. -/
theorem eq_of_number_eq (h : s.Sound) {i j : Nat} {id' : ClassId} (hi : s.Knows i id)
    (hj : s.Knows j id') (hn : id.number = id'.number) : id = id' := by
  have hfirst : ∀ {i id}, s.Knows i id → ∀ n, id = .declared n → ClassId.firstNumber ≤ n := by
    rintro i _ ⟨r, hr, hc⟩ n rfl
    obtain ⟨e, he, rfl⟩ := Registry.contains_declared_iff.mp hc
    exact (h.numbered r (List.mem_of_getElem? hr)).first e he
  exact ClassId.number_injective hn (hfirst hi) (hfirst hj)

theorem reply?_eq_error_iff (h : s.Sound) (hr : s.all[position]? = some r) :
    (∃ e, s.reply? (.define position name base) = some (.error e))
      ↔ ∃ b ∈ base, r.contains b = false := by
  have hfails : (∃ e, r.define? s.numbers name base = .error e)
      ↔ ∃ b ∈ base, r.contains b = false :=
    Registry.define?_eq_error_iff (h.numbered r (List.mem_of_getElem? hr))
  rw [← hfails]
  simp only [reply?, hr, Option.map_some, Option.some.injEq, map_eq_error_iff]

/-- The class that was defined is there, with its name and its base. -/
theorem defined_of_reply? (h : s.Sound)
    (hd : s.reply? (.define position name base) = some (.ok id)) :
    (∀ i, ¬ s.Knows i id) ∧ ∃ r, (s.step (.define position name base)).all[position]? = some r
      ∧ r.className? id = some name ∧ r.base? id = base := by
  obtain ⟨r, entry, hr, hnumber, hname, hbase, -, rfl, hstep⟩ := exists_of_reply?_eq_ok hd
  have hnew : ∀ i, ¬ s.Knows i (.declared s.numbers.next) :=
    fun i hk => Nat.lt_irrefl _ (h.number_lt hk)
  obtain ⟨hlt, -⟩ := List.getElem?_eq_some_iff.mp hr
  have hnone : r.entry? s.numbers.next = none := by
    rw [← Option.not_isSome_iff_eq_none]
    exact fun hsome => hnew position ⟨r, hr, hsome⟩
  have hentry : Registry.entry? { r with classes := r.classes ++ [entry] } s.numbers.next
      = some entry := by
    rw [Registry.entry?_append, hnone, if_pos hnumber, Option.none_or]
  refine ⟨hnew, { r with classes := r.classes ++ [entry] }, ?_, ?_, ?_⟩
  · rw [hstep, List.getElem?_set_self hlt]
  · rw [Registry.className?, hentry, Option.map_some, hname]
  · rw [Registry.base?, hentry, Option.bind_some, hbase]

/-- **Identity and ancestry of classes, whatever was defined and wherever**, with or without
success. No two classes have the same id, and no declared class is known to two registries. A base
is known to the registry of its class and has a smaller number. So every class that is known has a
lineage, which starts at the class, follows bases, contains no class twice and ends at a class
without a base. And a definition fails exactly when its base is not known, and then changes
nothing. -/
theorem identity_and_ancestry_of_run (commands : List Command) :
    let s := ({} : Registries).run commands
    (({} : Registries).definedBy commands).Nodup
    ∧ (∀ r ∈ s.all, (r.classes.map (·.number)).Nodup)
    ∧ (∀ i j id id', s.Knows i id → s.Knows j id' → id.number = id'.number → id = id')
    ∧ (∀ i j n, s.Knows i (.declared n) → s.Knows j (.declared n) → i = j)
    ∧ (∀ r ∈ s.all, ∀ id base, r.base? id = some base →
      r.contains base = true ∧ base.number < id.number)
    ∧ (∀ r ∈ s.all, ∀ id, r.contains id = true → ∃ ancestors,
      r.lineage id = .ok (id :: ancestors)
      ∧ (id :: ancestors).IsChain (fun level base => r.base? level = some base)
      ∧ (id :: ancestors).Nodup
      ∧ ∀ root ∈ (id :: ancestors).getLast?, r.base? root = none)
    ∧ (∀ position name base id, s.reply? (.define position name base) = some (.ok id) →
      (∀ i, ¬ s.Knows i id) ∧ ∃ r, (s.step (.define position name base)).all[position]? = some r
        ∧ r.className? id = some name ∧ r.base? id = base)
    ∧ ∀ position name base r, s.all[position]? = some r →
      ((∃ e, s.reply? (.define position name base) = some (.error e))
        ↔ ∃ b ∈ base, r.contains b = false)
      ∧ ∀ e, s.reply? (.define position name base) = some (.error e) →
        s.step (.define position name base) = s := by
  intro s
  have hsound : s.Sound := Sound.start.run commands
  refine ⟨?_, ?_, ?_, hsound.apart, ?_, ?_, ?_, ?_⟩
  · exact (pairwise_definedBy _ commands).1.imp fun hlt heq =>
      Nat.ne_of_lt hlt (congrArg ClassId.number heq)
  · exact fun r hr => (hsound.numbered r hr).once
  · exact fun i j id id' hi hj hn => eq_of_number_eq hsound hi hj hn
  · intro r hr id base hb
    exact ⟨(hsound.bases r hr).contains_base hb, (hsound.numbered r hr).base_lt hb⟩
  · intro r hr id hc
    obtain ⟨ancestors, hl⟩ := (hsound.bases r hr).exists_lineage hc
    exact ⟨ancestors, hl, Registry.isChain_of_lineage hl, (hsound.numbered r hr).nodup_lineage hl,
      fun root hroot => Registry.base?_of_getLast? hl hroot⟩
  · exact fun position name base id hd => defined_of_reply? hsound hd
  · intro position name base r hr
    exact ⟨reply?_eq_error_iff hsound hr, fun e he => step_of_reply?_eq_error he⟩

/-- The class of the second registry cannot be the base of one in the first. -/
def families : List Command :=
  [.new, .new, .define 0 "Root" none, .define 1 "Elsewhere" none,
    .define 0 "Child" (some (.declared 65)), .define 0 "Middle" (some (.declared 64)),
    .define 0 "Leaf" (some (.declared 66))]

theorem identity_and_ancestry_of_families :
    let s := ({} : Registries).run families
    (({} : Registries).definedBy families).Nodup
    ∧ (∃ r, s.all[0]? = some r
      ∧ r.lineage (.declared 67) = .ok [.declared 67, .declared 66, .declared 64]
      ∧ [ClassId.declared 67, .declared 66, .declared 64].Nodup)
    ∧ (∃ e, s.reply? (.define 0 "Child" (some (.declared 65))) = some (.error e))
    ∧ s.step (.define 0 "Child" (some (.declared 65))) = s := by
  intro s
  obtain ⟨hdefined, -, -, -, -, hlineage, -, hfails⟩ := identity_and_ancestry_of_run families
  obtain ⟨r, hr⟩ : ∃ r, s.all[0]? = some r := ⟨_, rfl⟩
  obtain ⟨ancestors, hl, -, hnodup, -⟩ :=
    hlineage r (List.mem_of_getElem? hr) (.declared 67) (by cases hr; rfl)
  have hancestors :
      ClassId.declared 67 :: ancestors = [.declared 67, .declared 66, .declared 64] := by
    cases hr
    exact Except.ok.inj (hl.symm.trans (by with_unfolding_all rfl))
  rw [hancestors] at hl hnodup
  obtain ⟨hiff, hsame⟩ := hfails 0 "Child" (some (.declared 65)) r hr
  obtain ⟨e, he⟩ := hiff.mpr ⟨.declared 65, rfl, by cases hr; rfl⟩
  exact ⟨hdefined, ⟨r, hr, hl, hnodup⟩, ⟨e, he⟩, hsame e he⟩

end Registries

end DocumentModel
