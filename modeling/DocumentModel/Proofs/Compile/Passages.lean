import DocumentModel.Proofs.Compile.FieldIndexes
import DocumentModel.Proofs.Compile.Requests

/-!
# Cycles of passages

A field with an index passes through to the class of its objects, so that builds of indexes nest.
They end for every registry, as they nest no deeper than there are classes (`indexesWithin_eq`). And
where nothing else can go wrong they fail exactly if following fields that pass through leads to a
class for the second time, or to a level that passes through to itself
(`Registry.buildIndexes_ends_and_detects_cycles`). What can be followed depends on the way: excluded
fields count at the class that is asked for, and at no other.
-/

namespace DocumentModel

/-! ## How deep builds nest -/

/-- One step into a class, with `inner` as the build of the classes below. -/
def indexesStep (r : Registry)
    (inner : List ClassId → Option String → ClassId → Build (List IndexDescription))
    (building : List ClassId) (parent : Option String) (id : ClassId) :
    Build (List IndexDescription) := do
  let cache ← get
  match if parent.isNone then findClass? id cache.indexes else none with
  | some indexes => pure indexes
  | none =>
    if r.contains id = true then
      if building.contains id = true then throw (r.circularity building id)
      else
        let lineage ← ExceptT.mk (pure (r.lineage id))
        let indexes ← List.flatten <$> lineage.mapM (levelIndexes r
          (fun target path => inner (building ++ [id]) (some path) target) parent)
        if parent.isNone then
          modify fun cache => { cache with indexes := keepFirst id indexes cache.indexes }
        pure indexes
    else throw (.unknownClass id)

/-- The build of indexes that nests up to a depth, and does something else beyond. -/
def indexesWithin (r : Registry)
    (beyond : List ClassId → Option String → ClassId → Build (List IndexDescription)) :
    Nat → List ClassId → Option String → ClassId → Build (List IndexDescription)
  | 0 => beyond
  | depth + 1 => indexesStep r (indexesWithin r beyond depth)

variable {r : Registry}

theorem buildIndexesIn_eq_step (building : List ClassId) (parent : Option String) (id : ClassId) :
    buildIndexesIn r building parent id = indexesStep r (buildIndexesIn r) building parent id := by
  rw [buildIndexesIn]
  rfl

/-- A step depends on the builds that it asks for: those of classes below a known one that is not
busy. -/
theorem indexesStep_congr
    {f g : List ClassId → Option String → ClassId → Build (List IndexDescription)}
    {building : List ClassId} {parent : Option String} {id : ClassId}
    (h : r.contains id = true → ¬ building.contains id = true →
      ∀ path d, f (building ++ [id]) (some path) d = g (building ++ [id]) (some path) d) :
    indexesStep r f building parent id = indexesStep r g building parent id := by
  unfold indexesStep
  by_cases hk : r.contains id = true
  · by_cases hb : building.contains id = true
    · simp only [hk, hb, if_true]
    · simp only [h hk hb]
  · simp only [hk, Bool.false_eq_true, if_false]

/-- **A depth that is larger than the number of idle classes is never exhausted.** -/
theorem indexesWithin_eq
    (beyond : List ClassId → Option String → ClassId → Build (List IndexDescription)) {depth : Nat}
    {building : List ClassId} (h : (r.idle building).length < depth) (parent : Option String)
    (id : ClassId) :
    indexesWithin r beyond depth building parent id = buildIndexesIn r building parent id := by
  induction depth generalizing building parent id with
  | zero => exact absurd h (Nat.not_lt_zero _)
  | succ depth ih =>
    rw [indexesWithin, buildIndexesIn_eq_step]
    refine indexesStep_congr fun hk hb path d => ih ?_ (some path) d
    have := Registry.length_idle_lt hk hb
    omega

theorem indexesWithin_known (r : Registry)
    (beyond : List ClassId → Option String → ClassId → Build (List IndexDescription))
    (parent : Option String) (id : ClassId) :
    indexesWithin r beyond (r.known.length + 1) [] parent id = buildIndexes r id parent := by
  refine indexesWithin_eq beyond ?_ parent id
  have : (r.idle []).length ≤ r.known.length := List.length_filter_le _ _
  omega

/-! ## Passages -/

namespace Registry

/-- Every index has a direction that means something, if it has one; and bases are known, and the
classes that fields with an index pass through to. -/
structure WellIndexed (r : Registry) : Prop where
  directions : ∀ id, ∀ d ∈ r.declarations id, ∀ index, d.index = some index →
    ∀ wanted, index.direction = some wanted → (IndexDirection.ofSpec? wanted).isSome = true
  known : ∀ id, ∀ d ∈ r.declarations id, ∀ index, d.index = some index →
    ∀ target, d.embedded? index = some target → r.contains target = true
  /-- No class is declared with a base that is not known (`BasesKnown.define?`). -/
  bases : r.BasesKnown

/-- A field of a level passes through to a class; where the level is nested, an excluded field does
not. -/
def LevelPasses (r : Registry) (nested : Bool) (level target : ClassId) : Prop :=
  ∃ d ∈ r.declarations level, ∃ index, d.wanted? nested = some index
    ∧ d.embedded? index = some target

/-- A class passes through to another one when a level of its lineage does. -/
def Passes (r : Registry) (nested : Bool) (id target : ClassId) : Prop :=
  ∃ lineage, r.lineage id = .ok lineage ∧ ∃ level ∈ lineage, r.LevelPasses nested level target

/-- A level of the lineage of a class passes through to itself. -/
def PassesWithin (r : Registry) (nested : Bool) (id : ClassId) : Prop :=
  ∃ lineage, r.lineage id = .ok lineage ∧ ∃ level ∈ lineage, r.LevelPasses nested level level

/-- A way from one class to another, with the classes that it has visited before. Only its first
step is not nested. -/
inductive Way (r : Registry) (start : ClassId) : List ClassId → ClassId → Prop
  | here : Way r start [] start
  | step {before : List ClassId} {id next : ClassId} (h : Way r start before id)
    (hp : r.Passes (!before.isEmpty) id next) : Way r start (before ++ [id]) next

/-- A way from a class visits a class twice, or meets a level that passes through to itself. -/
def RunsIntoCycle (r : Registry) (start : ClassId) : Prop :=
  ∃ before id, r.Way start before id
    ∧ (¬ (before ++ [id]).Nodup ∨ r.PassesWithin (!before.isEmpty) id)

variable {building before : List ClassId} {parent : Option String} {start id level target : ClassId}
  {indexes : List IndexDescription} {e : SchemaError}

theorem WellIndexed.ofSpec?_ne_error (hw : r.WellIndexed) {d : FieldDeclaration}
    (hd : d ∈ r.declarations level) {index : IndexSpec} (hi : d.index = some index) {path : String}
    {direction : DirectionSpec} : IndexDescription.ofSpec? path index ≠ .error direction := by
  intro h
  unfold IndexDescription.ofSpec? at h
  split at h
  · cases h
  · next wanted hwanted =>
    have hsome := hw.directions level d hd index hi wanted hwanted
    split at h
    · cases h
    · next hnone =>
      rw [hnone] at hsome
      cases hsome

/-! ## Builds that fail -/

/-- **A level fails with a class that it passes through to, or because it passes through to
itself.** -/
theorem WellIndexed.levelIndexes_eq_error (hw : r.WellIndexed)
    {f : ClassId → String → Except SchemaError (List IndexDescription)}
    (h : levelIndexes r f parent level = .error e) :
    (r.LevelPasses parent.isSome level level ∧ ∃ path, e = .circularReference path)
    ∨ ∃ target path, r.LevelPasses parent.isSome level target ∧ r.contains target = true
      ∧ f target path = .error e := by
  obtain ⟨d, hd, hfield⟩ := exists_of_flatten_mapM_eq_error h
  obtain ⟨index, hwanted, ⟨direction, herror, -⟩ | ⟨target, he, hcase⟩⟩ :=
    exists_of_fieldIndexes_eq_error hfield
  · exact absurd herror (hw.ofSpec?_ne_error hd (d.index_of_wanted? hwanted))
  · rcases hcase with ⟨rfl, rfl⟩ | hbelow
    · exact Or.inl ⟨⟨d, hd, index, hwanted, he⟩, _, rfl⟩
    · have hknown := hw.known level d hd index (d.index_of_wanted? hwanted) target he
      exact Or.inr ⟨target, _, ⟨d, hd, index, hwanted, he⟩, hknown, hbelow⟩

/-- **A build that fails has come upon a cycle**, on the way on which it got where it is. -/
theorem WellIndexed.indexesIn_eq_error (hw : r.WellIndexed) (hk : r.contains id = true)
    (hway : r.Way start building id) (hparent : parent.isSome = !building.isEmpty)
    (h : r.indexesIn building parent id = .error e) :
    (∃ path, e = .circularReference path) ∧ r.RunsIntoCycle start := by
  induction building, id using idle_induction (r := r) generalizing parent with
  | step building id ih =>
    by_cases hb : id ∈ building
    · rw [indexesIn_busy hk hb] at h
      cases h
      refine ⟨⟨_, rfl⟩, building, id, hway, Or.inl fun hnodup => ?_⟩
      exact (List.nodup_append.mp hnodup).2.2 id hb id (List.mem_singleton_self id) rfl
    · obtain ⟨ancestors, hl⟩ := hw.bases.exists_lineage hk
      rw [indexesIn_idle hk hb, hl] at h
      obtain ⟨level, hlevel, h⟩ := exists_of_flatten_mapM_eq_error h
      rcases hw.levelIndexes_eq_error h with ⟨hself, path, rfl⟩ | ⟨target, path, hp, hknown, h⟩
      · refine ⟨⟨path, rfl⟩, building, id, hway, Or.inr ?_⟩
        exact ⟨_, hl, level, hlevel, hparent ▸ hself⟩
      · have hstep : r.Passes (!building.isEmpty) id target := ⟨_, hl, level, hlevel, hparent ▸ hp⟩
        exact ih hk hb target hknown (hway.step hstep) (by simp) h

/-! ## Builds that succeed -/

/-- A level that has its indexes does not pass through to itself, and has found those of the classes
that it passes through to. -/
theorem exists_of_levelIndexes_eq_ok
    {f : ClassId → String → Except SchemaError (List IndexDescription)}
    (h : levelIndexes r f parent level = .ok indexes)
    (hp : r.LevelPasses parent.isSome level target) :
    target ≠ level ∧ ∃ path below, f target path = .ok below := by
  obtain ⟨d, hd, index, hwanted, he⟩ := hp
  obtain ⟨own, hown⟩ := exists_of_flatten_mapM_eq_ok h hd
  obtain ⟨-, below, -, -, ⟨hnone, -⟩ | ⟨target', he', hne, hbelow⟩⟩ :=
    exists_of_fieldIndexes_eq_ok hwanted hown
  · cases he.symm.trans hnone
  · obtain rfl := Option.some.inj (he.symm.trans he')
    exact ⟨hne, _, below, hbelow⟩

theorem not_passesWithin_of_indexesIn (h : r.indexesIn building parent id = .ok indexes) :
    ¬ r.PassesWithin parent.isSome id := by
  rintro ⟨lineage, hl, level, hlevel, hself⟩
  obtain ⟨-, _, hl', h⟩ := indexesIn_eq_ok_iff.mp h
  obtain rfl := Except.ok.inj (hl.symm.trans hl')
  obtain ⟨own, hown⟩ := exists_of_flatten_mapM_eq_ok h hlevel
  exact (exists_of_levelIndexes_eq_ok hown hself).1 rfl

/-- **A build that succeeds has followed every way**, and come back to no class. -/
theorem Way.indexesIn (h : r.Way start before id) (hok : r.indexesIn [] none start = .ok indexes) :
    (before ++ [id]).Nodup ∧ ∃ (parent : Option String) (below : List IndexDescription),
      parent.isSome = !before.isEmpty ∧ r.indexesIn before parent id = .ok below := by
  induction h with
  | here => exact ⟨List.nodup_singleton start, none, indexes, rfl, hok⟩
  | @step before id next _ hp ih =>
    obtain ⟨hnodup, parent, below, hparent, hbelow⟩ := ih
    obtain ⟨lineage, hl, level, hlevel, hp⟩ := hp
    obtain ⟨-, _, hl', hlevels⟩ := indexesIn_eq_ok_iff.mp hbelow
    obtain rfl := Except.ok.inj (hl.symm.trans hl')
    obtain ⟨own, hown⟩ := exists_of_flatten_mapM_eq_ok hlevels hlevel
    obtain ⟨-, path, inner, hinner⟩ := exists_of_levelIndexes_eq_ok hown (hparent ▸ hp)
    have hidle := (indexesIn_eq_ok_iff.mp hinner).1
    refine ⟨?_, some path, inner, by simp, hinner⟩
    rw [← List.concat_eq_append]
    exact hnodup.concat hidle

theorem not_runsIntoCycle_of_indexesIn (h : r.indexesIn [] none start = .ok indexes) :
    ¬ r.RunsIntoCycle start := by
  rintro ⟨before, id, hway, hcycle⟩
  obtain ⟨hnodup, parent, below, hparent, hbelow⟩ := hway.indexesIn h
  rcases hcycle with hrepeat | hself
  · exact hrepeat hnodup
  · exact not_passesWithin_of_indexesIn hbelow (hparent ▸ hself)

/-- **Builds of indexes end for every registry, and fail exactly where passages run into a cycle.**
Nothing that would happen beyond a depth of one more than the known classes matters to a build; and
for a known class of a well-indexed registry a new compiler fails exactly if a way from the class
visits a class twice or meets a level that passes through to itself, and with a circular reference
whenever it fails. -/
theorem buildIndexes_ends_and_detects_cycles (r : Registry) :
    (∀ beyond parent id,
      indexesWithin r beyond (r.known.length + 1) [] parent id = buildIndexes r id parent)
    ∧ (r.WellIndexed → ∀ id, r.contains id = true →
      ((∃ e, (buildIndexes r id none).answer {} = .error e) ↔ r.RunsIntoCycle id)
      ∧ ∀ e, (buildIndexes r id none).answer {} = .error e →
        ∃ path, e = .circularReference path) := by
  refine ⟨indexesWithin_known r, fun hw id hk => ?_⟩
  rw [(buildIndexes_agrees r id none {} Cache.sound_empty).1]
  have herror : ∀ e, r.indexesIn [] none id = .error e →
      (∃ path, e = .circularReference path) ∧ r.RunsIntoCycle id :=
    fun e h => hw.indexesIn_eq_error hk .here rfl h
  refine ⟨⟨fun ⟨e, h⟩ => (herror e h).2, fun hcycle => ?_⟩, fun e h => (herror e h).1⟩
  cases h : r.indexesIn [] none id with
  | error e => exact ⟨e, rfl⟩
  | ok indexes => exact absurd hcycle (not_runsIntoCycle_of_indexesIn h)

/-! ## An instance -/

/-- Authors have a first book and books have an author, whose indexes are excluded. -/
def shelf : Registry where
  classes := [rootEntry 64 "Author", rootEntry 65 "Book"]
  fields :=
    [(.declared 64,
        [{ name := "first", tag := some .object, options := .object (some (.declared 65)),
           index := some { passthrough := true } }]),
      (.declared 65,
        [{ name := "author", tag := some .object, options := .object (some (.declared 64)),
           index := some { passthrough := true, exclude := true } }])]

theorem shelf_wellIndexed : shelf.WellIndexed where
  directions id d hd index hi wanted hwanted := by
    obtain ⟨entry, he, -, hm⟩ := exists_of_mem_declarations hd
    simp only [shelf, List.mem_cons, List.not_mem_nil, or_false] at he
    rcases he with rfl | rfl <;> cases List.mem_singleton.mp hm <;> cases hi <;> cases hwanted
  known id d hd index hi target ht := by
    obtain ⟨entry, he, -, hm⟩ := exists_of_mem_declarations hd
    simp only [shelf, List.mem_cons, List.not_mem_nil, or_false] at he
    rcases he with rfl | rfl <;> cases List.mem_singleton.mp hm <;> cases hi <;> cases ht <;> rfl
  bases := by simp [BasesKnown, shelf, rootEntry]

/-- A book leads back to itself if its author counts, and its author does when it is asked for. -/
theorem shelf_runsIntoCycle : shelf.RunsIntoCycle (.declared 65) := by
  have hauthor : shelf.Passes false (.declared 65) (.declared 64) :=
    ⟨[.declared 65], by with_unfolding_all rfl, _, List.mem_cons_self, _, List.mem_cons_self, _,
      rfl, rfl⟩
  have hfirst : shelf.Passes true (.declared 64) (.declared 65) :=
    ⟨[.declared 64], by with_unfolding_all rfl, _, List.mem_cons_self, _, List.mem_cons_self, _,
      rfl, rfl⟩
  exact ⟨_, _, .step (.step .here hauthor) hfirst, Or.inl (by decide)⟩

theorem buildIndexes_of_shelf : shelf.WellIndexed
    ∧ shelf.contains (.declared 64) = true ∧ shelf.contains (.declared 65) = true
    ∧ (¬ shelf.RunsIntoCycle (.declared 64)
      ∧ ∃ indexes, (buildIndexes shelf (.declared 64) none).answer {} = .ok indexes)
    ∧ shelf.RunsIntoCycle (.declared 65)
    ∧ ∃ path, (buildIndexes shelf (.declared 65) none).answer {}
      = .error (.circularReference path) := by
  have hw := shelf_wellIndexed
  have hauthor := (buildIndexes_ends_and_detects_cycles shelf).2 hw (.declared 64) rfl
  have hbook := (buildIndexes_ends_and_detects_cycles shelf).2 hw (.declared 65) rfl
  have hok : (buildIndexes shelf (.declared 64) none).answer {} = .ok
      [{ path := "first", direction := .ascending }] := by with_unfolding_all rfl
  have hnot : ¬ shelf.RunsIntoCycle (.declared 64) := fun hcycle => by
    obtain ⟨e, he⟩ := hauthor.1.mpr hcycle
    rw [hok] at he
    cases he
  obtain ⟨e, he⟩ := hbook.1.mpr shelf_runsIntoCycle
  obtain ⟨path, rfl⟩ := hbook.2 e he
  exact ⟨hw, rfl, rfl, ⟨hnot, _, hok⟩, shelf_runsIntoCycle, path, he⟩

end Registry

end DocumentModel
