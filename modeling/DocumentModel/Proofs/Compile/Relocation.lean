import DocumentModel.Proofs.Compile.Alike
import DocumentModel.Proofs.Compile.FieldIndexes

/-!
# Indexes below paths

The indexes of a class below a path are those of the class moved below it, except that excluded
fields are left out. A path of several parts moves them several times, as the fields that are
excluded are the same below every path. Both are in `Registry.buildIndexes_relocate`.
-/

namespace DocumentModel

/-! ## Descriptions -/

namespace IndexDescription

variable {path parent : String}

theorem name_relocate (parent : String) (x : IndexDescription) :
    (x.relocate parent).name = parent ++ "." ++ x.name := by
  simp only [name, relocate, String.append_assoc]

theorem key_relocate (parent : String) (x : IndexDescription) :
    (x.relocate parent).key = x.key.map fun entry => (parent ++ "." ++ entry.1, entry.2) :=
  rfl

/-- Neither the direction nor the options depend on the path. -/
theorem ofSpec?_append (parent path : String) (spec : IndexSpec) :
    ofSpec? (parent ++ "." ++ path) spec = relocate parent <$> ofSpec? path spec := by
  unfold ofSpec?
  cases spec.direction with
  | none => rfl
  | some wanted =>
    dsimp only
    cases IndexDirection.ofSpec? wanted <;> rfl

end IndexDescription

open IndexDescription (relocate)

theorem indexPath_append (parent path field : String) :
    indexPath (some (parent ++ "." ++ path)) field
      = parent ++ "." ++ indexPath (some path) field := by
  simp only [indexPath, String.append_assoc]

/-! ## Paths of several parts -/

namespace Registry

variable {r : Registry} {f f' : ClassId → String → Except SchemaError (List IndexDescription)}
  {id owner : ClassId} {building : List ClassId} {p q path : String}

/-- A field that wants the same index at two places, one below the other, asks for the same ones. -/
theorem fieldIndexes_relocate {parent parent' : Option String} {d : FieldDeclaration}
    (hf : ∀ target path, f' target (p ++ "." ++ path) = List.map (relocate p) <$> f target path)
    (hpath : indexPath parent' d.name = p ++ "." ++ indexPath parent d.name)
    (hwanted : d.wanted? parent'.isSome = d.wanted? parent.isSome) :
    fieldIndexes r f' owner parent' d
      = List.map (relocate p) <$> fieldIndexes r f owner parent d := by
  cases hw : d.wanted? parent.isSome with
  | none =>
    rw [fieldIndexes_of_none hw, fieldIndexes_of_none (hwanted.trans hw)]
    rfl
  | some index =>
    rw [fieldIndexes_of_some hw, fieldIndexes_of_some (hwanted.trans hw), hpath,
      IndexDescription.ofSpec?_append]
    cases IndexDescription.ofSpec? (indexPath parent d.name) index with
    | error direction => rfl
    | ok own =>
      cases he : d.embedded? index with
      | none => rfl
      | some target =>
        dsimp only [Functor.map, Except.map]
        rw [hf]
        split
        · rfl
        · cases f target (indexPath parent d.name) <;> rfl

theorem levelIndexes_relocate (level : ClassId)
    (hf : ∀ target path, f' target (p ++ "." ++ path) = List.map (relocate p) <$> f target path) :
    levelIndexes r f' (some (p ++ "." ++ q)) level
      = List.map (relocate p) <$> levelIndexes r f (some q) level :=
  flatten_mapM_map fun d _ => fieldIndexes_relocate hf (indexPath_append p q d.name) rfl

/-- **Below a path of two parts stands what stands below the second one**, moved below the first. -/
theorem indexesIn_relocate (r : Registry) (building : List ClassId) (p q : String) (id : ClassId) :
    r.indexesIn building (some (p ++ "." ++ q)) id
      = List.map (relocate p) <$> r.indexesIn building (some q) id := by
  induction building, id using idle_induction (r := r) generalizing q with
  | step building id ih =>
    by_cases hk : r.contains id = true
    · by_cases hb : id ∈ building
      · rw [indexesIn_busy hk hb, indexesIn_busy hk hb]
        rfl
      · rw [indexesIn_idle hk hb, indexesIn_idle hk hb]
        cases r.lineage id with
        | error e => rfl
        | ok lineage =>
          exact flatten_mapM_map fun level _ => levelIndexes_relocate level
            fun target path => ih hk hb target path
    · have hunknown := Bool.not_eq_true _ ▸ hk
      rw [indexesIn_unknown hunknown, indexesIn_unknown hunknown]
      rfl

end Registry

/-! ## Fields that are left out -/

/-- A field with an index: the index itself, and those passed through beneath it. -/
structure IndexGroup where
  field : FieldDeclaration
  spec : IndexSpec
  own : IndexDescription
  beneath : List IndexDescription

namespace IndexGroup

def indexes (g : IndexGroup) : List IndexDescription := g.own :: g.beneath

/-- A group is what its field asks for where it is not left out. -/
structure Asked (classIndexes : ClassId → String → Except SchemaError (List IndexDescription))
    (g : IndexGroup) : Prop where
  own : IndexDescription.ofSpec? g.field.name g.spec = .ok g.own
  beneath : g.field.embedded? g.spec = none ∧ g.beneath = []
    ∨ ∃ target, g.field.embedded? g.spec = some target
      ∧ classIndexes target g.field.name = .ok g.beneath

end IndexGroup

/-- The fields that have an index. -/
def indexedFields (ds : List FieldDeclaration) : List (FieldDeclaration × IndexSpec) :=
  ds.filterMap fun d => d.index.map (d, ·)

/-- The indexes of fields are in groups, one for each field that has an index, and below a path the
groups of excluded fields are missing. -/
def Splits (classIndexes : ClassId → String → Except SchemaError (List IndexDescription))
    (ds : List FieldDeclaration) (alone : Except SchemaError (List IndexDescription))
    (below : String → Except SchemaError (List IndexDescription)) : Prop :=
  ∀ indexes, alone = .ok indexes → ∃ groups : List IndexGroup,
    groups.map (fun g => (g.field, g.spec)) = indexedFields ds
    ∧ (∀ g ∈ groups, g.Asked classIndexes) ∧ indexes = groups.flatMap IndexGroup.indexes
    ∧ ∀ p, below p = .ok
      (((groups.filter fun g => !g.spec.exclude).flatMap IndexGroup.indexes).map (relocate p))

namespace Splits

variable {f : ClassId → String → Except SchemaError (List IndexDescription)}
  {ds ds' : List FieldDeclaration} {x y : Except SchemaError (List IndexDescription)}
  {x' y' : String → Except SchemaError (List IndexDescription)}

/-- Fields after others have their groups after the groups of these. -/
theorem append (hx : Splits f ds x x') (hy : Splits f ds' y y') :
    Splits f (ds ++ ds') (x >>= fun own => (own ++ ·) <$> y)
      (fun p => x' p >>= fun own => (own ++ ·) <$> y' p) := by
  intro indexes h
  obtain ⟨own, hown, h⟩ := bind_eq_ok_iff.mp h
  obtain ⟨others, hothers, rfl⟩ := map_eq_ok_iff.mp h
  obtain ⟨groups, hfields, hasked, rfl, hbelow⟩ := hx own hown
  obtain ⟨groups', hfields', hasked', rfl, hbelow'⟩ := hy others hothers
  refine ⟨groups ++ groups', ?_, ?_, List.flatMap_append.symm, fun p => ?_⟩
  · rw [List.map_append, hfields, hfields', indexedFields, indexedFields, indexedFields,
      List.filterMap_append]
  · exact List.forall_mem_append.mpr ⟨hasked, hasked'⟩
  · dsimp only
    rw [hbelow, hbelow', List.filter_append, List.flatMap_append, List.map_append]
    rfl

theorem flatten_mapM {α : Type} {fields : α → List FieldDeclaration}
    {g : α → Except SchemaError (List IndexDescription)}
    {g' : String → α → Except SchemaError (List IndexDescription)} {l : List α}
    (h : ∀ a ∈ l, Splits f (fields a) (g a) (g' · a)) :
    Splits f (l.flatMap fields) (List.flatten <$> l.mapM g)
      (fun p => List.flatten <$> l.mapM (g' p)) := by
  induction l with
  | nil =>
    intro indexes he
    cases he
    exact ⟨[], rfl, by simp, rfl, fun _ => rfl⟩
  | cons a rest ih =>
    obtain ⟨ha, hrest⟩ := List.forall_mem_cons.mp h
    simp only [flatten_mapM_cons, List.flatMap_cons]
    exact ha.append (ih hrest)

end Splits

namespace Registry

variable {r : Registry} {f f' : ClassId → String → Except SchemaError (List IndexDescription)}
  {id owner : ClassId} {building others : List ClassId}

/-- **A field asks for one group or for none**, and below a path for the same one, moved there, if
it is not excluded. -/
theorem splits_fieldIndexes (d : FieldDeclaration)
    (hf : ∀ p target path, f target (p ++ "." ++ path) = List.map (relocate p) <$> f target path) :
    Splits f [d] (fieldIndexes r f owner none d) (fun p => fieldIndexes r f owner (some p) d) := by
  intro indexes h
  cases hi : d.index with
  | none =>
    have hnone : ∀ parent, fieldIndexes r f owner parent d = .ok [] :=
      fun parent => fieldIndexes_of_none (d.wanted?_of_none hi parent.isSome)
    rw [hnone] at h
    cases h
    exact ⟨[], by simp [indexedFields, hi], by simp, rfl, fun p => hnone (some p)⟩
  | some spec =>
    have halone : d.wanted? (none : Option String).isSome = some spec := d.wanted?_of_some hi false
    obtain ⟨own, beneath, hown, rfl, hbeneath⟩ := exists_of_fieldIndexes_eq_ok halone h
    have hasked : IndexGroup.Asked f ⟨d, spec, own, beneath⟩ :=
      ⟨hown, hbeneath.imp_right fun ⟨target, he, _, hb⟩ => ⟨target, he, hb⟩⟩
    refine ⟨[⟨d, spec, own, beneath⟩], by simp [indexedFields, hi], by simpa using hasked,
      (List.append_nil _).symm, fun p => ?_⟩
    cases hx : spec.exclude with
    | true =>
      have hbelow : d.wanted? (some p).isSome = none := by
        rw [d.wanted?_of_some hi, hx]
        rfl
      simp [fieldIndexes_of_none hbelow, hx]
    | false =>
      have hbelow : d.wanted? (some p).isSome = some spec := by
        rw [d.wanted?_of_some hi, hx]
        rfl
      dsimp only
      rw [fieldIndexes_relocate (hf p) rfl (hbelow.trans halone.symm), h]
      simp [hx, IndexGroup.indexes]

/-- **The indexes of a class are in groups, one for each field of its lineage that has an
index.** -/
theorem splits_indexesIn {lineage : List ClassId} (hl : r.lineage id = .ok lineage) :
    Splits (fun target path => r.indexesIn [id] (some path) target)
      (lineage.flatMap r.declarations) (r.indexesIn [] none id)
      (fun p => r.indexesIn [] (some p) id) := by
  have hrun : ∀ parent, r.indexesIn [] parent id = List.flatten <$> lineage.mapM (levelIndexes r
      (fun target path => r.indexesIn [id] (some path) target) parent) := fun parent => by
    rw [indexesIn_idle (contains_of_lineage hl) List.not_mem_nil, hl]
    rfl
  simp only [hrun]
  refine Splits.flatten_mapM fun level _ => ?_
  rw [← List.flatMap_singleton' (r.declarations level)]
  exact Splits.flatten_mapM fun d _ =>
    splits_fieldIndexes d fun p target path => indexesIn_relocate r [id] p path target

/-- Results that are kept step by step are kept by a computation. -/
theorem ok_simulation : Simulation (Except SchemaError) (Except SchemaError)
    fun _ x x' => ∀ a, x = .ok a → x' = .ok a where
  pure _ _ h := h
  throw _ _ h := nomatch h
  bind hx hf b h := by
    obtain ⟨a, ha, hb⟩ := bind_eq_ok_iff.mp h
    exact bind_eq_ok_iff.mpr ⟨a, hx a ha, hf a b hb⟩

/-- Indexes are the same while fewer classes are being built. -/
theorem indexesIn_of_subset {parent : Option String} (hsub : others ⊆ building)
    {indexes : List IndexDescription} (h : r.indexesIn building parent id = .ok indexes) :
    r.indexesIn others parent id = .ok indexes := by
  induction building, id using idle_induction (r := r) generalizing others parent indexes with
  | step building id ih =>
    obtain ⟨hidle, lineage, hl, h⟩ := indexesIn_eq_ok_iff.mp h
    refine indexesIn_eq_ok_iff.mpr ⟨fun hm => hidle (hsub hm), lineage, hl, ?_⟩
    have hbelow : others ++ [id] ⊆ building ++ [id] := List.append_subset.mpr
      ⟨fun a ha => List.mem_append_left [id] (hsub ha), List.subset_append_right building [id]⟩
    refine ok_simulation.map _ (ok_simulation.mapM fun level _ =>
      ok_simulation.levelIndexes (fun target path own hown => ?_) parent level) _ h
    exact ih (contains_of_lineage hl) hidle target hbelow hown

/-- No kept indexes count below a path. -/
theorem answer_buildIndexes_below (c : Cache) (path : String) (id : ClassId) :
    (buildIndexes r id (some path)).answer c = r.indexesIn [] (some path) id := by
  have hsame := (buildIndexesIn_relates (r := r) (P := fun _ _ => True) [] (some path) id nofun c {}
    trivial).1
  rw [buildIndexes, hsame]
  exact (buildIndexes_agrees r id (some path) {} Cache.sound_empty).1

/-- **Indexes below a path are those of the class, moved.** Below two paths, one after the other,
stands what stands below the second one, moved below the first; also if it is an error. And where a
class on its own has indexes, they are in groups, one for each field of its lineage that has an
index; and it has indexes below every path, which are those of the groups that are not excluded.
Moving an index changes the path in its name and in its key. -/
theorem buildIndexes_relocate (r : Registry) (id : ClassId) :
    (∀ (c : Cache) (p q : String), (buildIndexes r id (some (p ++ "." ++ q))).answer c
      = List.map (relocate p) <$> (buildIndexes r id (some q)).answer c)
    ∧ (∀ (c : Cache) (indexes : List IndexDescription), c.Sound r →
      (buildIndexes r id none).answer c = .ok indexes →
      ∃ (lineage : List ClassId) (groups : List IndexGroup), r.lineage id = .ok lineage
        ∧ groups.map (fun g => (g.field, g.spec)) = indexedFields (lineage.flatMap r.declarations)
        ∧ (∀ g ∈ groups, g.Asked fun target path => (buildIndexes r target (some path)).answer c)
        ∧ indexes = groups.flatMap IndexGroup.indexes
        ∧ ∀ p, (buildIndexes r id (some p)).answer c = .ok
          (((groups.filter fun g => !g.spec.exclude).flatMap IndexGroup.indexes).map (relocate p)))
    ∧ ∀ (p : String) (x : IndexDescription), (x.relocate p).name = p ++ "." ++ x.name
      ∧ (x.relocate p).key = x.key.map fun entry => (p ++ "." ++ entry.1, entry.2) := by
  refine ⟨fun c p q => ?_, fun c indexes hc h => ?_,
    fun p x => ⟨x.name_relocate p, x.key_relocate p⟩⟩
  · rw [answer_buildIndexes_below, answer_buildIndexes_below, indexesIn_relocate]
  · simp only [answer_buildIndexes_below]
    rw [(buildIndexes_agrees r id none c hc).1] at h
    obtain ⟨-, lineage, hl, -⟩ := indexesIn_eq_ok_iff.mp h
    obtain ⟨groups, hfields, hasked, hindexes, hbelow⟩ := splits_indexesIn hl indexes h
    refine ⟨lineage, groups, hl, hfields, fun g hg => ⟨(hasked g hg).own, ?_⟩, hindexes, hbelow⟩
    exact (hasked g hg).beneath.imp_right fun ⟨target, he, hb⟩ =>
      ⟨target, he, indexesIn_of_subset (List.nil_subset [id]) hb⟩

/-! ## An instance -/

/-- Shops have a seat and a depot, which are addresses. Indexes on the notes of addresses are
excluded, and those on depots. -/
def shops : Registry where
  classes := [rootEntry 64 "Address", rootEntry 65 "Shop"]
  fields :=
    [(.declared 64,
        [{ name := "city", tag := some .string, index := some {} },
          { name := "note", tag := some .string, index := some { exclude := true } }]),
      (.declared 65,
        [{ name := "seat", tag := some .object, options := .object (some (.declared 64)),
           index := some { passthrough := true } },
          { name := "depot", tag := some .object, options := .object (some (.declared 64)),
            index := some { passthrough := true, exclude := true } }])]

/-- The indexes of shops, in which notes have none. -/
def shopIndexes : List IndexDescription :=
  [{ path := "seat", direction := .ascending }, { path := "seat.city", direction := .ascending },
    { path := "depot", direction := .ascending }, { path := "depot.city", direction := .ascending }]

theorem buildIndexes_relocate_shops :
    ({} : Cache).Sound shops
    ∧ (buildIndexes shops (.declared 65) none).answer {} = .ok shopIndexes
    ∧ ∃ (lineage : List ClassId) (groups : List IndexGroup),
      shops.lineage (.declared 65) = .ok lineage
      ∧ groups.map (fun g => (g.field, g.spec)) = indexedFields (lineage.flatMap shops.declarations)
      ∧ (∀ g ∈ groups, g.Asked fun target path => (buildIndexes shops target (some path)).answer {})
      ∧ shopIndexes = groups.flatMap IndexGroup.indexes
      ∧ ∀ p, (buildIndexes shops (.declared 65) (some p)).answer {} = .ok
        (((groups.filter fun g => !g.spec.exclude).flatMap IndexGroup.indexes).map
          (relocate p)) := by
  have hi : (buildIndexes shops (.declared 65) none).answer {} = .ok shopIndexes := by
    with_unfolding_all rfl
  exact ⟨Cache.sound_empty, hi,
    (buildIndexes_relocate shops (.declared 65)).2.1 {} shopIndexes Cache.sound_empty hi⟩

end Registry

end DocumentModel
