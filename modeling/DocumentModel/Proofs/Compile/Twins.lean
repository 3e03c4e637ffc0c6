import DocumentModel.Proofs.Compile.Frozen
import DocumentModel.Proofs.Compile.Requests

/-!
# Caches with the same levels

What a build answers, and which levels it keeps, depends on the levels that are kept already and not
on the nodes (`Registry.buildNodeIn_twins`): where a node is missing, its class unites levels that
are there. The two builds that are compared start from twins, caches with the same levels. One of
them runs in the registry as it is, the other one in the frozen registry, for which its cache is
sound.
-/

namespace DocumentModel

/-! ## Runs of the build of a class -/

/-- The levels of a class while it is being built. -/
def levelsIn (r : Registry) (building : List ClassId) (id : ClassId) :
    Build (List (ClassId × Node)) :=
  levelNodes r (fun other => buildNodeIn r (building ++ [id]) other) id

/-- Unites the levels of a class, and keeps it with them. -/
def uniteLevels (r : Registry) (id : ClassId) (levels : List (ClassId × Node)) : Build Node := do
  let shape ← ExceptT.mk (pure (mergeLevels r levels))
  let merged := Node.ofShape shape
  modify fun cache => cache.keepClass levels id merged
  pure merged

section

variable {r : Registry} {building : List ClassId} {id : ClassId} {number : Nat} {c : Cache}
  {levels : List (ClassId × Node)} {shape : Shape Node} {node : Node} {e : SchemaError}

/-- Levels that can be united are kept together with the node they make. -/
theorem uniteLevels_of_ok (id : ClassId) (c : Cache) (h : mergeLevels r levels = .ok shape) :
    (uniteLevels r id levels).answer c = .ok (.ofShape shape)
      ∧ (uniteLevels r id levels).after c = c.keepClass levels id (.ofShape shape) := by
  rw [uniteLevels, h]
  exact ⟨rfl, rfl⟩

/-- Levels that cannot be united leave the cache as it is. -/
theorem uniteLevels_of_error (id : ClassId) (c : Cache) (h : mergeLevels r levels = .error e) :
    (uniteLevels r id levels).answer c = .error e ∧ (uniteLevels r id levels).after c = c := by
  rw [uniteLevels, h]
  exact ⟨rfl, rfl⟩

/-- The node of a built-in class is at hand. -/
theorem buildNodeIn_builtin (r : Registry) (building : List ClassId) (b : BuiltinClass)
    (c : Cache) : (buildNodeIn r building (.builtin b)).answer c = .ok b.node
      ∧ (buildNodeIn r building (.builtin b)).after c = c := by
  rw [buildNodeIn]
  exact ⟨rfl, rfl⟩

/-- A node that is kept is not built again, whatever the registry says by now. -/
theorem buildNodeIn_of_merged (r : Registry) (building : List ClassId)
    (h : findClass? (.declared number) c.merged = some node) :
    (buildNodeIn r building (.declared number)).answer c = .ok node
      ∧ (buildNodeIn r building (.declared number)).after c = c := by
  rw [buildNodeIn, Build.run_get_bind.1, Build.run_get_bind.2, h]
  exact ⟨rfl, rfl⟩

/-- A class that is not known is an error. -/
theorem buildNodeIn_of_unknown (building : List ClassId)
    (h : findClass? (.declared number) c.merged = none)
    (hk : r.contains (.declared number) = false) :
    (buildNodeIn r building (.declared number)).answer c
        = .error (.unknownClass (.declared number))
      ∧ (buildNodeIn r building (.declared number)).after c = c := by
  rw [buildNodeIn, Build.run_get_bind.1, Build.run_get_bind.2, h]
  dsimp only
  rw [dif_neg (by rw [hk]; exact Bool.false_ne_true)]
  exact ⟨rfl, rfl⟩

/-- A class that is being built already is a circular reference. -/
theorem buildNodeIn_of_busy (h : findClass? (.declared number) c.merged = none)
    (hk : r.contains (.declared number) = true) (hb : .declared number ∈ building) :
    (buildNodeIn r building (.declared number)).answer c
        = .error (r.circularity building (.declared number))
      ∧ (buildNodeIn r building (.declared number)).after c = c := by
  rw [buildNodeIn, Build.run_get_bind.1, Build.run_get_bind.2, h]
  dsimp only
  rw [dif_pos hk, dif_pos (List.contains_iff_mem.mpr hb)]
  exact ⟨rfl, rfl⟩

/-- Any other class is built by uniting its levels. -/
theorem buildNodeIn_of_idle (h : findClass? (.declared number) c.merged = none)
    (hk : r.contains (.declared number) = true) (hb : .declared number ∉ building) :
    (buildNodeIn r building (.declared number)).answer c
        = (levelsIn r building (.declared number) >>= uniteLevels r (.declared number)).answer c
      ∧ (buildNodeIn r building (.declared number)).after c
        = (levelsIn r building (.declared number)
          >>= uniteLevels r (.declared number)).after c := by
  rw [buildNodeIn, Build.run_get_bind.1, Build.run_get_bind.2, h]
  dsimp only
  rw [dif_pos hk, dif_neg fun hm => hb (List.contains_iff_mem.mp hm)]
  exact ⟨rfl, rfl⟩

/-! ### Levels -/

variable {f : ClassId → Build Node}

/-- A level that is kept is not built again. -/
theorem levelNode_of_kept {level : ClassId} (h : keptLevel? c.own level = some node) :
    (levelNode r f level).answer c = .ok node ∧ (levelNode r f level).after c = c := by
  cases level with
  | builtin b =>
    cases h
    exact ⟨rfl, rfl⟩
  | declared number =>
    have hk : findClass? (.declared number) c.own = some node := h
    rw [levelNode, Build.run_get_bind.1, Build.run_get_bind.2, hk]
    exact ⟨rfl, rfl⟩

/-- Neither are several levels, all of which are kept. -/
theorem mapM_levelNode_of_kept (h : ∀ entry ∈ levels, keptLevel? c.own entry.1 = some entry.2) :
    ((levels.map Prod.fst).mapM fun level => (level, ·) <$> levelNode r f level).answer c
        = .ok levels
      ∧ ((levels.map Prod.fst).mapM fun level =>
        (level, ·) <$> levelNode r f level).after c = c := by
  induction levels with
  | nil => exact ⟨rfl, rfl⟩
  | cons entry rest ih =>
    obtain ⟨hentry, hrest⟩ := List.forall_mem_cons.mp h
    obtain ⟨hanswer, hafter⟩ := levelNode_of_kept (r := r) (f := f) hentry
    obtain ⟨hrun, hcache⟩ := Build.run_map (entry.1, ·) (levelNode r f entry.1) c
    rw [hanswer] at hrun
    rw [hafter] at hcache
    obtain ⟨hanswers, hafters⟩ := ih hrest
    rw [List.map_cons, List.mapM_cons, (Build.run_bind_of_ok hrun).1, (Build.run_bind_of_ok hrun).2,
      hcache, (Build.run_bind_of_ok hanswers).1, (Build.run_bind_of_ok hanswers).2, hafters]
    exact ⟨rfl, rfl⟩

/-- Levels that are all kept are found, and nothing is kept for them. -/
theorem levelNodes_of_kept (hl : r.lineage id = .ok (levels.map Prod.fst))
    (h : ∀ entry ∈ levels, keptLevel? c.own entry.1 = some entry.2) :
    (levelNodes r f id).answer c = .ok levels ∧ (levelNodes r f id).after c = c := by
  rw [levelNodes, hl]
  exact mapM_levelNode_of_kept h

/-- The levels that are built are those that were asked for, in their order. -/
theorem eq_map_fst_of_mapM_levelNode {lineage : List ClassId}
    (h : (lineage.mapM fun level => (level, ·) <$> levelNode r f level).answer c = .ok levels) :
    lineage = levels.map Prod.fst := by
  induction lineage generalizing c levels with
  | nil =>
    cases h
    rfl
  | cons level rest ih =>
    rw [List.mapM_cons] at h
    obtain ⟨entry, hentry, h⟩ := Build.exists_of_bind_eq_ok h
    obtain ⟨tail, htail, h⟩ := Build.exists_of_bind_eq_ok h
    cases h
    rw [(Build.run_map ..).1] at hentry
    obtain ⟨n, -, rfl⟩ := map_eq_ok_iff.mp hentry
    rw [List.map_cons, ← ih htail]

/-- The levels of a class are those of its lineage. -/
theorem lineage_of_levelNodes (h : (levelNodes r f id).answer c = .ok levels) :
    r.lineage id = .ok (levels.map Prod.fst) := by
  obtain ⟨lineage, hl, h⟩ := Build.exists_of_bind_eq_ok h
  have hl' : r.lineage id = .ok lineage := hl
  rw [hl', eq_map_fst_of_mapM_levelNode h]

end

/-! ## Keeping a class -/

namespace Cache

variable {r : Registry} {c : Cache} {id : ClassId} {levels : List (ClassId × Node)} {node : Node}

/-- The levels of a class that are kept with it. -/
def declaredLevels (levels : List (ClassId × Node)) : List (ClassId × Node) :=
  levels.filter fun level => !level.1.isBuiltin

theorem keepClass_own (c : Cache) (levels : List (ClassId × Node)) (id : ClassId) (node : Node) :
    (c.keepClass levels id node).own = keepAll (declaredLevels levels) c.own :=
  rfl

/-- Levels of built-in classes are not kept. -/
theorem declaredLevels_of_mem {entry : ClassId × Node} (h : entry ∈ declaredLevels levels) :
    entry ∈ levels ∧ entry.1.isBuiltin = false := by
  obtain ⟨hm, hb⟩ := List.mem_filter.mp h
  exact ⟨hm, by simpa using hb⟩

/-- Levels that are kept already are not kept again. -/
theorem keepClass_of_kept (h : ∀ entry ∈ levels, keptLevel? c.own entry.1 = some entry.2) :
    c.keepClass levels id node = { c with merged := keepFirst id node c.merged } := by
  have hown : keepAll (declaredLevels levels) c.own = c.own := by
    refine keepAll_of_kept fun entry hm => ?_
    obtain ⟨hm, hb⟩ := declaredLevels_of_mem hm
    have hk := h entry hm
    obtain ⟨level, n⟩ := entry
    cases level with
    | builtin b => cases hb
    | declared number => exact ⟨n, hk⟩
  rw [← hown]
  rfl

/-- Once a class is kept, all its levels are. -/
theorem exists_kept_of_keepClass {level : ClassId} (hm : level ∈ levels.map Prod.fst)
    (hb : level.isBuiltin = false) :
    ∃ m, findClass? level (c.keepClass levels id node).own = some m := by
  obtain ⟨entry, hentry, rfl⟩ := List.mem_map.mp hm
  exact exists_findClass?_keepAll (List.mem_filter.mpr ⟨hentry, by rw [hb]; rfl⟩)

/-- **A class is kept in layers**, if it unites the levels that are kept with it. -/
theorem Layered.keepClass (hc : c.Layered r) (hb : id.isBuiltin = false)
    (hl : r.lineage id = .ok (levels.map Prod.fst))
    (hown : ∀ number node,
      findClass? (.declared number) (c.keepClass levels id node).own = some node →
      ∃ shape : Shape Node, node = .ofShape shape ∧ shape.keys.Nodup)
    (hu : r.Unites (c.keepClass levels id node).own id node) :
    (c.keepClass levels id node).Layered r where
  own level m hk := by
    have hdeclared : level.isBuiltin = false :=
      of_findClass?_foldl (p := fun level _ => level.isBuiltin = false)
        (fun entry hm => (declaredLevels_of_mem hm).2) (fun level m hk => (hc.own level m hk).1)
        level m hk
    cases level with
    | builtin b => cases hdeclared
    | declared number => exact ⟨rfl, hown number m hk⟩
  merged other m hk := by
    rcases findClass?_keepFirst hk with hk | ⟨rfl, rfl⟩
    · obtain ⟨hother, hold⟩ := hc.merged other m hk
      exact ⟨hother, hold.mono (fun _ _ he => he) (extends_keepAll ..)⟩
    · exact ⟨hb, hu⟩
  rooted level m hk := by
    obtain ⟨merged, hmerged⟩ :
        ∃ merged, findClass? id (keepFirst id node c.merged) = some merged := by
      cases hm : findClass? id c.merged with
      | none => exact ⟨node, findClass?_keepFirst_self hm node⟩
      | some merged => exact ⟨merged, by rw [keepFirst_of_kept hm, hm]⟩
    refine of_findClass?_foldl (p := fun level _ => ∃ root lineage merged,
      findClass? root (keepFirst id node c.merged) = some merged ∧ r.lineage root = .ok lineage
        ∧ level ∈ lineage) (fun entry hm => ?_) (fun level m hk => ?_) level m hk
    · exact ⟨id, _, merged, hmerged, hl, List.mem_map_of_mem (declaredLevels_of_mem hm).1⟩
    · obtain ⟨root, lineage, old, hold, hlineage, hmem⟩ := hc.rooted level m hk
      exact ⟨root, lineage, old, (extends_keepFirst ..).findClass?_eq_some hold, hlineage, hmem⟩

/-- A cache in which all levels and nodes of an earlier one are still kept. -/
structure Grown (start c : Cache) : Prop where
  own : Extends start.own c.own
  merged : Extends start.merged c.merged

theorem Grown.refl (c : Cache) : Grown c c := ⟨.refl _, .refl _⟩

theorem Grown.trans {start c d : Cache} (h : Grown start c) (h' : Grown c d) : Grown start d :=
  ⟨h.own.trans h'.own, h.merged.trans h'.merged⟩

/-- Keeping a class lets a cache grow. -/
theorem Grown.keepClass {start : Cache} (h : Grown start c) (levels : List (ClassId × Node))
    (id : ClassId) (node : Node) : Grown start (c.keepClass levels id node) where
  own := h.own.trans (extends_keepAll ..)
  merged := h.merged.trans (extends_keepFirst ..)

theorem Grown.keepMerged {start : Cache} (h : Grown start c) (id : ClassId) (node : Node) :
    Grown start { c with merged := keepFirst id node c.merged } where
  own := h.own
  merged := h.merged.trans (extends_keepFirst ..)

/-! ## Twins -/

/-- **Two caches with the same levels**, the first one grown from a start and the second one sound
for the registry that is frozen there. The classes being built are in neither. -/
structure Twins (r : Registry) (start : Cache) (building : List ClassId) (c d : Cache) : Prop where
  own : d.own = c.own
  left : c.Layered r
  right : d.Layered r
  sound : d.Sound (r.frozen start.own)
  absent : ∀ b ∈ building, findClass? b c.merged = none ∧ findClass? b d.merged = none
  grown : start.Grown c
  indexes : c.indexes = start.indexes

variable {start d : Cache} {building : List ClassId}

/-- A cache and one with its levels but no indexes are twins. -/
theorem Layered.twins (hc : c.Layered r) (hd : d.Layered r) (hown : d.own = c.own) :
    Twins r c [] c d.withoutIndexes where
  own := hown
  left := hc
  right := hd.withIndexes []
  sound := hown ▸ hd.sound
  absent := by simp
  grown := .refl c
  indexes := rfl

/-- A class that is no longer being built may be in the caches. -/
theorem Twins.outer (h : Twins r start (building ++ [id]) c d) : Twins r start building c d :=
  { h with absent := fun b hb => h.absent b (List.mem_append_left _ hb) }

/-- A class that neither cache has may be built next. -/
theorem Twins.inner (h : Twins r start building c d) (hc : findClass? id c.merged = none)
    (hd : findClass? id d.merged = none) : Twins r start (building ++ [id]) c d := by
  refine { h with absent := fun b hb => ?_ }
  rcases List.mem_append.mp hb with hb | hb
  · exact h.absent b hb
  · rw [List.mem_singleton.mp hb]
    exact ⟨hc, hd⟩

/-- What is kept for another class leaves the classes being built absent. -/
theorem Twins.absent_keepFirst (h : Twins r start building c d) (hid : id ∉ building)
    (node : Node) : ∀ b ∈ building, findClass? b (keepFirst id node c.merged) = none
      ∧ findClass? b (keepFirst id node d.merged) = none := by
  intro b hm
  have hne : b ≠ id := fun he => hid (he ▸ hm)
  obtain ⟨hc, hd⟩ := h.absent b hm
  exact ⟨findClass?_keepFirst_of_ne hne hc, findClass?_keepFirst_of_ne hne hd⟩

/-- A class may be added to both, if its levels are all kept. -/
theorem Twins.keepMerged (h : Twins r start building c d) (hb : id.isBuiltin = false)
    (hu : r.Unites c.own id node) (hid : id ∉ building)
    (hsound : { d with merged := keepFirst id node d.merged }.Sound (r.frozen start.own)) :
    Twins r start building { c with merged := keepFirst id node c.merged }
      { d with merged := keepFirst id node d.merged } where
  own := h.own
  left := h.left.keepMerged hb hu
  right := h.right.keepMerged hb (h.own ▸ hu)
  sound := hsound
  absent := h.absent_keepFirst hid node
  grown := h.grown.keepMerged id node
  indexes := h.indexes

/-- **A class may be added to both with its levels**, if this leaves the second one sound. -/
theorem Twins.keepClass {number : Nat} (h : Twins r start (building ++ [.declared number]) c d)
    (hid : .declared number ∉ building)
    (hl : r.lineage (.declared number) = .ok (levels.map Prod.fst))
    (hsound : (d.keepClass levels (.declared number) node).Sound (r.frozen start.own)) :
    Twins r start building (c.keepClass levels (.declared number) node)
      (d.keepClass levels (.declared number) node) := by
  have hself := h.absent (.declared number) (List.mem_append_right _ (List.mem_singleton.mpr rfl))
  have hown : (d.keepClass levels (.declared number) node).own
      = (c.keepClass levels (.declared number) node).own := by
    rw [keepClass_own, keepClass_own, h.own]
  have hshape : ∀ n node', findClass? (.declared n) (d.keepClass levels (.declared number) node).own
      = some node' → ∃ shape : Shape Node, node' = .ofShape shape ∧ shape.keys.Nodup := by
    intro n node' hk
    obtain ⟨shape, hshape, hnodup, -⟩ := Registry.shape_of_levelFrom (hsound.own _ _ hk)
    exact ⟨shape, hshape, hnodup⟩
  -- the class is built of the levels that are kept now, since the second cache is sound
  have hu : r.Unites (d.keepClass levels (.declared number) node).own (.declared number) node := by
    refine Registry.Unites.of_frozen (Registry.unites_of_sound hsound ?_ ?_)
    · intro lineage hl' level hm hb
      rw [Registry.frozen_lineage, hl] at hl'
      cases hl'
      exact exists_kept_of_keepClass hm hb
    · exact hsound.merged _ _ (findClass?_keepFirst_self hself.2 node)
  refine ⟨hown, ?_, h.right.keepClass rfl hl hshape hu, hsound,
    h.outer.absent_keepFirst hid node, h.grown.keepClass .., h.indexes⟩
  rw [hown] at hshape hu
  exact h.left.keepClass rfl hl hshape hu

end Cache

/-! ## Builds from twins -/

namespace Registry

open Cache

variable {r : Registry} {start c d : Cache} {building : List ClassId} {id level : ClassId}
  {number : Nat} {node : Node} {f g : ClassId → Build Node}

/-- A class whose levels are all kept is built of them. -/
theorem buildNodeIn_of_unites (hc : c.Layered r) (hu : r.Unites c.own (.declared number) node)
    (hb : .declared number ∉ building) :
    (buildNodeIn r building (.declared number)).answer c = .ok node
      ∧ (buildNodeIn r building (.declared number)).after c
        = { c with merged := keepFirst (.declared number) node c.merged } := by
  cases h : findClass? (.declared number) c.merged with
  | some kept =>
    obtain rfl := (hc.merged _ _ h).2.unique hu
    rw [keepFirst_of_kept h]
    exact buildNodeIn_of_merged r building h
  | none =>
    obtain ⟨levels, shape, hl, hkept, hshape, rfl⟩ := hu
    obtain ⟨hlevels, hafter⟩ := levelNodes_of_kept (r := r)
      (f := fun other => buildNodeIn r (building ++ [.declared number]) other) hl hkept
    have hidle := buildNodeIn_of_idle h (contains_of_lineage hl) hb
    have hrun := Build.run_bind_of_ok (f := uniteLevels r (.declared number)) hlevels
    have hunite := uniteLevels_of_ok (.declared number) c hshape
    rw [hafter, hunite.1, hunite.2] at hrun
    rw [keepClass_of_kept hkept] at hrun
    exact ⟨hidle.1.trans hrun.1, hidle.2.trans hrun.2⟩

/-- A level is built alike when the references of its fields are. -/
theorem levelNode_twins
    (h : ∀ d, (r.frozen start.own).LevelRefers level d →
      Build.Relates (Twins r start building) (f d) (g d)) :
    Build.Relates (Twins r start building) (levelNode r f level)
      (levelNode (r.frozen start.own) g level) := by
  cases level with
  | builtin b => exact .pure b.node
  | declared number =>
    intro c d hcd
    rw [levelNode, levelNode, Build.run_get_bind.1, Build.run_get_bind.2, Build.run_get_bind.1,
      Build.run_get_bind.2, hcd.own]
    cases hk : findClass? (.declared number) c.own with
    | some node => exact ⟨rfl, hcd⟩
    | none =>
      -- the level is not frozen either, since nothing that was kept is lost
      dsimp only
      rw [← ownNode_frozen_of_none (hcd.grown.own.findClass?_eq_none hk) f]
      exact (Build.relates_simulation _).ownNode h c d hcd

/-- So are all levels of a class. -/
theorem levelNodes_twins
    (h : ∀ d, (r.frozen start.own).Refers id d →
      Build.Relates (Twins r start building) (f d) (g d)) :
    Build.Relates (Twins r start building) (levelNodes r f id)
      (levelNodes (r.frozen start.own) g id) := by
  rw [levelNodes, levelNodes, frozen_lineage]
  cases hl : r.lineage id with
  | error e => exact fun c d hcd => ⟨Eq.trans (b := .error e) rfl rfl, hcd⟩
  | ok lineage =>
    suffices Build.Relates (Twins r start building)
        (lineage.mapM fun level => (level, ·) <$> levelNode r f level)
        (lineage.mapM fun level => (level, ·) <$> levelNode (r.frozen start.own) g level) from this
    refine (Build.relates_simulation _).mapM fun level hm => .map _ ?_
    cases level with
    | builtin b => exact .pure b.node
    | declared number =>
      have hl' := (r.frozen_lineage start.own id).trans hl
      exact levelNode_twins fun d hd => h d ⟨lineage, hl', _, hm, rfl, hd⟩

theorem levelsIn_twins
    (h : ∀ d, (r.frozen start.own).Refers id d → Build.Relates (Twins r start (building ++ [id]))
      (buildNodeIn r (building ++ [id]) d)
      (buildNodeIn (r.frozen start.own) (building ++ [id]) d)) :
    Build.Relates (Twins r start (building ++ [id])) (levelsIn r building id)
      (levelsIn (r.frozen start.own) building id) :=
  levelNodes_twins h

/-- The same levels are united to the same node in both registries. -/
theorem uniteLevels_twins {levels : List (ClassId × Node)}
    (h : Twins r start (building ++ [.declared number]) c d) (hid : .declared number ∉ building)
    (hl : r.lineage (.declared number) = .ok (levels.map Prod.fst))
    (hsound : ((uniteLevels (r.frozen start.own) (.declared number) levels).after d).Sound
      (r.frozen start.own)) :
    (uniteLevels r (.declared number) levels).answer c
        = (uniteLevels (r.frozen start.own) (.declared number) levels).answer d
      ∧ Twins r start building ((uniteLevels r (.declared number) levels).after c)
        ((uniteLevels (r.frozen start.own) (.declared number) levels).after d) := by
  cases hm : mergeLevels r levels with
  | error e =>
    have hm' : mergeLevels (r.frozen start.own) levels = .error e := by rw [mergeLevels_frozen, hm]
    obtain ⟨hx, hx'⟩ := uniteLevels_of_error (.declared number) c hm
    obtain ⟨hy, hy'⟩ := uniteLevels_of_error (.declared number) d hm'
    rw [hx, hy, hx', hy']
    exact ⟨rfl, h.outer⟩
  | ok shape =>
    have hm' : mergeLevels (r.frozen start.own) levels = .ok shape := by rw [mergeLevels_frozen, hm]
    obtain ⟨hx, hx'⟩ := uniteLevels_of_ok (.declared number) c hm
    obtain ⟨hy, hy'⟩ := uniteLevels_of_ok (.declared number) d hm'
    rw [hy'] at hsound
    rw [hx, hy, hx', hy']
    exact ⟨rfl, h.keepClass hid hl hsound⟩

/-- **From twins the build of a class answers the same and leaves twins.** -/
theorem buildNodeIn_twins (h : (r.frozen start.own).Leads building id) :
    Build.Relates (Twins r start building) (buildNodeIn r building id)
      (buildNodeIn (r.frozen start.own) building id) := by
  induction building, id using building_induction (r := r.frozen start.own) with
  | builtin building b =>
    rw [buildNodeIn, buildNodeIn]
    exact .pure b.node
  | unknown building number hk =>
    intro c d hcd
    -- a class that is not known has no lineage, so it is not kept
    have hnone : ∀ own, ¬ ∃ node, r.Unites own (.declared number) node := by
      rintro own ⟨node, levels, shape, hl, -⟩
      cases (show r.contains (.declared number) = false from hk).symm.trans (contains_of_lineage hl)
    have hx := buildNodeIn_of_unknown (r := r) building
      (hcd.left.merged_eq_none (hnone _)) hk
    have hy := buildNodeIn_of_unknown (r := r.frozen start.own) building
      (hcd.right.merged_eq_none (hnone _)) hk
    rw [hx.1, hx.2, hy.1, hy.2]
    exact ⟨rfl, hcd⟩
  | busy building number hk hb =>
    intro c d hcd
    obtain ⟨hc, hd⟩ := hcd.absent _ hb
    have hx := buildNodeIn_of_busy (r := r) hc hk hb
    have hy := buildNodeIn_of_busy (r := r.frozen start.own) hd hk hb
    rw [hx.1, hx.2, hy.1, hy.2]
    exact ⟨rfl, hcd⟩
  | idle building number hk hb ih =>
    intro c d hcd
    have hsound := (buildNodeIn_agrees h d hcd.sound).2
    by_cases hu : ∃ node, r.Unites c.own (.declared number) node
    · obtain ⟨node, hu⟩ := hu
      have hu' : (r.frozen start.own).Unites d.own (.declared number) node :=
        (hcd.own ▸ hu).mono (within_of_classes_eq rfl) (.refl _)
      have hright : d.Layered (r.frozen start.own) := hcd.right.within (within_of_classes_eq rfl)
      have hx := buildNodeIn_of_unites hcd.left hu hb
      have hy := buildNodeIn_of_unites hright hu' hb
      rw [hy.2] at hsound
      rw [hx.1, hx.2, hy.1, hy.2]
      exact ⟨rfl, hcd.keepMerged rfl hu hb hsound⟩
    · -- neither cache has the class, so both make its levels
      have hc := hcd.left.merged_eq_none hu
      have hd := hcd.right.merged_eq_none (hcd.own ▸ hu)
      have hx := buildNodeIn_of_idle (r := r) hc hk hb
      have hy := buildNodeIn_of_idle (r := r.frozen start.own) hd hk hb
      obtain ⟨hanswer, hafter⟩ :=
        levelsIn_twins (fun d hd => ih d (h.step hd)) c d (hcd.inner hc hd)
      rw [hy.2] at hsound
      rw [hx.1, hx.2, hy.1, hy.2]
      refine Build.run_bind_alike hanswer (fun _ _ => hafter.outer) fun levels hlevels => ?_
      rw [(Build.run_bind_of_ok hlevels).2] at hsound
      refine uniteLevels_twins hafter hb ?_ hsound
      exact (r.frozen_lineage start.own _).symm.trans (lineage_of_levelNodes hlevels)

/-- **A build of a class answers alike in the registry and in the frozen one**, and leaves twins. -/
theorem buildNode_twins (r : Registry) (start : Cache) (id : ClassId) :
    Build.Relates (Twins r start []) (buildNode r id) (buildNode (r.frozen start.own) id) :=
  buildNodeIn_twins leads_nil

end Registry

end DocumentModel
