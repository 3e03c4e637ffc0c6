import DocumentModel.Proofs.Class.Lineages
import DocumentModel.Proofs.Compile.Keeping
import DocumentModel.Proofs.Schema.Shapes

/-!
# Classes as unions of kept levels

The levels of a lineage are kept, and the node of a class unites them (`Registry.Unites`): at every
key it has what the most derived level has that has anything there (`Registry.Unites.field?_eq`). A
cache is layered when all its nodes are of this kind. Being layered does not depend on how fields
are declared, so declaring and redeclaring fields keeps a cache layered.
-/

namespace DocumentModel

/-! ## Levels with their nodes -/

section

variable {ε : Type} {lineage : List ClassId} {levels levels' : List (ClassId × Node)}

theorem mapM_levels_eq_ok_iff {f : ClassId → Except ε Node} :
    lineage.mapM (fun level => (level, ·) <$> f level) = .ok levels
      ↔ lineage = levels.map Prod.fst ∧ ∀ entry ∈ levels, f entry.1 = .ok entry.2 := by
  induction lineage generalizing levels with
  | nil =>
    rw [List.mapM_nil]
    constructor
    · intro h
      cases h
      simp
    · rintro ⟨h, -⟩
      rw [List.map_eq_nil_iff.mp h.symm]
      rfl
  | cons level rest ih =>
    rw [List.mapM_cons, bind_eq_ok_iff]
    constructor
    · rintro ⟨_, hfirst, h⟩
      obtain ⟨node, hnode, rfl⟩ := map_eq_ok_iff.mp hfirst
      obtain ⟨tail, htail, h⟩ := bind_eq_ok_iff.mp h
      cases h
      obtain ⟨rfl, hall⟩ := ih.mp htail
      exact ⟨rfl, List.forall_mem_cons.mpr ⟨hnode, hall⟩⟩
    · rintro ⟨h, hall⟩
      cases levels with
      | nil => cases h
      | cons entry tail =>
        obtain ⟨rfl, rfl⟩ := List.cons.inj h
        obtain ⟨hnode, hrest⟩ := List.forall_mem_cons.mp hall
        refine ⟨entry, map_eq_ok_iff.mpr ⟨entry.2, hnode, rfl⟩, ?_⟩
        exact bind_eq_ok_iff.mpr ⟨tail, ih.mpr ⟨rfl, hrest⟩, rfl⟩

/-- Levels are given by their classes, if their nodes are. -/
theorem levels_unique {f : ClassId → Option Node} (h : levels.map Prod.fst = levels'.map Prod.fst)
    (hl : ∀ entry ∈ levels, f entry.1 = some entry.2)
    (hl' : ∀ entry ∈ levels', f entry.1 = some entry.2) : levels = levels' := by
  induction levels generalizing levels' with
  | nil => exact (List.map_eq_nil_iff.mp h.symm).symm
  | cons entry rest ih =>
    cases levels' with
    | nil => cases h
    | cons entry' rest' =>
      obtain ⟨hfst, hrest⟩ := List.cons.inj h
      obtain ⟨hentry, hall⟩ := List.forall_mem_cons.mp hl
      obtain ⟨hentry', hall'⟩ := List.forall_mem_cons.mp hl'
      rw [ih hrest hall hall']
      rw [hfst, hentry'] at hentry
      rw [Prod.ext hfst (Option.some.inj hentry.symm)]

theorem mergeLevels_cons (r : Registry) (entry : ClassId × Node) (rest : List (ClassId × Node)) :
    mergeLevels r (entry :: rest) = mergeLevels r rest >>= fun shape => match entry.2.shape? with
      | some own => .ok (Shape.extend shape own)
      | none => .error (.unexpectedNodeShape (r.displayName entry.1) entry.2.kind.name) := by
  rw [mergeLevels, List.foldrM_cons]
  rfl

/-- Each level that was united is an object, and its properties extend those of the levels after
it. -/
theorem mergeLevels_cons_eq_ok_iff {r : Registry} {entry : ClassId × Node}
    {rest : List (ClassId × Node)} {shape : Shape Node} :
    mergeLevels r (entry :: rest) = .ok shape ↔ ∃ older own, mergeLevels r rest = .ok older
      ∧ entry.2.shape? = some own ∧ shape = Shape.extend older own := by
  rw [mergeLevels_cons, bind_eq_ok_iff]
  constructor
  · rintro ⟨older, holder, h⟩
    split at h
    · next own hown =>
      cases h
      exact ⟨older, own, holder, hown, rfl⟩
    · cases h
  · rintro ⟨older, own, holder, hown, rfl⟩
    exact ⟨older, holder, by rw [hown]⟩

/-- What levels unite to does not depend on the registry, which only names classes in errors. -/
theorem mergeLevels_eq_ok (r' : Registry) {r : Registry} {shape : Shape Node}
    (h : mergeLevels r levels = .ok shape) : mergeLevels r' levels = .ok shape := by
  induction levels generalizing shape with
  | nil => exact h
  | cons entry rest ih =>
    obtain ⟨older, own, holder, hown, rfl⟩ := mergeLevels_cons_eq_ok_iff.mp h
    exact mergeLevels_cons_eq_ok_iff.mpr ⟨older, own, ih holder, hown, rfl⟩

end

/-! ## Properties of united levels -/

/-- The node of a property of an object. -/
def Node.field? (key : String) (node : Node) : Option Node := node.shape?.bind (Shape.get? key)

@[simp]
theorem Node.shape?_ofShape (shape : Shape Node) : (Node.ofShape shape).shape? = some shape := rfl

@[simp]
theorem Node.field?_ofShape (key : String) (shape : Shape Node) :
    (Node.ofShape shape).field? key = shape.get? key := rfl

/-- Every property of a node that is an object stands once. -/
def Node.PropertiesOnce (node : Node) : Prop :=
  ∀ shape, node.shape? = some shape → (Shape.keys shape).Nodup

theorem BuiltinClass.propertiesOnce (c : BuiltinClass) : c.node.PropertiesOnce := by
  intro shape h
  cases c <;> cases h
  exact List.nodup_nil

/-- At every key united levels have what the first level that has the key says. -/
theorem get?_of_mergeLevels {r : Registry} {levels : List (ClassId × Node)} {shape : Shape Node}
    (hnodup : ∀ entry ∈ levels, entry.2.PropertiesOnce) (h : mergeLevels r levels = .ok shape)
    (key : String) : shape.get? key = levels.findSome? fun entry => entry.2.field? key := by
  induction levels generalizing shape with
  | nil =>
    cases h
    rfl
  | cons entry rest ih =>
    obtain ⟨hentry, hrest⟩ := List.forall_mem_cons.mp hnodup
    obtain ⟨older, own, holder, hown, rfl⟩ := mergeLevels_cons_eq_ok_iff.mp h
    have hfield : entry.2.field? key = own.get? key := by rw [Node.field?, hown, Option.bind_some]
    rw [Shape.get?_extend (hentry own hown), ih hrest holder, List.findSome?_cons, hfield]
    cases own.get? key <;> rfl

/-! ## Kept levels -/

/-- The node of a level, if it is built-in or kept. -/
def keptLevel? (own : List (ClassId × Node)) : ClassId → Option Node
  | .builtin c => some c.node
  | .declared number => findClass? (.declared number) own

theorem Extends.keptLevel?_eq_some {own own' : List (ClassId × Node)} (h : Extends own own')
    {level : ClassId} {node : Node} (hk : keptLevel? own level = some node) :
    keptLevel? own' level = some node := by
  cases level with
  | builtin c => exact hk
  | declared number => exact h.findClass?_eq_some hk

/-- **A node unites the levels of a class**, all of which are built-in or kept. -/
def Registry.Unites (r : Registry) (own : List (ClassId × Node)) (id : ClassId) (node : Node) :
    Prop :=
  ∃ levels shape, r.lineage id = .ok (levels.map Prod.fst)
    ∧ (∀ entry ∈ levels, keptLevel? own entry.1 = some entry.2)
    ∧ mergeLevels r levels = .ok shape ∧ node = .ofShape shape

namespace Registry.Unites

variable {r r' : Registry} {own own' : List (ClassId × Node)} {id : ClassId} {node node' : Node}

/-- A class unites to one node at most. -/
theorem unique (h : r.Unites own id node) (h' : r.Unites own id node') : node = node' := by
  obtain ⟨levels, shape, hl, hkept, hshape, rfl⟩ := h
  obtain ⟨levels', shape', hl', hkept', hshape', rfl⟩ := h'
  obtain rfl := levels_unique (Except.ok.inj (hl.symm.trans hl')) hkept hkept'
  rw [Except.ok.inj (hshape.symm.trans hshape')]

/-- More classes and more kept levels change nothing. -/
theorem mono (h : r.Unites own id node) (hr : r.Within r') (hown : Extends own own') :
    r'.Unites own' id node := by
  obtain ⟨levels, shape, hl, hkept, hshape, rfl⟩ := h
  exact ⟨levels, shape, hr.lineage hl, fun entry hm => hown.keptLevel?_eq_some (hkept entry hm),
    mergeLevels_eq_ok r' hshape, rfl⟩

/-- **At every key the most derived level counts that has a property there.** -/
theorem field?_eq (h : r.Unites own id node)
    (hown : ∀ level node, keptLevel? own level = some node → node.PropertiesOnce)
    {lineage : List ClassId} (hl : r.lineage id = .ok lineage) (key : String) :
    node.field? key
      = lineage.findSome? fun level => (keptLevel? own level).bind (Node.field? key) := by
  obtain ⟨levels, shape, hl', hkept, hshape, rfl⟩ := h
  obtain rfl := Except.ok.inj (hl'.symm.trans hl)
  rw [Node.field?_ofShape,
    get?_of_mergeLevels (fun entry hm => hown _ _ (hkept entry hm)) hshape, List.findSome?_map]
  -- for each level, what it is made of is what is kept
  clear hshape hl hl'
  induction levels with
  | nil => rfl
  | cons entry rest ih =>
    obtain ⟨hentry, hrest⟩ := List.forall_mem_cons.mp hkept
    rw [List.findSome?_cons, List.findSome?_cons, ih hrest, Function.comp_apply, hentry,
      Option.bind_some]

end Registry.Unites

/-! ## Layered caches -/

/-- **Kept nodes unite kept levels**, and kept levels are there because a class was built. -/
structure Cache.Layered (r : Registry) (c : Cache) : Prop where
  own : ∀ id node, findClass? id c.own = some node →
    id.isBuiltin = false ∧ ∃ shape : Shape Node, node = .ofShape shape ∧ shape.keys.Nodup
  merged : ∀ id node, findClass? id c.merged = some node →
    id.isBuiltin = false ∧ r.Unites c.own id node
  rooted : ∀ level node, findClass? level c.own = some node → ∃ id lineage merged,
    findClass? id c.merged = some merged ∧ r.lineage id = .ok lineage ∧ level ∈ lineage

namespace Cache.Layered

variable {r r' : Registry} {c : Cache} {id level : ClassId} {node : Node}

theorem empty : ({} : Cache).Layered r where
  own _ _ h := nomatch h
  merged _ _ h := nomatch h
  rooted _ _ h := nomatch h

theorem propertiesOnce (h : c.Layered r) (hk : keptLevel? c.own level = some node) :
    node.PropertiesOnce := by
  cases level with
  | builtin b =>
    cases hk
    exact b.propertiesOnce
  | declared number =>
    obtain ⟨-, shape, rfl, hnodup⟩ := h.own _ _ hk
    intro _ hs
    cases hs
    exact hnodup

theorem merged_eq_none (h : c.Layered r) (hu : ¬ ∃ node, r.Unites c.own id node) :
    findClass? id c.merged = none := by
  cases hk : findClass? id c.merged with
  | none => rfl
  | some node => exact absurd ⟨node, (h.merged id node hk).2⟩ hu

/-- **Whatever is declared, a cache stays layered**, as long as no class is lost. -/
theorem within (h : c.Layered r) (hr : r.Within r') : c.Layered r' where
  own := h.own
  merged id node hk :=
    let ⟨hb, hunites⟩ := h.merged id node hk
    ⟨hb, hunites.mono hr (.refl c.own)⟩
  rooted level node hk :=
    let ⟨id, lineage, merged, hm, hl, hmem⟩ := h.rooted level node hk
    ⟨id, lineage, merged, hm, hr.lineage hl, hmem⟩

/-- Indexes do not count. -/
theorem withIndexes (h : c.Layered r) (indexes : List (ClassId × List IndexDescription)) :
    { c with indexes := indexes }.Layered r where
  own := h.own
  merged := h.merged
  rooted := h.rooted

/-- The node of a class whose levels are all kept may be kept as well. -/
theorem keepMerged (h : c.Layered r) (hb : id.isBuiltin = false) (hu : r.Unites c.own id node) :
    { c with merged := keepFirst id node c.merged }.Layered r where
  own := h.own
  merged other m hk := by
    rcases findClass?_keepFirst hk with hk | ⟨rfl, rfl⟩
    · exact h.merged other m hk
    · exact ⟨hb, hu⟩
  rooted level m hk := by
    obtain ⟨root, lineage, merged, hm, hl, hmem⟩ := h.rooted level m hk
    exact ⟨root, lineage, merged, (extends_keepFirst ..).findClass?_eq_some hm, hl, hmem⟩

end Cache.Layered

end DocumentModel
