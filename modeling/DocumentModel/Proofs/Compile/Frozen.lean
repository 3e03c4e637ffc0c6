import DocumentModel.Proofs.Compile.Layers

/-!
# Registries that agree with a cache

Declarations change while levels are kept, so that a cache is not sound for the registry as it is.
It is sound for the frozen registry, in which every class with a kept level is declared with the
fields of that level (`Cache.Layered.sound`). In the other direction a class that a frozen registry
builds unites its kept levels (`Registry.unites_of_sound`).
-/

namespace DocumentModel

/-! ## Fields that are given -/

/-- The declaration of a property by its node. -/
def FieldDeclaration.given (property : String × Node) : FieldDeclaration :=
  { name := property.1, tag := some .raw, options := .raw property.2 }

/-- The registry in which the classes with kept levels are declared with the properties of these. -/
def Registry.frozen (r : Registry) (own : List (ClassId × Node)) : Registry :=
  { r with
    fields := own.map (fun entry => (entry.1, (entry.2.shape?.getD []).map .given)) ++ r.fields }

namespace Registry

variable {r r' : Registry} {own : List (ClassId × Node)} {id level : ClassId} {node : Node}
  {number : Nat} {f : ClassId → Except SchemaError Node}

theorem frozen_lineage (r : Registry) (own : List (ClassId × Node)) (id : ClassId) :
    (r.frozen own).lineage id = r.lineage id :=
  lineage_eq_of_classes_eq rfl

theorem frozen_displayName (r : Registry) (own : List (ClassId × Node)) (id : ClassId) :
    (r.frozen own).displayName id = r.displayName id :=
  rfl

theorem mergeLevels_frozen (r : Registry) (own levels : List (ClassId × Node)) :
    mergeLevels (r.frozen own) levels = mergeLevels r levels := by
  simp only [mergeLevels, frozen_displayName]

theorem declarations?_frozen (r : Registry) (own : List (ClassId × Node)) (id : ClassId) :
    (r.frozen own).declarations? id
      = ((findClass? id own).map fun node => (node.shape?.getD []).map .given).or
        (r.declarations? id) := by
  rw [declarations?, declarations?, frozen, List.find?_append, List.find?_map, Option.map_or,
    findClass?, Option.map_map, Option.map_map]
  rfl

theorem declarations_frozen_of_kept (h : findClass? id own = some node) :
    (r.frozen own).declarations id = (node.shape?.getD []).map .given := by
  rw [declarations, declarations?_frozen, h]
  rfl

theorem declarations_frozen_of_none (h : findClass? id own = none) :
    (r.frozen own).declarations id = r.declarations id := by
  rw [declarations, declarations, declarations?_frozen, h, Option.map_none, Option.none_or]

/-- Until a level is kept, it is made of the fields that are declared. -/
theorem ownNode_frozen_of_none {m : Type → Type} [Monad m] [MonadExceptOf SchemaError m]
    (h : findClass? id own = none) (classNode : ClassId → m Node) :
    ownNode (r.frozen own) classNode id = ownNode r classNode id := by
  rw [ownNode, ownNode, declarations_frozen_of_none h]
  rfl

/-- Fields that are given are what their declarations are made into. -/
theorem foldlM_given (owner : ClassId) (path : String → String) (shape properties : Shape Node) :
    ((properties.map FieldDeclaration.given).foldlM
      (fun shape d => do
        let node ← fieldNode f owner (path d.name) d
        pure (Shape.insert d.name node shape)) shape : Except SchemaError (Shape Node))
      = .ok (shape.extend properties) := by
  induction properties generalizing shape with
  | nil => rfl
  | cons property rest ih =>
    rw [List.map_cons, List.foldlM_cons, Shape.extend_cons, ← ih]
    rfl

/-- **A kept level is what a frozen registry makes of its class**, whatever other classes are. -/
theorem levelFrom_frozen {shape : Shape Node}
    (h : findClass? (.declared number) own = some (.ofShape shape)) (hnodup : shape.keys.Nodup) :
    (r.frozen own).levelFrom f (.declared number) = .ok (.ofShape shape) := by
  have hextend : Shape.extend [] shape = shape := Shape.extend_of_nodup hnodup
  rw [levelFrom, ownNode, declarations_frozen_of_kept h, Node.shape?_ofShape, Option.getD_some,
    foldlM_given _ fun name => (r.frozen own).displayName (.declared number) ++ "." ++ name,
    hextend]
  rfl

/-- The level of a declared class is an object, in which declared fields stand once each. -/
theorem shape_of_levelFrom (h : r.levelFrom f (.declared number) = .ok node) :
    ∃ shape : Shape Node, node = .ofShape shape ∧ shape.keys.Nodup
      ∧ ∀ key ∈ shape.keys, ∃ d ∈ r.declarations (.declared number), d.name = key := by
  obtain ⟨shape, hshape, h⟩ := bind_eq_ok_iff.mp h
  cases h
  refine ⟨shape, rfl, of_foldlM_eq_ok (p := fun shape => (Shape.keys shape).Nodup
    ∧ ∀ key ∈ Shape.keys shape, ∃ d ∈ r.declarations (.declared number), d.name = key)
    (by simp [Shape.keys]) ?_ hshape⟩
  rintro d hd s t ⟨hnodup, hdeclared⟩ ht
  obtain ⟨n, -, ht⟩ := bind_eq_ok_iff.mp ht
  cases ht
  refine ⟨Shape.nodup_keys_insert hnodup, fun key hm => ?_⟩
  rcases Shape.mem_keys_insert.mp hm with rfl | hm
  · exact ⟨d, hd, rfl⟩
  · exact hdeclared key hm

/-! ## Layered caches are sound -/

theorem levelFrom_of_kept {c : Cache} (hc : c.Layered r) (h : keptLevel? c.own level = some node) :
    (r.frozen c.own).levelFrom f level = .ok node := by
  cases level with
  | builtin b =>
    cases h
    rfl
  | declared number =>
    obtain ⟨-, shape, rfl, hnodup⟩ := hc.own _ _ h
    exact levelFrom_frozen h hnodup

end Registry

/-- The cache without its indexes. -/
def Cache.withoutIndexes (c : Cache) : Cache := { c with indexes := [] }

/-- **A layered cache is sound for the registry that is frozen with it.** -/
theorem Cache.Layered.sound {r : Registry} {c : Cache} (h : c.Layered r) :
    c.withoutIndexes.Sound (r.frozen c.own) where
  merged id node hk := by
    obtain ⟨hb, levels, shape, hl, hkept, hshape, rfl⟩ := h.merged id node hk
    cases id with
    | builtin b => cases hb
    | declared number =>
      have hl' := (r.frozen_lineage c.own _).trans hl
      rw [Registry.nodeIn_idle (Registry.contains_of_lineage hl') (List.not_mem_nil)]
      refine bind_eq_ok_iff.mpr ⟨levels, ?_,
        bind_eq_ok_iff.mpr ⟨shape, mergeLevels_eq_ok _ hshape, rfl⟩⟩
      refine bind_eq_ok_iff.mpr ⟨_, hl', mapM_levels_eq_ok_iff.mpr ⟨rfl, fun entry hm => ?_⟩⟩
      exact Registry.levelFrom_of_kept h (hkept entry hm)
  own id node hk := by
    cases id with
    | builtin b => cases (h.own _ _ hk).1
    | declared number => exact Registry.levelFrom_of_kept h hk
  indexes _ _ hk := nomatch hk

namespace Registry

variable {r : Registry} {c : Cache} {node : Node} {number : Nat}

/-- **A class unites its kept levels**, if these and its node are what the registry makes of
them. -/
theorem unites_of_sound (hc : c.Sound r)
    (hkept : ∀ lineage, r.lineage (.declared number) = .ok lineage →
      ∀ level ∈ lineage, level.isBuiltin = false → ∃ m, findClass? level c.own = some m)
    (h : r.nodeIn [] (.declared number) = .ok node) : r.Unites c.own (.declared number) node := by
  obtain ⟨levels, hlevels, shape, hshape, rfl⟩ := levels_of_nodeFrom_eq_ok (nodeFrom_of_nodeIn h)
  obtain ⟨lineage, hl, hmap⟩ := bind_eq_ok_iff.mp hlevels
  obtain ⟨rfl, hnodes⟩ := mapM_levels_eq_ok_iff.mp hmap
  refine ⟨levels, shape, hl, fun entry hm => ?_, hshape, rfl⟩
  have hnode := hnodes entry hm
  obtain ⟨level, n⟩ := entry
  cases level with
  | builtin b =>
    cases hnode
    rfl
  | declared m =>
    obtain ⟨kept, hk⟩ := hkept _ hl _ (List.mem_map_of_mem hm) rfl
    have hn : r.levelFrom (r.nodeIn []) (.declared m) = .ok n := hnode
    rw [hc.own _ _ hk] at hn
    cases hn
    exact hk

theorem Unites.of_frozen {own own' : List (ClassId × Node)} {id : ClassId}
    (h : (r.frozen own').Unites own id node) : r.Unites own id node :=
  h.mono (within_of_classes_eq rfl) (.refl own)

end Registry

end DocumentModel
