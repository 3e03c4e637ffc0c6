import DocumentModel.Proofs.Class.Lineages
import DocumentModel.Proofs.Compile.Uncached

/-!
# Registries that are well declared

In a well-declared registry only one thing keeps a class from being built: `nodeFrom_eq_error` says
that the node of a class fails because the node of a class that it refers to fails, or because a
level of its lineage refers to itself.
-/

namespace DocumentModel

/-- Options that fit a container name the class that the container refers to. -/
theorem TypeTag.references_eq_of_fits {tag : TypeTag} {options : TypeOptions}
    (hc : tag.isContainer = true) (hf : tag.fits options = true) :
    tag.references options = options.references := by
  cases tag <;> cases hc <;> cases options <;> first | rfl | cases hf

namespace Registry

variable {r : Registry} {f : ClassId → Except SchemaError Node} {id level d : ClassId}
  {number : Nat} {e : SchemaError}

/-! ## Lineages -/

/-- Every field has a tag with options that go with it, every class that is referred to is known,
and a built-in class that is a base is the one of objects. -/
structure WellDeclared (r : Registry) : Prop where
  fits : ∀ id, ∀ field ∈ r.declarations id,
    ∃ tag, field.tag = some tag ∧ tag.fits field.options = true
  known : ∀ id, ∀ field ∈ r.declarations id, ∀ d ∈ field.options.references, r.contains d = true
  /-- No class is declared with a base that is not known (`BasesKnown.define?`). -/
  bases : r.BasesKnown
  objects : ∀ e ∈ r.classes, ∀ c, e.base = some (.builtin c) → c = .object

/-- A level that a lineage may have: the built-in class of objects, or a declared class. -/
def ObjectLevel (level : ClassId) : Prop := ∀ c, level = .builtin c → c = .object

/-- **A known class has a lineage.** The class itself comes first, and every level is one of
objects. -/
theorem WellDeclared.lineage (hw : r.WellDeclared) (h : r.contains (.declared number) = true) :
    ∃ ancestors, r.lineage (.declared number) = .ok (.declared number :: ancestors)
      ∧ ∀ level ∈ ClassId.declared number :: ancestors, ObjectLevel level := by
  obtain ⟨ancestors, hl⟩ := hw.bases.exists_lineage h
  refine ⟨ancestors, hl, fun level hm c hc => ?_⟩
  subst hc
  -- a level that is built-in is the base of another one
  rcases eq_or_base?_of_mem_lineage hl hm with hself | ⟨derived, hb⟩
  · cases hself
  · obtain ⟨entry, hentry, -, hbase⟩ := entry_of_base? hb
    exact hw.objects entry hentry c hbase

/-- What a level refers to is referred to by its class. -/
theorem WellDeclared.refers_of_levelRefers (hw : r.WellDeclared)
    (h : r.contains (.declared number) = true) (hd : r.LevelRefers (.declared number) d) :
    r.Refers (.declared number) d := by
  obtain ⟨ancestors, hl, -⟩ := hw.lineage h
  exact ⟨_, hl, .declared number, List.mem_cons_self, rfl, hd⟩

/-! ## What keeps a class from having a node -/

/-- Levels that are all objects can be united. -/
theorem exists_mergeLevels {levels : List (ClassId × Node)}
    (h : ∀ entry ∈ levels, (entry.2.shape?).isSome = true) :
    ∃ shape, mergeLevels r levels = .ok shape := by
  induction levels with
  | nil => exact ⟨[], rfl⟩
  | cons entry rest ih =>
    obtain ⟨hentry, hrest⟩ := List.forall_mem_cons.mp h
    obtain ⟨shape, hshape⟩ := ih hrest
    obtain ⟨own, hown⟩ := Option.isSome_iff_exists.mp hentry
    rw [mergeLevels] at hshape ⊢
    rw [List.foldrM_cons, hshape]
    refine ⟨Shape.extend shape own, bind_eq_ok_iff.mpr ⟨shape, rfl, ?_⟩⟩
    rw [hown]

/-- The node of a level of objects is an object. -/
theorem isSome_shape? {node : Node} (ho : ObjectLevel level)
    (h : r.levelFrom f level = .ok node) : (node.shape?).isSome = true := by
  cases level with
  | builtin c =>
    cases ho c rfl
    cases h
    rfl
  | declared number =>
    obtain ⟨shape, -, h⟩ := bind_eq_ok_iff.mp h
    cases h
    rfl

/-- A field of a well-declared class fails with its reference only, or because it refers to its own
class. -/
theorem WellDeclared.fieldNode_eq_error (hw : r.WellDeclared) {field : FieldDeclaration}
    (hfield : field ∈ r.declarations level) {path : String}
    (h : fieldNode f level path field = .error e) :
    (∃ d, r.LevelRefers level d ∧ f d = .error e)
      ∨ r.LevelRefers level level ∧ e = .circularReference path := by
  obtain ⟨tag, ht, hfits⟩ := hw.fits level field hfield
  unfold fieldNode at h
  rw [ht] at h
  dsimp only at h
  split at h
  · next hself =>
    -- the field refers to its own class
    cases h
    rw [Bool.and_eq_true, List.contains_iff_mem] at hself
    obtain ⟨hc, hself⟩ := hself
    rw [← TypeTag.references_eq_of_fits hc hfits] at hself
    exact Or.inr ⟨⟨field, hfield, tag, ht, hself⟩, rfl⟩
  · rw [map_eq_error_iff] at h
    obtain ⟨assemble, hassemble, htotal⟩ := typeNode_eq path tag field.options
    rw [hassemble] at h
    rcases bind_eq_error_iff.mp h with h | ⟨nodes, hnodes, h⟩
    · obtain ⟨d, hd, hf⟩ := exists_of_mapM_eq_error h
      exact Or.inl ⟨d, ⟨field, hfield, tag, ht, hd⟩, hf⟩
    · obtain ⟨n, hn⟩ := htotal hfits nodes (forall₂_of_mapM_eq_ok hnodes).1
      rw [hn] at h
      cases h

theorem WellDeclared.contains_of_levelRefers (hw : r.WellDeclared) (h : r.LevelRefers level d) :
    r.contains d = true := by
  obtain ⟨field, hfield, tag, -, hd⟩ := h
  exact hw.known level field hfield d (TypeTag.references_subset hd).2

/-- **A class has no node because of a class that it refers to, or because of a level that refers to
itself.** -/
theorem WellDeclared.nodeFrom_eq_error (hw : r.WellDeclared)
    (hk : r.contains (.declared number) = true) (h : r.nodeFrom f (.declared number) = .error e) :
    (∃ d, r.Refers (.declared number) d ∧ r.contains d = true ∧ f d = .error e)
      ∨ ∃ level path, r.Refers (.declared number) level ∧ r.Refers level level
        ∧ e = .circularReference path := by
  obtain ⟨ancestors, hl, hobjects⟩ := hw.lineage hk
  -- the lineage of the class is there, and its levels can be merged when each has a node
  rcases bind_eq_error_iff.mp h with h | ⟨levels, hlevels, h⟩
  · rw [levelsFrom, hl] at h
    obtain ⟨level, hm, he⟩ := exists_of_mapM_eq_error h
    rw [map_eq_error_iff] at he
    cases level with
    | builtin c => cases he
    | declared n =>
      have hrefers : ∀ d, r.LevelRefers (.declared n) d → r.Refers (.declared number) d :=
        fun d hd => ⟨_, hl, _, hm, rfl, hd⟩
      rcases bind_eq_error_iff.mp he with he | ⟨shape, -, he⟩
      · obtain ⟨field, hfield, s, hs⟩ := exists_of_foldlM_eq_error he
        rcases bind_eq_error_iff.mp hs with hs | ⟨node, -, hs⟩
        · rcases hw.fieldNode_eq_error hfield hs with ⟨d, hd, hf⟩ | ⟨hself, he⟩
          · exact Or.inl ⟨d, hrefers d hd, hw.contains_of_levelRefers hd, hf⟩
          · have hn := hw.contains_of_levelRefers hself
            exact Or.inr ⟨.declared n, _, hrefers _ hself, hw.refers_of_levelRefers hn hself, he⟩
        · cases hs
      · cases he
  · rcases bind_eq_error_iff.mp h with h | ⟨shape, -, h⟩
    · obtain ⟨shape, hshape⟩ := exists_mergeLevels (r := r) fun entry hm => by
        obtain ⟨hnode, lineage, hl', hlevel⟩ := mem_lineage_of_mem_levels hlevels hm
        cases hl.symm.trans hl'
        exact isSome_shape? (hobjects _ hlevel) hnode
      rw [hshape] at h
      cases h
    · cases h

end Registry

end DocumentModel
