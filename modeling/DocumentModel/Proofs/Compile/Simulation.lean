import DocumentModel.Compile.Indexes
import DocumentModel.Proofs.Compile.References

/-!
# Computations that go through the same steps

The parts of a compiler that keep no results are written for any monad with errors. A relation
between the computations of two monads that goes through `pure`, `throw` and `>>=` (`Simulation`)
holds between what such a part does in the one and in the other, as soon as it holds for the nodes
or indexes of the classes that the part asks for.
-/

namespace DocumentModel

variable {m m' : Type → Type} [Monad m] [Monad m'] [MonadExceptOf SchemaError m]
  [MonadExceptOf SchemaError m']

/-- A relation that goes through the steps of computations. -/
structure Simulation (m m' : Type → Type) [Monad m] [Monad m'] [MonadExceptOf SchemaError m]
    [MonadExceptOf SchemaError m'] (R : ∀ α : Type, m α → m' α → Prop) : Prop where
  pure {α : Type} (a : α) : R α (pure a) (pure a)
  throw {α : Type} (e : SchemaError) : R α (throw e) (throw e)
  bind {α β : Type} {x : m α} {x' : m' α} {f : α → m β} {f' : α → m' β} :
    R α x x' → (∀ a, R β (f a) (f' a)) → R β (x >>= f) (x' >>= f')

namespace Simulation

variable {R : ∀ α : Type, m α → m' α → Prop} {α β : Type}

/-- A computation that was made without the monad is related to itself. -/
theorem ofExcept (hR : Simulation m m' R) (e : Except SchemaError α) :
    R _ (ofExcept e : m α) (ofExcept e) := by
  cases e with
  | ok a => exact hR.pure a
  | error e => exact hR.throw e

/-- Related steps make related runs over a list. -/
theorem foldlM (hR : Simulation m m' R) {f : β → α → m β} {f' : β → α → m' β} {l : List α}
    (h : ∀ b, ∀ a ∈ l, R _ (f b a) (f' b a)) (b : β) : R _ (l.foldlM f b) (l.foldlM f' b) := by
  induction l generalizing b with
  | nil =>
    rw [List.foldlM_nil, List.foldlM_nil]
    exact hR.pure b
  | cons a rest ih =>
    rw [List.foldlM_cons, List.foldlM_cons]
    exact hR.bind (h b a List.mem_cons_self)
      fun b => ih (fun b a ha => h b a (List.mem_cons_of_mem _ ha)) b

variable [LawfulMonad m] [LawfulMonad m']

theorem map (hR : Simulation m m' R) (f : α → β) {x : m α} {x' : m' α} (h : R _ x x') :
    R _ (f <$> x) (f <$> x') := by
  rw [← bind_pure_comp, ← bind_pure_comp]
  exact hR.bind h fun a => hR.pure (f a)

/-- So do related steps for each entry of a list on its own. -/
theorem mapM (hR : Simulation m m' R) {f : α → m β} {f' : α → m' β} {l : List α}
    (h : ∀ a ∈ l, R _ (f a) (f' a)) : R _ (l.mapM f) (l.mapM f') := by
  induction l with
  | nil =>
    rw [List.mapM_nil, List.mapM_nil]
    exact hR.pure []
  | cons a rest ih =>
    obtain ⟨ha, hrest⟩ := List.forall_mem_cons.mp h
    rw [List.mapM_cons, List.mapM_cons]
    exact hR.bind ha fun b => hR.bind (ih hrest) fun bs => hR.pure (b :: bs)

/-! ## Nodes of fields -/

variable {classNode : ClassId → m Node} {classNode' : ClassId → m' Node}

/-- The node of a type asks for the classes that its tag refers to, and for no others. -/
theorem typeNode (hR : Simulation m m' R) {path : String} {tag : TypeTag} {options : TypeOptions}
    (h : ∀ id ∈ tag.references options, R _ (classNode id) (classNode' id)) :
    R _ (typeNode classNode path tag options) (typeNode classNode' path tag options) := by
  obtain ⟨assemble, hassemble, -⟩ := typeNode_eq path tag options
  rw [hassemble, hassemble]
  exact hR.bind (hR.mapM h) fun nodes => hR.ofExcept (assemble nodes)

/-- So does the node of a field. -/
theorem fieldNode (hR : Simulation m m' R) {owner : ClassId} {path : String} {d : FieldDeclaration}
    (h : ∀ tag ∈ d.tag, ∀ id ∈ tag.references d.options, R _ (classNode id) (classNode' id)) :
    R _ (fieldNode classNode owner path d) (fieldNode classNode' owner path d) := by
  unfold DocumentModel.fieldNode
  split
  · exact hR.throw _
  · next tag ht =>
    split
    · exact hR.throw _
    · exact hR.map _ (hR.typeNode (h tag ht))

/-- **The node of a level depends on the nodes of the classes that the level refers to.** -/
theorem ownNode (hR : Simulation m m' R) {r : Registry} {level : ClassId}
    (h : ∀ id, r.LevelRefers level id → R _ (classNode id) (classNode' id)) :
    R _ (ownNode r classNode level) (ownNode r classNode' level) := by
  unfold DocumentModel.ownNode
  refine hR.bind (hR.foldlM (fun shape d hd => ?_) []) fun shape => hR.pure (Node.ofShape shape)
  exact hR.bind (hR.fieldNode fun tag ht id hid => h id ⟨d, hd, tag, ht, hid⟩)
    fun node => hR.pure _

/-! ## Indexes of fields -/

variable {classIndexes : ClassId → String → m (List IndexDescription)}
  {classIndexes' : ClassId → String → m' (List IndexDescription)}

/-- The indexes of a field are its own and those of the class that it embeds. -/
theorem fieldIndexes (hR : Simulation m m' R) {r : Registry}
    (h : ∀ id path, R _ (classIndexes id path) (classIndexes' id path)) (owner : ClassId)
    (parent : Option String) (d : FieldDeclaration) :
    R _ (fieldIndexes r classIndexes owner parent d)
      (fieldIndexes r classIndexes' owner parent d) := by
  unfold DocumentModel.fieldIndexes
  split
  · exact hR.pure []
  · split
    · exact hR.pure []
    · dsimp only
      split
      · exact hR.throw _
      · split
        · exact hR.pure _
        · split
          · exact hR.throw _
          · exact hR.map _ (h _ _)

/-- The indexes of a level are those of its fields, one after the other. -/
theorem levelIndexes (hR : Simulation m m' R) {r : Registry}
    (h : ∀ id path, R _ (classIndexes id path) (classIndexes' id path)) (parent : Option String)
    (level : ClassId) :
    R _ (levelIndexes r classIndexes parent level) (levelIndexes r classIndexes' parent level) := by
  unfold DocumentModel.levelIndexes
  exact hR.map _ (hR.mapM fun d _ => hR.fieldIndexes h level parent d)

end Simulation

end DocumentModel
