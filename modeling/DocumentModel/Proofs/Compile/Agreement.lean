import DocumentModel.Compile.Model
import DocumentModel.Proofs.Compile.Uncached

/-!
# Builds that keep results

A cache is sound when everything it holds is what a build that keeps nothing answers, for a class on
its own. From a sound cache a build answers what the build without cache does, and leaves a sound
cache (`Build.Agrees`). For a class inside others this needs that the others led to it: then a kept
node is the node the class has there, too.
-/

namespace DocumentModel

/-! ## Kept results -/

theorem findClass?_keepFirst {α : Type} {id other : ClassId} {a b : α} {kept : List (ClassId × α)}
    (h : findClass? other (keepFirst id a kept) = some b) :
    findClass? other kept = some b ∨ other = id ∧ b = a := by
  unfold keepFirst at h
  split at h
  · exact Or.inl h
  · unfold findClass? at h ⊢
    rw [List.find?_append, Option.map_or, Option.or_eq_some_iff] at h
    rcases h with h | ⟨-, h⟩
    · exact Or.inl h
    · obtain ⟨⟨k, v⟩, hf, rfl⟩ := Option.map_eq_some_iff.mp h
      have hm := List.mem_of_find?_eq_some hf
      have hk := List.find?_some hf
      cases List.mem_singleton.mp hm
      exact Or.inr ⟨(of_decide_eq_true hk).symm, rfl⟩

/-- What holds of every result that is kept, and of those to be kept, holds of all of them after. -/
theorem of_findClass?_foldl {α : Type} {p : ClassId → α → Prop} {entries : List (ClassId × α)}
    (he : ∀ entry ∈ entries, p entry.1 entry.2) {kept : List (ClassId × α)}
    (hk : ∀ id a, findClass? id kept = some a → p id a) :
    ∀ id a, findClass? id (entries.foldl (fun kept entry => keepFirst entry.1 entry.2 kept) kept)
      = some a → p id a := by
  induction entries generalizing kept with
  | nil => exact hk
  | cons entry rest ih =>
    obtain ⟨hentry, hrest⟩ := List.forall_mem_cons.mp he
    refine ih hrest fun id a h => ?_
    rcases findClass?_keepFirst h with h | ⟨rfl, rfl⟩
    · exact hk id a h
    · exact hentry

/-- Everything that is kept is what a build without cache answers for the class on its own. -/
structure Cache.Sound (r : Registry) (c : Cache) : Prop where
  merged : ∀ id node, findClass? id c.merged = some node → r.nodeIn [] id = .ok node
  own : ∀ id node, findClass? id c.own = some node → r.levelFrom (r.nodeIn []) id = .ok node
  indexes : ∀ id indexes, findClass? id c.indexes = some indexes →
    r.indexesIn [] none id = .ok indexes

theorem Cache.sound_empty {r : Registry} : ({} : Cache).Sound r where
  merged _ _ h := nomatch h
  own _ _ h := nomatch h
  indexes _ _ h := nomatch h

/-! ## Agreement -/

namespace Build

variable {α β : Type}

/-- What a build answers with a cache. -/
def answer (x : Build α) (c : Cache) : Except SchemaError α := (x.run.run c).1

/-- The cache that a build leaves. -/
def after (x : Build α) (c : Cache) : Cache := (x.run.run c).2

/-- From a sound cache the build answers what is expected, and leaves a sound cache. -/
def Agrees (r : Registry) (x : Build α) (e : Except SchemaError α) : Prop :=
  ∀ c : Cache, c.Sound r → x.answer c = e ∧ (x.after c).Sound r

namespace Agrees

variable {r : Registry}

theorem pure (a : α) : Agrees r (pure a) (.ok a) := fun _ hc => ⟨rfl, hc⟩

theorem throw (e : SchemaError) : Agrees r (throw e : Build α) (.error e) := fun _ hc => ⟨rfl, hc⟩

theorem ofExcept (e : Except SchemaError α) : Agrees r (ExceptT.mk (Pure.pure e)) e :=
  fun _ hc => ⟨rfl, hc⟩

/-- The second step starts from a result that the first step has when nothing is kept. -/
theorem bind {x : Build α} {e : Except SchemaError α} {f : α → Build β}
    {g : α → Except SchemaError β} (h : Agrees r x e)
    (hf : ∀ a, e = .ok a → Agrees r (f a) (g a)) : Agrees r (x >>= f) (e >>= g) := by
  intro c hc
  obtain ⟨he, hs⟩ := h c hc
  -- one run of both steps: the second one starts from the cache that the first one leaves
  have hrun : (x >>= f).run.run c = match x.answer c with
      | .ok a => (f a).run.run (x.after c)
      | .error e => (.error e, x.after c) := by
    simp only [ExceptT.run_bind, StateT.run_bind]
    unfold answer after
    rcases x.run.run c with ⟨a | a, c'⟩ <;> rfl
  rw [answer, after, hrun, he]
  cases e with
  | ok a => exact hf a rfl _ hs
  | error e => exact ⟨rfl, hs⟩

/-- A further step that answers what it is given changes no answer. -/
theorem bind_self {x : Build α} {e : Except SchemaError α} {f : α → Build α} (h : Agrees r x e)
    (hf : ∀ a, e = .ok a → Agrees r (f a) (.ok a)) : Agrees r (x >>= f) e := by
  rw [← bind_pure e]
  exact h.bind hf

theorem map {x : Build α} {e : Except SchemaError α} (f : α → β) (h : Agrees r x e) :
    Agrees r (f <$> x) (f <$> e) := by
  rw [← bind_pure_comp, ← bind_pure_comp]
  exact h.bind fun a _ => .pure (f a)

/-- A build that looks at the cache first goes on with what it finds there. -/
theorem get_bind {f : Cache → Build α} {e : Except SchemaError α}
    (h : ∀ c : Cache, c.Sound r → (f c).answer c = e ∧ ((f c).after c).Sound r) :
    Agrees r (get >>= f) e :=
  fun c hc => h c hc

theorem modify {f : Cache → Cache} (h : ∀ c : Cache, c.Sound r → (f c).Sound r) :
    Agrees r (modify f) (.ok ()) :=
  fun c hc => ⟨rfl, h c hc⟩

end Agrees

/-- Agreement goes through the steps of a computation. -/
theorem agrees_simulation {r : Registry} :
    Simulation Build (Except SchemaError) fun _ => Agrees r where
  pure := .pure
  throw := .throw
  bind hx hf := hx.bind fun a _ => hf a

end Build

/-! ## Nodes -/

namespace Registry

variable {r : Registry} {building : List ClassId} {id level d : ClassId} {number : Nat}

/-- What a level is made from on its own it is made from below classes that led to it. -/
theorem levelFrom_nodeIn_eq
    (hl : ∀ d, r.LevelRefers level d → r.Leads building d)
    (hg : ∀ d, r.LevelRefers level d → r.Grounded d) :
    r.levelFrom (r.nodeIn building) level = r.levelFrom (r.nodeIn []) level :=
  levelFrom_congr fun d hd => nodeIn_eq_of_leads (hg d hd) (hl d hd)

theorem grounded_of_levelFrom {node : Node} (hb : level.isBuiltin = false)
    (h : r.levelFrom (r.nodeIn building) level = .ok node) (hd : r.LevelRefers level d) :
    r.Grounded d := by
  obtain ⟨n, hn⟩ := exists_of_levelFrom_eq_ok hb h hd
  exact grounded_of_nodeIn hn

variable {f : ClassId → Build Node} {g : ClassId → Except SchemaError Node}

/-- A level that is kept is one that would be made of the same nodes now. -/
theorem levelNode_agrees (h : ∀ d, r.LevelRefers level d → Build.Agrees r (f d) (g d))
    (hkept : level.isBuiltin = false → ∀ node, r.levelFrom (r.nodeIn []) level = .ok node →
      r.levelFrom g level = .ok node) :
    Build.Agrees r (levelNode r f level) (r.levelFrom g level) := by
  cases level with
  | builtin c => exact .pure c.node
  | declared number =>
    refine Build.Agrees.get_bind fun c hc => ?_
    split
    · next node hnode =>
      rw [hkept rfl node (hc.own _ node hnode)]
      exact Build.Agrees.pure node c hc
    · exact Build.agrees_simulation.ownNode h c hc

theorem levelNodes_agrees (h : ∀ d, r.Refers id d → Build.Agrees r (f d) (g d))
    (hkept : ∀ lineage, r.lineage id = .ok lineage → ∀ level ∈ lineage, level.isBuiltin = false →
      ∀ node, r.levelFrom (r.nodeIn []) level = .ok node → r.levelFrom g level = .ok node) :
    Build.Agrees r (levelNodes r f id) (r.levelsFrom g id) := by
  refine (Build.Agrees.ofExcept _).bind fun lineage hl => ?_
  refine Build.agrees_simulation.mapM fun level hm => .map _ ?_
  cases level with
  | builtin c => exact .pure c.node
  | declared number =>
    exact levelNode_agrees (fun d hd => h d ⟨lineage, hl, _, hm, rfl, hd⟩)
      (hkept lineage hl _ hm)

/-- What a class that has been built adds to a cache is sound. -/
theorem keepClass_sound {c : Cache} (hc : c.Sound r) {levels : List (ClassId × Node)} {node : Node}
    (hlevels : ∀ entry ∈ levels, entry.1.isBuiltin = false →
      r.levelFrom (r.nodeIn []) entry.1 = .ok entry.2)
    (hnode : r.nodeIn [] id = .ok node) : (c.keepClass levels id node).Sound r where
  merged other m h := by
    rcases findClass?_keepFirst h with h | ⟨rfl, rfl⟩
    · exact hc.merged other m h
    · exact hnode
  own other m h := by
    refine of_findClass?_foldl (fun entry hm => ?_) hc.own other m h
    obtain ⟨hm, hb⟩ := List.mem_filter.mp hm
    exact hlevels entry hm (by simpa using hb)
  indexes := hc.indexes

/-- A kept node is what is built of its class below classes that led to it. -/
theorem nodeIn_of_kept (h : r.Leads building id) {c : Cache} (hc : c.Sound r) {node : Node}
    (hk : findClass? id c.merged = some node) : r.nodeIn building id = .ok node := by
  have hnode := hc.merged id node hk
  rw [nodeIn_eq_of_leads (grounded_of_nodeIn hnode) h, hnode]

/-- **A build with a cache answers what a build without one does, below classes that led to its
class.** -/
theorem buildNodeIn_agrees (h : r.Leads building id) :
    Build.Agrees r (buildNodeIn r building id) (r.nodeIn building id) := by
  induction building, id using building_induction (r := r) with
  | builtin building c =>
    rw [buildNodeIn, nodeIn_builtin]
    exact .pure c.node
  | unknown building number hk =>
    rw [buildNodeIn]
    refine Build.Agrees.get_bind fun c hc => ?_
    split
    · next node hnode =>
      rw [nodeIn_of_kept h hc hnode]
      exact Build.Agrees.pure node c hc
    · rw [nodeIn_unknown hk, dif_neg (by rw [hk]; exact Bool.false_ne_true)]
      exact Build.Agrees.throw _ c hc
  | busy building number hk hb =>
    rw [buildNodeIn]
    refine Build.Agrees.get_bind fun c hc => ?_
    split
    · next node hnode =>
      rw [nodeIn_of_kept h hc hnode]
      exact Build.Agrees.pure node c hc
    · rw [nodeIn_busy hk hb, dif_pos hk, dif_pos (List.contains_iff_mem.mpr hb)]
      exact Build.Agrees.throw _ c hc
  | idle building number hk hb ih =>
    rw [buildNodeIn]
    refine Build.Agrees.get_bind fun c hc => ?_
    split
    · next node hnode =>
      rw [nodeIn_of_kept h hc hnode]
      exact Build.Agrees.pure node c hc
    · rw [nodeIn_idle hk hb, dif_pos hk, dif_neg (fun hm => hb (List.contains_iff_mem.mp hm))]
      -- a level is made of the same nodes here and on its own
      have hsame : ∀ level node, (∀ d, r.LevelRefers level d → r.Refers (.declared number) d) →
          (∀ d, r.LevelRefers level d → r.Grounded d) →
          (r.levelFrom (r.nodeIn (building ++ [.declared number])) level = .ok node
            ↔ r.levelFrom (r.nodeIn []) level = .ok node) := fun level node hrefers hground => by
        rw [levelFrom_nodeIn_eq (fun d hd => h.step (hrefers d hd)) hground]
      -- the cache matters no more from here on, so the steps can be taken one by one
      suffices hagree : Build.Agrees r _ _ from hagree c hc
      refine (levelNodes_agrees (fun d hd => ih d (h.step hd)) ?_).bind fun levels hlevels => ?_
      · intro lineage hl level hm hbuiltin node hnode
        exact (hsame level node (fun d hd => ⟨lineage, hl, level, hm, hbuiltin, hd⟩)
          fun d hd => grounded_of_levelFrom hbuiltin hnode hd).mpr hnode
      refine (Build.Agrees.ofExcept _).bind fun shape hshape => ?_
      refine (Build.Agrees.modify fun cache hcache => ?_).bind fun _ _ => .pure _
      refine keepClass_sound hcache (fun entry hm hbuiltin => ?_) ?_
      · have hnode := (mem_lineage_of_mem_levels hlevels hm).1
        exact (hsame _ _ (fun d hd => refers_of_mem_levels hlevels hm hbuiltin hd)
          fun d hd => grounded_of_levelFrom hbuiltin hnode hd).mp hnode
      · have hnode : r.nodeIn building (.declared number) = .ok (.ofShape shape) := by
          rw [nodeIn_idle hk hb]
          exact bind_eq_ok_iff.mpr ⟨levels, hlevels, bind_eq_ok_iff.mpr ⟨shape, hshape, rfl⟩⟩
        rw [← nodeIn_eq_of_leads (grounded_of_nodeIn hnode) h, hnode]

/-! ## Indexes -/

theorem keepIndexes_sound {c : Cache} (hc : c.Sound r) {indexes : List IndexDescription}
    (h : r.indexesIn [] none id = .ok indexes) :
    { c with indexes := keepFirst id indexes c.indexes }.Sound r where
  merged := hc.merged
  own := hc.own
  indexes other kept hk := by
    rcases findClass?_keepFirst hk with hk | ⟨rfl, rfl⟩
    · exact hc.indexes other kept hk
    · exact h

/-- **The indexes of a class do not depend on what is kept**, since only those of a class on its own
are. -/
theorem buildIndexesIn_agrees (r : Registry) (building : List ClassId) (parent : Option String)
    (id : ClassId) (h : parent = none → building = []) :
    Build.Agrees r (buildIndexesIn r building parent id) (r.indexesIn building parent id) := by
  rw [buildIndexesIn]
  refine Build.Agrees.get_bind fun c hc => ?_
  split
  · next indexes hkept =>
    cases parent with
    | some path => cases hkept
    | none =>
      rw [h rfl, hc.indexes id indexes hkept]
      exact Build.Agrees.pure indexes c hc
  · rw [indexesIn]
    by_cases known : r.contains id = true
    · by_cases busy : building.contains id = true
      · rw [dif_pos known, dif_pos known, dif_pos busy, dif_pos busy]
        exact Build.Agrees.throw _ c hc
      · rw [dif_pos known, dif_pos known, dif_neg busy, dif_neg busy]
        suffices hagree : Build.Agrees r _ _ from hagree c hc
        -- classes below have a path, and are neither looked for nor kept
        have hlevels : ∀ lineage : List ClassId, Build.Agrees r
            (List.flatten <$> lineage.mapM (levelIndexes r
              (fun target path => buildIndexesIn r (building ++ [id]) (some path) target) parent))
            (List.flatten <$> lineage.mapM (levelIndexes r
              (fun target path => r.indexesIn (building ++ [id]) (some path) target) parent)) :=
          fun lineage => .map _ (Build.agrees_simulation.mapM fun level _ =>
            Build.agrees_simulation.levelIndexes (fun target path =>
              buildIndexesIn_agrees r (building ++ [id]) (some path) target
                fun he => absurd he (Option.some_ne_none path)) parent level)
        refine (Build.Agrees.ofExcept _).bind fun lineage hl => ?_
        refine (hlevels lineage).bind_self fun indexes hindexes => ?_
        cases parent with
        | some path => exact .pure indexes
        | none =>
          obtain rfl := h rfl
          have hfresh : r.indexesIn [] none id = .ok indexes := by
            rw [indexesIn, dif_pos known, dif_neg busy]
            exact bind_eq_ok_iff.mpr ⟨lineage, hl, hindexes⟩
          exact (Build.Agrees.modify fun cache hcache => keepIndexes_sound hcache hfresh).bind
            fun _ _ => .pure indexes
    · rw [dif_neg known, dif_neg known]
      exact Build.Agrees.throw _ c hc
termination_by (r.idle building).length
decreasing_by exact length_idle_lt known busy

end Registry

end DocumentModel
