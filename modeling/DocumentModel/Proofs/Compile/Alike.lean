import DocumentModel.Proofs.Compile.Twins

/-!
# Requests to layered caches

Two caches are alike when they keep the same levels and the same indexes. Requests are answered from
both of them in the same way, whatever nodes they keep, and leave them alike (`request_alike`); so
they leave a layered cache layered, and lose nothing that was kept. A request that fails keeps no
indexes.
-/

namespace DocumentModel

/-! ## Indexes -/

namespace Registry

variable {r : Registry} {P : Cache → Cache → Prop}

/-- **The indexes of a class depend on kept indexes alone**, and below a path not even on these. -/
theorem buildIndexesIn_relates (building : List ClassId) (parent : Option String) (id : ClassId)
    (h : parent = none → ∀ c d, P c d →
      d.indexes = c.indexes ∧ ∀ kept, P { c with indexes := kept } { d with indexes := kept }) :
    Build.Relates P (buildIndexesIn r building parent id)
      (buildIndexesIn r building parent id) := by
  intro c d hcd
  rw [buildIndexesIn, Build.run_get_bind.1, Build.run_get_bind.2, Build.run_get_bind.1,
    Build.run_get_bind.2]
  have hfound : (if parent.isNone then findClass? id d.indexes else none)
      = if parent.isNone then findClass? id c.indexes else none := by
    cases parent with
    | none => rw [(h rfl c d hcd).1]
    | some path => rfl
  rw [hfound]
  split
  · exact ⟨rfl, hcd⟩
  · by_cases known : r.contains id = true
    · by_cases busy : building.contains id = true
      · rw [dif_pos known, dif_pos busy]
        exact ⟨rfl, hcd⟩
      · rw [dif_pos known, dif_neg busy]
        suffices hrelates : Build.Relates P _ _ from hrelates c d hcd
        refine Build.Relates.bind (.ofExcept _) fun lineage => ?_
        refine Build.Relates.bind (.map _ ?_) fun indexes => ?_
        · exact (Build.relates_simulation P).mapM fun level _ =>
            (Build.relates_simulation P).levelIndexes (fun target path =>
              buildIndexesIn_relates (building ++ [id]) (some path) target
                fun he => absurd he (Option.some_ne_none path)) parent level
        · cases parent with
          | some path => exact .pure indexes
          | none =>
            refine Build.Relates.bind (.modify fun c d hcd => ?_) fun _ => .pure indexes
            obtain ⟨hsame, hkeep⟩ := h rfl c d hcd
            rw [hsame]
            exact hkeep _
    · rw [dif_neg known]
      exact ⟨rfl, hcd⟩
termination_by (r.idle building).length
decreasing_by exact length_idle_lt known busy

/-- **Indexes that cannot be built leave the cache as it was.** -/
theorem buildIndexes_after_of_error {id : ClassId} {parent : Option String} {c : Cache}
    {e : SchemaError} (h : (buildIndexes r id parent).answer c = .error e) :
    (buildIndexes r id parent).after c = c := by
  have hbelow : ∀ building path id, Build.Relates (fun d d' => d = c ∧ d' = c)
      (buildIndexesIn r building (some path) id) (buildIndexesIn r building (some path) id) :=
    fun building path id => buildIndexesIn_relates building (some path) id nofun
  cases parent with
  | some path => exact (hbelow [] path id c c ⟨rfl, rfl⟩).2.1
  | none =>
    rw [buildIndexes, buildIndexesIn, Build.run_get_bind.1] at h
    rw [buildIndexes, buildIndexesIn, Build.run_get_bind.2]
    split at h
    · cases h
    · by_cases known : r.contains id = true
      · rw [dif_pos known, dif_neg (by simp)] at h ⊢
        -- the levels only ask for indexes below a path
        have hlevels : ∀ lineage : List ClassId, (List.flatten <$> lineage.mapM (levelIndexes r
            (fun target path => buildIndexesIn r ([] ++ [id]) (some path) target) none)).after c
              = c := by
          intro lineage
          have hlevel := fun level (_ : level ∈ lineage) =>
            (Build.relates_simulation _).levelIndexes (r := r)
              (fun target path => hbelow ([] ++ [id]) path target) none level
          have hlevels := (Build.relates_simulation _).mapM hlevel
          exact (hlevels.map List.flatten c c ⟨rfl, rfl⟩).2.1
        refine Build.after_of_bind_eq_error rfl (fun lineage h => ?_) h
        refine Build.after_of_bind_eq_error (hlevels lineage) (fun indexes h => ?_) h
        cases h
      · rw [dif_neg known]
        rfl

end Registry

/-! ## Nodes -/

open Cache

variable {r : Registry} {start c d : Cache} {id : ClassId} {number : Nat} {node : Node}

/-- **A layered cache answers what is built without cache in the registry that is frozen with
it.** -/
theorem Cache.Layered.answer_buildNode (hc : c.Layered r) (id : ClassId) :
    (buildNode r id).answer c = (r.frozen c.own).nodeIn [] id := by
  have htwins := hc.twins hc rfl
  rw [(Registry.buildNode_twins r c id c _ htwins).1]
  exact (Registry.buildNode_agrees _ id _ htwins.sound).1

/-- A class that was built is kept. -/
theorem Cache.Layered.merged_after (hc : c.Layered r)
    (h : (buildNode r (.declared number)).answer c = .ok node) :
    findClass? (.declared number) ((buildNode r (.declared number)).after c).merged
      = some node := by
  rw [buildNode] at h ⊢
  cases hm : findClass? (.declared number) c.merged with
  | some kept =>
    obtain ⟨hanswer, hafter⟩ := buildNodeIn_of_merged r [] hm
    rw [hanswer] at h
    cases h
    rw [hafter, hm]
  | none =>
    by_cases hk : r.contains (.declared number) = true
    · have hidle : .declared number ∉ ([] : List ClassId) := List.not_mem_nil
      obtain ⟨hanswer, hafter⟩ := buildNodeIn_of_idle hm hk hidle
      rw [hanswer] at h
      rw [hafter]
      obtain ⟨levels, hlevels, h⟩ := Build.exists_of_bind_eq_ok h
      rw [(Build.run_bind_of_ok hlevels).2]
      cases hshape : mergeLevels r levels with
      | error e =>
        rw [(uniteLevels_of_error _ _ hshape).1] at h
        cases h
      | ok shape =>
        rw [(uniteLevels_of_ok _ _ hshape).1] at h
        cases h
        rw [(uniteLevels_of_ok _ _ hshape).2]
        -- the class itself is not kept while its levels are being built
        have hinner := (hc.twins hc rfl).inner hm hm
        have htwins := (Registry.levelsIn_twins (fun d hd =>
          Registry.buildNodeIn_twins (Registry.leads_nil.step hd)) c _ hinner).2
        exact findClass?_keepFirst_self (htwins.absent _ (List.mem_singleton.mpr rfl)).1 _
    · rw [(buildNodeIn_of_unknown [] hm (Bool.not_eq_true _ ▸ hk)).1] at h
      cases h

/-! ## Requests -/

namespace Cache

/-- **Two caches with the same levels and the same indexes**, the first one grown from a start. -/
structure Alike (r : Registry) (start c d : Cache) : Prop where
  own : d.own = c.own
  indexes : d.indexes = c.indexes
  left : c.Layered r
  right : d.Layered r
  grown : Grown start c

theorem Layered.alike (h : c.Layered r) : Alike r c c c := ⟨rfl, rfl, h, h, .refl c⟩

end Cache

/-- The class that a request is about. -/
def Request.target : Request → ClassId
  | .node id | .indexes id _ | .model id _ => id

theorem buildNode_alike (r : Registry) (start : Cache) (id : ClassId) :
    Build.Relates (Alike r start) (buildNode r id) (buildNode r id) := by
  intro c d hcd
  -- both are compared with the same build in the frozen registry
  obtain ⟨hx, hx'⟩ := Registry.buildNode_twins r c id c _ (hcd.left.twins hcd.right hcd.own)
  obtain ⟨hy, hy'⟩ := Registry.buildNode_twins r d id d _ (hcd.right.twins hcd.right rfl)
  rw [hcd.own] at hy hy'
  have hindexes := hy'.indexes.trans (hcd.indexes.trans hx'.indexes.symm)
  exact ⟨hx.trans hy.symm, hy'.own.symm.trans hx'.own, hindexes, hx'.left, hy'.left,
    hcd.grown.trans hx'.grown⟩

theorem buildIndexes_alike (r : Registry) (start : Cache) (id : ClassId) (parent : Option String) :
    Build.Relates (Alike r start) (buildIndexes r id parent) (buildIndexes r id parent) :=
  Registry.buildIndexesIn_relates [] parent id fun _ _ _ hcd => ⟨hcd.indexes, fun kept =>
    ⟨hcd.own, rfl, hcd.left.withIndexes kept, hcd.right.withIndexes kept,
      ⟨hcd.grown.own, hcd.grown.merged⟩⟩⟩

/-- **Requests to alike caches are answered in the same way and leave the caches alike.** -/
theorem request_alike (r : Registry) (start : Cache) (request : Request) :
    Build.Relates (Alike r start) (request.build r) (request.build r) := by
  cases request with
  | node id => exact (buildNode_alike r start id).map _
  | indexes id parent => exact (buildIndexes_alike r start id parent).map _
  | model id description =>
    refine .map _ ((buildNode_alike r start id).bind fun node => ?_)
    cases description with
    | none => exact (buildIndexes_alike r start id none).bind fun indexes => .pure _
    | some text => exact (buildIndexes_alike r start id none).bind fun indexes => .pure _

/-- A layered cache stays layered, and keeps what it has. -/
theorem Cache.Layered.request (hc : c.Layered r) (request : Request) :
    ((request.build r).after c).Layered r ∧ Grown c ((request.build r).after c) :=
  have halike := (request_alike r c request c c hc.alike).2
  ⟨halike.left, halike.grown⟩

theorem buildIndexes_own (r : Registry) (id : ClassId) (parent : Option String) (c : Cache) :
    ((buildIndexes r id parent).after c).own = c.own := by
  have hrelates : Build.Relates (fun d d' => d = d' ∧ d.own = c.own) (buildIndexes r id parent)
      (buildIndexes r id parent) :=
    Registry.buildIndexesIn_relates [] parent id fun _ _ _ h =>
      ⟨by rw [h.1], fun _ => ⟨by rw [h.1], h.2⟩⟩
  exact (hrelates c c ⟨rfl, rfl⟩).2.2

/-- Levels are kept by the nodes that a request needs, not by indexes. -/
theorem own_of_request (r : Registry) (request : Request) (c : Cache) :
    ((request.build r).after c).own = c.own
      ∨ ((request.build r).after c).own = ((buildNode r request.target).after c).own := by
  cases request with
  | node id =>
    rw [Request.build, (Build.run_map ..).2]
    exact Or.inr rfl
  | indexes id parent =>
    rw [Request.build, (Build.run_map ..).2, buildIndexes_own]
    exact Or.inl rfl
  | model id description =>
    rw [Request.build, (Build.run_map ..).2, Model.build]
    refine Or.inr ?_
    cases hn : (buildNode r id).answer c with
    | error e => rw [(Build.run_bind_of_error hn).2]; rfl
    | ok node =>
      rw [(Build.run_bind_of_ok hn).2]
      cases hi : (buildIndexes r id none).answer ((buildNode r id).after c) with
      | error e => rw [(Build.run_bind_of_error hi).2, buildIndexes_own]; rfl
      | ok indexes =>
        rw [(Build.run_bind_of_ok hi).2]
        exact buildIndexes_own ..

/-- **A kept level is what the frozen registry makes of its class**: what was kept before, or what
its declarations make now. -/
theorem Cache.Layered.levelFrom_of_request (hc : c.Layered r) {request : Request} {level : ClassId}
    (hk : findClass? level ((request.build r).after c).own = some node) :
    (r.frozen c.own).levelFrom ((r.frozen c.own).nodeIn []) level = .ok node := by
  rcases own_of_request r request c with hown | hown
  · rw [hown] at hk
    exact hc.sound.own _ _ hk
  · have htwins := (Registry.buildNode_twins r c request.target c _ (hc.twins hc rfl)).2
    rw [hown, ← htwins.own] at hk
    exact htwins.sound.own _ _ hk

/-- **A request that fails keeps no indexes.** -/
theorem Cache.Layered.indexes_of_error (hc : c.Layered r) {request : Request} {e : SchemaError}
    (h : (request.build r).answer c = .error e) :
    ((request.build r).after c).indexes = c.indexes := by
  have hnode : ∀ id, ((buildNode r id).after c).indexes = c.indexes := fun id =>
    (Registry.buildNode_twins r c id c _ (hc.twins hc rfl)).2.indexes
  have hindexes : ∀ id parent d e, (buildIndexes r id parent).answer d = .error e →
      (buildIndexes r id parent).after d = d :=
    fun id parent d e => Registry.buildIndexes_after_of_error
  cases request with
  | node id =>
    rw [Request.build, (Build.run_map ..).2]
    exact hnode id
  | indexes id parent =>
    rw [Request.build, (Build.run_map ..).1, map_eq_error_iff] at h
    rw [Request.build, (Build.run_map ..).2, hindexes id parent c e h]
  | model id description =>
    rw [Request.build, (Build.run_map ..).1, map_eq_error_iff] at h
    rw [Request.build, (Build.run_map ..).2]
    cases hn : (buildNode r id).answer c with
    | error e' =>
      rw [Model.build, (Build.run_bind_of_error hn).2]
      exact hnode id
    | ok node =>
      rw [Model.build, (Build.run_bind_of_ok hn).1] at h
      rw [Model.build, (Build.run_bind_of_ok hn).2]
      cases hi : (buildIndexes r id none).answer ((buildNode r id).after c) with
      | error e' =>
        rw [(Build.run_bind_of_error hi).2, hindexes id none _ e' hi]
        exact hnode id
      | ok indexes =>
        rw [(Build.run_bind_of_ok hi).1] at h
        cases h

end DocumentModel
