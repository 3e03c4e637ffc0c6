import DocumentModel.Proofs.Compile.Requests
import DocumentModel.Proofs.Compile.WellDeclared

/-!
# Cycles of references

Every build ends, however the classes of a registry refer to each other: builds nest no deeper than
there are classes (`buildWithin_eq`). And in a well-declared registry a class is built exactly if
its references do not run into a cycle, and the error is one of a circular reference otherwise
(`Registry.WellDeclared.nodeIn_eq_error`).
-/

namespace DocumentModel

/-! ## How deep builds nest -/

/-- One step into a class, with `inner` as the build of the classes below. -/
def buildStep (r : Registry) (inner : List ClassId → ClassId → Build Node) (building : List ClassId)
    (id : ClassId) : Build Node := do
  match id with
  | .builtin c => pure c.node
  | .declared number =>
    let id := ClassId.declared number
    match findClass? id (← get).merged with
    | some node => pure node
    | none =>
      if r.contains id = true then
        if building.contains id = true then throw (r.circularity building id)
        else
          let levels ← levelNodes r (inner (building ++ [id])) id
          let shape ← ExceptT.mk (pure (mergeLevels r levels))
          let merged := Node.ofShape shape
          modify fun cache => cache.keepClass levels id merged
          pure merged
      else throw (.unknownClass id)

/-- The build of a class that nests up to a depth, and does something else beyond. -/
def buildWithin (r : Registry) (beyond : List ClassId → ClassId → Build Node) :
    Nat → List ClassId → ClassId → Build Node
  | 0 => beyond
  | depth + 1 => buildStep r (buildWithin r beyond depth)

variable {r : Registry}

theorem buildNodeIn_eq_step (building : List ClassId) (id : ClassId) :
    buildNodeIn r building id = buildStep r (buildNodeIn r) building id := by
  cases id with
  | builtin c => rw [buildNodeIn, buildStep]
  | declared number =>
    rw [buildNodeIn]
    rfl

/-- A step depends on the builds that it asks for: those of classes below a known one that is not
busy. -/
theorem buildStep_congr {f g : List ClassId → ClassId → Build Node} {building : List ClassId}
    {id : ClassId} (h : r.contains id = true → ¬ building.contains id = true →
      ∀ d, f (building ++ [id]) d = g (building ++ [id]) d) :
    buildStep r f building id = buildStep r g building id := by
  cases id with
  | builtin c => rfl
  | declared number =>
    unfold buildStep
    by_cases hk : r.contains (.declared number) = true
    · by_cases hb : building.contains (.declared number) = true
      · simp only [hk, hb, if_true]
      · have : f (building ++ [.declared number]) = g (building ++ [.declared number]) :=
          funext (h hk hb)
        simp only [this]
    · simp only [hk, Bool.false_eq_true, if_false]

/-- **A depth that is larger than the number of idle classes is never exhausted.** -/
theorem buildWithin_eq (beyond : List ClassId → ClassId → Build Node) {depth : Nat}
    {building : List ClassId} (h : (r.idle building).length < depth) (id : ClassId) :
    buildWithin r beyond depth building id = buildNodeIn r building id := by
  induction depth generalizing building id with
  | zero => exact absurd h (Nat.not_lt_zero _)
  | succ depth ih =>
    rw [buildWithin, buildNodeIn_eq_step]
    refine buildStep_congr fun hk hb d => ih ?_ d
    have := Registry.length_idle_lt hk hb
    omega

theorem buildWithin_known (r : Registry) (beyond : List ClassId → ClassId → Build Node)
    (id : ClassId) : buildWithin r beyond (r.known.length + 1) [] id = buildNode r id := by
  refine buildWithin_eq beyond ?_ id
  have : (r.idle []).length ≤ r.known.length := List.length_filter_le _ _
  omega

/-! ## Failing builds -/

namespace Registry

/-- A cycle of references can be reached from a class, perhaps through the class itself. -/
def ReachesCycle (r : Registry) (id : ClassId) : Prop :=
  ∃ d, Relation.ReflTransGen r.Refers id d ∧ Relation.TransGen r.Refers d d

variable {building : List ClassId} {id d : ClassId} {e : SchemaError}

theorem ReachesCycle.of_refers (hd : r.Refers id d) (h : r.ReachesCycle d) : r.ReachesCycle id :=
  let ⟨c, hc, hcycle⟩ := h
  ⟨c, .head hd hc, hcycle⟩

/-- **A build that fails has found a cycle.** -/
theorem WellDeclared.nodeIn_eq_error (hw : r.WellDeclared) (hk : r.contains id = true)
    (hl : r.Leads building id) (h : r.nodeIn building id = .error e) :
    (∃ path, e = .circularReference path) ∧ r.ReachesCycle id := by
  induction building, id using building_induction (r := r) with
  | builtin building c =>
    rw [nodeIn_builtin] at h
    cases h
  | unknown building number hn =>
    rw [hn] at hk
    cases hk
  | busy building number _ hb =>
    rw [nodeIn_busy hk hb] at h
    cases h
    -- a busy class led to itself
    exact ⟨⟨_, rfl⟩, _, .refl, hl _ hb⟩
  | idle building number _ hb ih =>
    rw [nodeIn_idle hk hb] at h
    rcases hw.nodeFrom_eq_error hk h with ⟨d, hd, hdk, he⟩ | ⟨level, path, hd, hself, he⟩
    · obtain ⟨hpath, hcycle⟩ := ih d hdk (hl.step hd) he
      exact ⟨hpath, hcycle.of_refers hd⟩
    · exact ⟨⟨path, he⟩, level, .single hd, .single hself⟩

/-- A class that has a node is on no way to a cycle. -/
theorem not_reachesCycle_of_nodeIn {node : Node} (h : r.nodeIn building id = .ok node) :
    ¬ r.ReachesCycle id :=
  (grounded_of_nodeIn h).not_reaches_cycle

/-- **Builds end for every registry, and fail exactly where references run into a cycle.** Nothing
that would happen beyond a depth of one more than the known classes matters to a build; and of a
known class of a well-declared registry a new compiler makes a node exactly if no cycle can be
reached, and answers with a circular reference otherwise. -/
theorem buildNode_ends_and_detects_cycles (r : Registry) :
    (∀ beyond id, buildWithin r beyond (r.known.length + 1) [] id = buildNode r id)
    ∧ (r.WellDeclared → ∀ id, r.contains id = true →
      ((∃ node, (buildNode r id).answer {} = .ok node) ↔ ¬ r.ReachesCycle id)
      ∧ (r.ReachesCycle id →
        ∃ path, (buildNode r id).answer {} = .error (.circularReference path))) := by
  refine ⟨buildWithin_known r, fun hw id hk => ?_⟩
  have hanswer : (buildNode r id).answer {} = r.nodeIn [] id :=
    (buildNode_agrees r id {} Cache.sound_empty).1
  rw [hanswer]
  cases h : r.nodeIn [] id with
  | ok node =>
    have hnot := not_reachesCycle_of_nodeIn h
    exact ⟨iff_of_true ⟨node, rfl⟩ hnot, fun hc => absurd hc hnot⟩
  | error e =>
    obtain ⟨⟨path, rfl⟩, hcycle⟩ := hw.nodeIn_eq_error hk leads_nil h
    exact ⟨iff_of_false nofun fun hnot => hnot hcycle, fun _ => ⟨path, rfl⟩⟩

/-! ## An instance -/

/-- Authors have books and books have authors; publishers stand alone. -/
def library : Registry where
  classes := [⟨64, "Author", none, nofun⟩, ⟨65, "Book", some (.builtin .object), nofun⟩,
    ⟨66, "Publisher", none, nofun⟩]
  fields :=
    [(.declared 64,
        [{ name := "books", tag := some .array, options := .array (some (.declared 65)) {} }]),
      (.declared 65,
        [{ name := "author", tag := some .object, options := .object (some (.declared 64)) }]),
      (.declared 66, [{ name := "name", tag := some .string }])]

theorem library_wellDeclared : library.WellDeclared where
  fits id field hfield := by
    obtain ⟨entry, he, -, hf⟩ := exists_of_mem_declarations hfield
    simp only [library, List.mem_cons, List.not_mem_nil, or_false] at he
    rcases he with rfl | rfl | rfl <;>
      exact List.mem_singleton.mp hf ▸ ⟨_, rfl, rfl⟩
  known id field hfield d hd := by
    obtain ⟨entry, he, -, hf⟩ := exists_of_mem_declarations hfield
    simp only [library, List.mem_cons, List.not_mem_nil, or_false] at he
    rcases he with rfl | rfl | rfl <;> rw [List.mem_singleton.mp hf] at hd
    · exact List.mem_singleton.mp hd ▸ rfl
    · exact List.mem_singleton.mp hd ▸ rfl
    · cases hd
  bases := by simp [BasesKnown, library, contains]
  objects := by simp [library]

theorem buildNode_of_library : library.WellDeclared
    ∧ library.contains (.declared 64) = true ∧ library.contains (.declared 66) = true
    ∧ (∃ path, (buildNode library (.declared 64)).answer {} = .error (.circularReference path))
    ∧ ∃ node, (buildNode library (.declared 66)).answer {} = .ok node := by
  have hw := library_wellDeclared
  have hbooks : library.Refers (.declared 64) (.declared 65) :=
    hw.refers_of_levelRefers rfl ⟨_, List.mem_cons_self, .array, rfl, List.mem_cons_self⟩
  have hauthor : library.Refers (.declared 65) (.declared 64) :=
    hw.refers_of_levelRefers rfl ⟨_, List.mem_cons_self, .object, rfl, List.mem_cons_self⟩
  have hnone : library.Grounded (.declared 66) := .intro fun d hd => by
    obtain ⟨lineage, hl, level, hm, -, field, hfield, tag, ht, hd⟩ := hd
    rw [Registry.lineage, declaredLineage] at hl
    cases hl
    rw [List.mem_singleton.mp hm] at hfield
    cases List.mem_singleton.mp hfield
    cases ht
    cases hd
  exact ⟨hw, rfl, rfl,
    ((buildNode_ends_and_detects_cycles library).2 hw (.declared 64) rfl).2
      ⟨_, .refl, .tail (.single hbooks) hauthor⟩,
    ((buildNode_ends_and_detects_cycles library).2 hw (.declared 66) rfl).1.mpr
      hnone.not_reaches_cycle⟩

end Registry

end DocumentModel
