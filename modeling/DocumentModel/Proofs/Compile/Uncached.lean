import DocumentModel.Proofs.Class.Lineages
import DocumentModel.Proofs.Compile.Simulation
import DocumentModel.Proofs.Compile.Steps

/-!
# Builds that keep nothing

`Registry.nodeIn` and `Registry.indexesIn` compile classes the way a compiler does, but keep no
results. What they answer may depend on the classes that are being built, and two facts are about
that list. A build that succeeds has followed all references of its class to their ends
(`Registry.grounded_of_nodeIn`). And what is built of a grounded class does not depend on the
classes being built, if all of these led to the class (`Registry.nodeIn_eq_of_leads`): none of them
can be met again.
-/

namespace DocumentModel

namespace Registry

variable {r : Registry}

/-! ## One class -/

/-- The node of one level, from the nodes of the classes that it refers to. -/
def levelFrom (r : Registry) (classNode : ClassId → Except SchemaError Node) (level : ClassId) :
    Except SchemaError Node :=
  match level with
  | .builtin c => .ok c.node
  | .declared _ => ownNode r classNode level

/-- The levels of a class, from the nodes of the classes that they refer to. -/
def levelsFrom (r : Registry) (classNode : ClassId → Except SchemaError Node) (id : ClassId) :
    Except SchemaError (List (ClassId × Node)) := do
  let lineage ← r.lineage id
  lineage.mapM fun level => (level, ·) <$> r.levelFrom classNode level

/-- The node of a class, from the nodes of the classes that it refers to. -/
def nodeFrom (r : Registry) (classNode : ClassId → Except SchemaError Node) (id : ClassId) :
    Except SchemaError Node := do
  let levels ← r.levelsFrom classNode id
  let shape ← mergeLevels r levels
  pure (.ofShape shape)

variable {f g : ClassId → Except SchemaError Node} {level id d : ClassId}

/-- Equality goes through the steps of a computation. -/
theorem eq_simulation : Simulation (Except SchemaError) (Except SchemaError) fun _ => Eq where
  pure _ := rfl
  throw _ := rfl
  bind hx hf := by
    rw [hx]
    exact bind_congr hf

theorem levelFrom_congr (h : ∀ d, r.LevelRefers level d → f d = g d) :
    r.levelFrom f level = r.levelFrom g level := by
  cases level with
  | builtin c => rfl
  | declared number => exact eq_simulation.ownNode h

theorem nodeFrom_congr (h : ∀ d, r.Refers id d → f d = g d) :
    r.nodeFrom f id = r.nodeFrom g id := by
  suffices r.levelsFrom f id = r.levelsFrom g id by rw [nodeFrom, nodeFrom, this]
  unfold levelsFrom
  cases hl : r.lineage id with
  | error e => rfl
  | ok lineage =>
    refine eq_simulation.mapM fun level hm => eq_simulation.map _ ?_
    cases level with
    | builtin c => rfl
    | declared number =>
      exact levelFrom_congr fun d hd => h d ⟨lineage, hl, .declared number, hm, rfl, hd⟩

/-- A field that has a node has found the nodes of all classes that it refers to. -/
theorem exists_of_fieldNode_eq_ok {owner : ClassId} {path : String} {field : FieldDeclaration}
    {node : Node} (h : fieldNode f owner path field = .ok node) :
    ∀ tag ∈ field.tag, ∀ d ∈ tag.references field.options, ∃ n, f d = .ok n := by
  intro tag ht d hd
  unfold fieldNode at h
  rw [ht] at h
  dsimp only at h
  split at h
  · cases h
  · obtain ⟨n, hn, -⟩ := map_eq_ok_iff.mp h
    obtain ⟨assemble, hassemble, -⟩ := typeNode_eq path tag field.options
    rw [hassemble] at hn
    obtain ⟨nodes, hnodes, -⟩ := bind_eq_ok_iff.mp hn
    obtain ⟨m, -, hm⟩ := (forall₂_of_mapM_eq_ok hnodes).2.1 d hd
    exact ⟨m, hm⟩

/-- Each field of a level that has a node has a node itself. -/
theorem exists_fieldNode_of_levelFrom_eq_ok {number : Nat} {node : Node} {field : FieldDeclaration}
    (h : r.levelFrom f (.declared number) = .ok node)
    (hfield : field ∈ r.declarations (.declared number)) :
    ∃ path n, fieldNode f (.declared number) path field = .ok n := by
  obtain ⟨shape, hshape, -⟩ := bind_eq_ok_iff.mp h
  obtain ⟨s, t, hst⟩ := exists_of_foldlM_eq_ok hshape field hfield
  obtain ⟨n, hn, -⟩ := bind_eq_ok_iff.mp hst
  exact ⟨_, n, hn⟩

theorem exists_of_levelFrom_eq_ok {node : Node} (hb : level.isBuiltin = false)
    (h : r.levelFrom f level = .ok node) (hd : r.LevelRefers level d) : ∃ n, f d = .ok n := by
  cases level with
  | builtin c => cases hb
  | declared number =>
    obtain ⟨field, hfield, tag, ht, hd⟩ := hd
    obtain ⟨path, n, hn⟩ := exists_fieldNode_of_levelFrom_eq_ok h hfield
    exact exists_of_fieldNode_eq_ok hn tag ht d hd

/-- Each level of a class that has a node has a node itself. -/
theorem levels_of_nodeFrom_eq_ok {node : Node} (h : r.nodeFrom f id = .ok node) :
    ∃ levels, r.levelsFrom f id = .ok levels
      ∧ ∃ shape, mergeLevels r levels = .ok shape ∧ node = .ofShape shape := by
  obtain ⟨levels, hlevels, h⟩ := bind_eq_ok_iff.mp h
  obtain ⟨shape, hshape, h⟩ := bind_eq_ok_iff.mp h
  cases h
  exact ⟨levels, hlevels, shape, hshape, rfl⟩

theorem exists_levelFrom_of_nodeFrom_eq_ok {node : Node} {lineage : List ClassId}
    (h : r.nodeFrom f id = .ok node) (hl : r.lineage id = .ok lineage) (hm : level ∈ lineage) :
    ∃ n, r.levelFrom f level = .ok n := by
  obtain ⟨levels, hlevels, -⟩ := levels_of_nodeFrom_eq_ok h
  rw [levelsFrom, hl] at hlevels
  obtain ⟨entry, -, he⟩ := (forall₂_of_mapM_eq_ok hlevels).2.1 level hm
  obtain ⟨n, hn, -⟩ := map_eq_ok_iff.mp he
  exact ⟨n, hn⟩

/-- The levels of a class are the nodes of its lineage. -/
theorem mem_lineage_of_mem_levels {levels : List (ClassId × Node)}
    (h : r.levelsFrom f id = .ok levels) {entry : ClassId × Node} (hm : entry ∈ levels) :
    r.levelFrom f entry.1 = .ok entry.2
      ∧ ∃ lineage, r.lineage id = .ok lineage ∧ entry.1 ∈ lineage := by
  obtain ⟨lineage, hl, h⟩ := bind_eq_ok_iff.mp h
  obtain ⟨level, hlevel, he⟩ := (forall₂_of_mapM_eq_ok h).2.2 entry hm
  obtain ⟨n, hn, rfl⟩ := map_eq_ok_iff.mp he
  exact ⟨hn, lineage, hl, hlevel⟩

/-- What a declared level of a class refers to the class refers to. -/
theorem refers_of_mem_levels {levels : List (ClassId × Node)} (h : r.levelsFrom f id = .ok levels)
    {entry : ClassId × Node} (hm : entry ∈ levels) (hb : entry.1.isBuiltin = false)
    (hd : r.LevelRefers entry.1 d) : r.Refers id d := by
  obtain ⟨-, lineage, hl, hlevel⟩ := mem_lineage_of_mem_levels h hm
  exact ⟨lineage, hl, entry.1, hlevel, hb, hd⟩

/-- **A class that has a node has found the nodes of all classes that it refers to.** -/
theorem exists_of_nodeFrom_eq_ok {node : Node} (h : r.nodeFrom f id = .ok node)
    (hd : r.Refers id d) : ∃ n, f d = .ok n := by
  obtain ⟨lineage, hl, level, hm, hb, hd⟩ := hd
  obtain ⟨n, hn⟩ := exists_levelFrom_of_nodeFrom_eq_ok h hl hm
  exact exists_of_levelFrom_eq_ok hb hn hd

/-! ## Classes within classes -/

/-- The node of a class, while other classes are being built. -/
def nodeIn (r : Registry) (building : List ClassId) (id : ClassId) : Except SchemaError Node :=
  match id with
  | .builtin c => .ok c.node
  | .declared number =>
    if _known : r.contains (.declared number) = true then
      if _busy : building.contains (.declared number) = true then
        .error (r.circularity building (.declared number))
      else r.nodeFrom (fun other => r.nodeIn (building ++ [.declared number]) other)
        (.declared number)
    else .error (.unknownClass (.declared number))
termination_by (r.idle building).length
decreasing_by exact length_idle_lt _known _busy

variable {building : List ClassId} {number : Nat}

theorem nodeIn_builtin {c : BuiltinClass} : r.nodeIn building (.builtin c) = .ok c.node := by
  rw [nodeIn]

theorem nodeIn_unknown (h : r.contains (.declared number) = false) :
    r.nodeIn building (.declared number) = .error (.unknownClass (.declared number)) := by
  rw [nodeIn, dif_neg (by rw [h]; exact Bool.false_ne_true)]

theorem nodeIn_busy (h : r.contains (.declared number) = true)
    (hb : ClassId.declared number ∈ building) :
    r.nodeIn building (.declared number)
      = .error (r.circularity building (.declared number)) := by
  rw [nodeIn, dif_pos h, dif_pos (List.contains_iff_mem.mpr hb)]

theorem nodeIn_idle (h : r.contains (.declared number) = true)
    (hb : ClassId.declared number ∉ building) :
    r.nodeIn building (.declared number)
      = r.nodeFrom (r.nodeIn (building ++ [.declared number])) (.declared number) := by
  rw [nodeIn, dif_pos h, dif_neg (fun hc => hb (List.contains_iff_mem.mp hc))]

/-- **What holds of a class being built whenever it holds of all classes below it holds of every
class.** -/
theorem building_induction {motive : List ClassId → ClassId → Prop}
    (builtin : ∀ building c, motive building (.builtin c))
    (unknown : ∀ building number, r.contains (.declared number) = false →
      motive building (.declared number))
    (busy : ∀ building number, r.contains (.declared number) = true →
      ClassId.declared number ∈ building → motive building (.declared number))
    (idle : ∀ building number, r.contains (.declared number) = true →
      ClassId.declared number ∉ building →
      (∀ d, motive (building ++ [.declared number]) d) → motive building (.declared number))
    (building : List ClassId) (id : ClassId) : motive building id :=
  match id with
  | .builtin c => builtin building c
  | .declared number =>
    if known : r.contains (.declared number) = true then
      if hb : building.contains (.declared number) = true then
        busy building number known (List.contains_iff_mem.mp hb)
      else
        idle building number known (fun hm => hb (List.contains_iff_mem.mpr hm))
          fun d => building_induction builtin unknown busy idle (building ++ [.declared number]) d
    else unknown building number (Bool.not_eq_true _ ▸ known)
termination_by (r.idle building).length
decreasing_by exact length_idle_lt known hb

/-- **A build that succeeds has followed all references to their ends.** -/
theorem grounded_of_nodeIn {node : Node} (h : r.nodeIn building id = .ok node) : r.Grounded id := by
  -- the induction is on the classes that are not being built; a class below one has fewer of them
  induction building, id using building_induction (r := r) generalizing node with
  | builtin building c => exact .intro fun d hd => absurd hd not_refers_builtin
  | unknown building number hk =>
    rw [nodeIn_unknown hk] at h
    cases h
  | busy building number hk hb =>
    rw [nodeIn_busy hk hb] at h
    cases h
  | idle building number hk hb ih =>
    rw [nodeIn_idle hk hb] at h
    refine .intro fun d hd => ?_
    obtain ⟨n, hn⟩ := exists_of_nodeFrom_eq_ok h hd
    exact ih d hn

/-! ## The classes being built -/

/-- Every class being built has led to a class by its references. -/
def Leads (r : Registry) (building : List ClassId) (id : ClassId) : Prop :=
  ∀ a ∈ building, Relation.TransGen r.Refers a id

/-- No class being built is reached from a class. -/
def Apart (r : Registry) (building : List ClassId) (id : ClassId) : Prop :=
  ∀ a ∈ building, ¬ Relation.ReflTransGen r.Refers id a

theorem leads_nil : r.Leads [] id := by simp [Leads]

theorem apart_nil : r.Apart [] id := by simp [Apart]

theorem Leads.step (h : r.Leads building id) (hd : r.Refers id d) :
    r.Leads (building ++ [id]) d := by
  intro a ha
  rcases List.mem_append.mp ha with ha | ha
  · exact (h a ha).tail hd
  · rw [List.mem_singleton.mp ha]
    exact .single hd

theorem Leads.apart (h : r.Leads building id) (hg : r.Grounded id) : r.Apart building id :=
  fun a ha hr => hg.not_cycle (Relation.TransGen.trans_right hr (h a ha))

theorem Apart.step (h : r.Apart building id) (hg : r.Grounded id) (hd : r.Refers id d) :
    r.Apart (building ++ [id]) d := by
  intro a ha hr
  rcases List.mem_append.mp ha with ha | ha
  · exact h a ha (.head hd hr)
  · rw [List.mem_singleton.mp ha] at hr
    exact hg.not_cycle (Relation.TransGen.head' hd hr)

/-- **What is built of a grounded class does not depend on classes that it does not reach.** -/
theorem nodeIn_eq_of_apart (hg : r.Grounded id) {others : List ClassId} (h : r.Apart building id)
    (h' : r.Apart others id) : r.nodeIn building id = r.nodeIn others id := by
  -- along the references, since the lists of classes being built grow differently below the class
  induction hg generalizing building others with
  | intro id hacc ih =>
    have hg : r.Grounded id := .intro hacc
    cases id with
    | builtin c => rw [nodeIn_builtin, nodeIn_builtin]
    | declared number =>
      by_cases hk : r.contains (.declared number) = true
      · -- the class reaches itself, so it is in neither list
        rw [nodeIn_idle hk fun hm => h _ hm .refl, nodeIn_idle hk fun hm => h' _ hm .refl]
        exact nodeFrom_congr fun d hd => ih d hd (h.step hg hd) (h'.step hg hd)
      · rw [nodeIn_unknown (Bool.not_eq_true _ ▸ hk), nodeIn_unknown (Bool.not_eq_true _ ▸ hk)]

/-- **If all classes being built led to a class, they do not matter for the class.** -/
theorem nodeIn_eq_of_leads (hg : r.Grounded id) (h : r.Leads building id) :
    r.nodeIn building id = r.nodeIn [] id :=
  nodeIn_eq_of_apart hg (h.apart hg) apart_nil

/-- **Inside the class that is being built its references have the nodes they have on their
own.** -/
theorem nodeFrom_of_nodeIn {node : Node} (h : r.nodeIn [] (.declared number) = .ok node) :
    r.nodeFrom (r.nodeIn []) (.declared number) = .ok node := by
  by_cases hk : r.contains (.declared number) = true
  · have hg := grounded_of_nodeIn h
    rw [nodeIn_idle hk List.not_mem_nil] at h
    rw [← h]
    exact nodeFrom_congr fun d hd => (nodeIn_eq_of_leads (hg.refers hd) (leads_nil.step hd)).symm
  · rw [nodeIn_unknown (Bool.not_eq_true _ ▸ hk)] at h
    cases h

/-! ## Indexes -/

/-- The indexes of a class below a parent, while other classes are being built. -/
def indexesIn (r : Registry) (building : List ClassId) (parent : Option String) (id : ClassId) :
    Except SchemaError (List IndexDescription) :=
  if _known : r.contains id = true then
    if _busy : building.contains id = true then .error (r.circularity building id)
    else do
      let lineage ← r.lineage id
      List.flatten <$> lineage.mapM (levelIndexes r
        (fun target path => r.indexesIn (building ++ [id]) (some path) target) parent)
  else .error (.unknownClass id)
termination_by (r.idle building).length
decreasing_by exact length_idle_lt _known _busy

variable {parent : Option String}

theorem indexesIn_unknown (h : r.contains id = false) :
    r.indexesIn building parent id = .error (.unknownClass id) := by
  rw [indexesIn, dif_neg (by rw [h]; exact Bool.false_ne_true)]

theorem indexesIn_busy (h : r.contains id = true) (hb : id ∈ building) :
    r.indexesIn building parent id = .error (r.circularity building id) := by
  rw [indexesIn, dif_pos h, dif_pos (List.contains_iff_mem.mpr hb)]

theorem indexesIn_idle (h : r.contains id = true) (hb : id ∉ building) :
    r.indexesIn building parent id = r.lineage id >>= fun lineage =>
      List.flatten <$> lineage.mapM (levelIndexes r
        (fun target path => r.indexesIn (building ++ [id]) (some path) target) parent) := by
  rw [indexesIn, dif_pos h, dif_neg (fun hc => hb (List.contains_iff_mem.mp hc))]

/-- A class that has indexes is not being built, and its levels have theirs. -/
theorem indexesIn_eq_ok_iff {indexes : List IndexDescription} :
    r.indexesIn building parent id = .ok indexes ↔ id ∉ building
      ∧ ∃ lineage, r.lineage id = .ok lineage ∧ List.flatten <$> lineage.mapM (levelIndexes r
        (fun target path => r.indexesIn (building ++ [id]) (some path) target) parent)
          = .ok indexes := by
  by_cases hk : r.contains id = true
  · by_cases hb : id ∈ building
    · rw [indexesIn_busy hk hb]
      exact iff_of_false nofun fun h => h.1 hb
    · rw [indexesIn_idle hk hb, bind_eq_ok_iff]
      exact (and_iff_right hb).symm
  · rw [indexesIn_unknown (Bool.not_eq_true _ ▸ hk)]
    exact iff_of_false nofun fun ⟨_, _, hl, _⟩ => hk (contains_of_lineage hl)

/-- **What holds of a class whenever it holds of all classes inside it holds of every class.**
Inside are those that are built while the class is, which must be known and not being built
already. -/
theorem idle_induction {motive : List ClassId → ClassId → Prop}
    (step : ∀ building id,
      (r.contains id = true → id ∉ building → ∀ d, motive (building ++ [id]) d) →
      motive building id)
    (building : List ClassId) (id : ClassId) : motive building id :=
  step building id fun _known _idle d => idle_induction step (building ++ [id]) d
termination_by (r.idle building).length
decreasing_by exact length_idle_lt _known fun hc => _idle (List.contains_iff_mem.mp hc)

end Registry

end DocumentModel
