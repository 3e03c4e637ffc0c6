import DocumentModel.Proofs.Compile.FieldPaths
import DocumentModel.Proofs.Compile.Requests

/-!
# What a class inherits

The levels of a lineage are united from the root on, and a field that is declared again is replaced
in its place. So where a key stands is decided at one end of the lineage and what it has at the
other: keys are in the order in which the lineage mentions them from the root on, and each has the
node of the most derived declaration, with nothing of those before it
(`Registry.buildNode_inherits`).
-/

namespace DocumentModel

namespace Registry

variable {r : Registry} {f : ClassId → Except SchemaError Node} {id level owner : ClassId}
  {key : String} {node : Node} {levels : List (ClassId × Node)}

/-! ## Fields of a level -/

/-- The names of the fields that a level declares, in order; those of built-in classes do not
count. -/
def fieldNames (r : Registry) : ClassId → List String
  | .builtin _ => []
  | .declared number => (r.declarations (.declared number)).map (·.name)

theorem declared?_eq_none_iff : r.declared? level key = none ↔ key ∉ r.fieldNames level := by
  cases level with
  | builtin c => exact iff_of_true rfl List.not_mem_nil
  | declared number => simp [declared?, lastNamed?, fieldNames]

/-- Declarations become properties in the order in which their names come up. -/
theorem keys_of_foldlM (path : String → String) {ds : List FieldDeclaration} {s t : Shape Node}
    {names : List String} (hs : s.keys = names.eraseDups)
    (h : ds.foldlM (fun shape d => do
        let node ← fieldNode f owner (path d.name) d
        pure (Shape.insert d.name node shape)) s = .ok t) :
    t.keys = (names ++ ds.map (·.name)).eraseDups := by
  induction ds generalizing s names with
  | nil =>
    cases h
    rw [hs, List.map_nil, List.append_nil]
  | cons d rest ih =>
    rw [List.foldlM_cons] at h
    obtain ⟨u, hu, h⟩ := bind_eq_ok_iff.mp h
    obtain ⟨n, -, hu⟩ := bind_eq_ok_iff.mp hu
    cases hu
    rw [ih (Shape.keys_insert_eraseDups hs) h, List.append_assoc, List.map_cons,
      List.singleton_append]

theorem keys_of_levelFrom {own : Shape Node} (h : r.levelFrom f level = .ok node)
    (hown : node.shape? = some own) : own.keys = (r.fieldNames level).eraseDups := by
  cases level with
  | builtin c =>
    cases h
    cases c <;> cases hown
    rfl
  | declared number =>
    obtain ⟨shape, hshape, h⟩ := bind_eq_ok_iff.mp h
    cases h
    cases hown
    have hempty : Shape.keys ([] : Shape Node) = ([] : List String).eraseDups := rfl
    exact keys_of_foldlM (r.displayName (.declared number) ++ "." ++ ·) hempty hshape

/-! ## Fields of a lineage -/

/-- **The keys of a class are in the order in which its levels mention them, from the root on.** -/
theorem keys_of_mergeLevels {shape : Shape Node}
    (hnodes : ∀ entry ∈ levels, r.levelFrom f entry.1 = .ok entry.2)
    (h : mergeLevels r levels = .ok shape) :
    shape.keys = ((levels.map Prod.fst).reverse.flatMap r.fieldNames).eraseDups := by
  induction levels generalizing shape with
  | nil =>
    cases h
    rfl
  | cons entry rest ih =>
    obtain ⟨hentry, hrest⟩ := List.forall_mem_cons.mp hnodes
    obtain ⟨older, own, holder, hown, rfl⟩ := mergeLevels_cons_eq_ok_iff.mp h
    rw [Shape.keys_extend (ih hrest holder), keys_of_levelFrom hentry hown,
      Shape.eraseDups_append_eraseDups, List.map_cons, List.reverse_cons, List.flatMap_append,
      List.flatMap_singleton]

/-- **A key has what the most derived level that mentions it makes of its last declaration.** -/
theorem declaration_of_levels {n : Node}
    (hnodes : ∀ entry ∈ levels, r.levelFrom f entry.1 = .ok entry.2)
    (h : (levels.findSome? fun entry => entry.2.field? key) = some n) :
    ∃ younger level older d, levels.map Prod.fst = younger ++ level :: older
      ∧ (∀ other ∈ younger, key ∉ r.fieldNames other) ∧ r.declared? level key = some d
      ∧ fieldNode f level (r.displayName level ++ "." ++ key) d = .ok n := by
  obtain ⟨before, entry, after, rfl, hn, hbefore⟩ := List.findSome?_eq_some_iff.mp h
  refine ⟨before.map Prod.fst, entry.1, after.map Prod.fst, ?_⟩
  rcases matches_of_levelFrom (hnodes entry (by simp)) key with ⟨d, m, hd, hm, hf⟩ | ⟨-, hm⟩
  · obtain rfl := Option.some.inj (hm.symm.trans hn)
    refine ⟨d, by simp, fun other hother => ?_, hd, (mem_of_declared? hd).2 ▸ hf⟩
    obtain ⟨younger, hmem, rfl⟩ := List.mem_map.mp hother
    -- a level that mentioned the key would have something there
    have hyounger := hnodes younger (by simp [hmem])
    rcases matches_of_levelFrom hyounger key with ⟨_, _, -, hm, -⟩ | ⟨hd, -⟩
    · rw [hbefore younger hmem] at hm
      cases hm
    · exact declared?_eq_none_iff.mp hd
  · rw [hm] at hn
    cases hn

/-- A shape has the fields of a lineage: the keys that its levels mention from the root on, each
where it is mentioned first; and at a key what is made of the last declaration of the most derived
level that mentions it, and of no other. -/
structure Inherits (r : Registry) (classNode : ClassId → Except SchemaError Node)
    (lineage : List ClassId) (shape : Shape Node) : Prop where
  keys : Shape.keys shape = (lineage.reverse.flatMap r.fieldNames).eraseDups
  nodes : ∀ key ∈ Shape.keys shape, ∃ younger level older d n, lineage = younger ++ level :: older
    ∧ (∀ other ∈ younger, key ∉ r.fieldNames other) ∧ r.declared? level key = some d
    ∧ Shape.get? key shape = some n
    ∧ fieldNode classNode level (r.displayName level ++ "." ++ key) d = .ok n

theorem inherits_of_nodeFrom (h : r.nodeFrom f id = .ok node) :
    ∃ lineage shape, r.lineage id = .ok lineage ∧ node = .ofShape shape
      ∧ r.Inherits f lineage shape := by
  obtain ⟨levels, hlevels, shape, hshape, rfl⟩ := levels_of_nodeFrom_eq_ok h
  obtain ⟨lineage, hl, hmap⟩ := bind_eq_ok_iff.mp hlevels
  obtain ⟨rfl, hnodes⟩ := mapM_levels_eq_ok_iff.mp hmap
  have honce : ∀ entry ∈ levels, entry.2.PropertiesOnce :=
    fun entry hm => propertiesOnce_of_levelFrom (hnodes entry hm)
  refine ⟨_, shape, hl, rfl, keys_of_mergeLevels hnodes hshape, fun key hkey => ?_⟩
  obtain ⟨n, hn⟩ := Shape.exists_get?_of_mem hkey
  have hfound := (get?_of_mergeLevels honce hshape key).symm.trans hn
  obtain ⟨younger, level, older, d, hlineage, hyounger, hd, hf⟩ :=
    declaration_of_levels hnodes hfound
  exact ⟨younger, level, older, d, n, hlineage, hyounger, hd, hn, hf⟩

/-- **A class that a new compiler builds is an object with the fields of its lineage**, which drops
other keys; the classes that its fields refer to are built by a new compiler, too. -/
theorem buildNode_inherits {number : Nat}
    (h : (buildNode r (.declared number)).answer {} = .ok node) :
    ∃ lineage shape, r.lineage (.declared number) = .ok lineage
      ∧ node = ⟨.object shape .strip none, none⟩
      ∧ r.Inherits (fun id => (buildNode r id).answer {}) lineage shape := by
  have hanswer : (fun id => (buildNode r id).answer {}) = r.nodeIn [] :=
    funext fun id => (buildNode_agrees r id {} Cache.sound_empty).1
  rw [hanswer]
  rw [(buildNode_agrees r (.declared number) {} Cache.sound_empty).1] at h
  exact inherits_of_nodeFrom (nodeFrom_of_nodeIn h)

/-! ## An instance -/

/-- Employees are persons who need not have a mail address, and may do without a badge. -/
def staff : Registry where
  classes := [⟨64, "Person", some (.builtin .object), nofun⟩,
    ⟨65, "Employee", some (.declared 64), fun n h => by cases h; decide⟩]
  fields :=
    [(.declared 64,
        [{ name := "name", tag := some .string }, { name := "mail", tag := some .string }]),
      (.declared 65,
        [{ name := "badge", tag := some .number, details := some { optional := true } },
          { name := "mail", tag := some .string, details := some { nullable := true } }])]

/-- The node of employees, in which mail stands where persons have it. -/
def employeeNode : Node :=
  ⟨.object [("name", .string), ("mail", .ofKind (.nullable .string)),
    ("badge", .ofKind (.optional .number))] .strip none, none⟩

theorem buildNode_inherits_employee :
    (buildNode staff (.declared 65)).answer {} = .ok employeeNode
    ∧ ∃ lineage shape, staff.lineage (.declared 65) = .ok lineage
      ∧ employeeNode = ⟨.object shape .strip none, none⟩
      ∧ staff.Inherits (fun id => (buildNode staff id).answer {}) lineage shape := by
  have hn : (buildNode staff (.declared 65)).answer {} = .ok employeeNode := by
    with_unfolding_all rfl
  exact ⟨hn, buildNode_inherits hn⟩

end Registry

end DocumentModel
