import DocumentModel.Proofs.Compile.Frozen

/-!
# Paths of properties

A path leads from the node of a class through properties of objects, whose wrappers for missing
values do not matter. The declarations of a class lead along a path, too: the declaration that
counts for a key is the one of the most derived level, and an object field goes on to its class.
Without raw fields the two are the same paths (`Registry.hasPath_iff_resolves`).
-/

namespace DocumentModel

/-! ## Nodes -/

namespace Node

/-- The node below the wrappers for missing values. -/
def unwrapped : Node → Node
  | ⟨.optional inner, _⟩ | ⟨.nullable inner, _⟩ | ⟨.withDefault inner _, _⟩ => inner.unwrapped
  | n => n

/-- The node of a property of the object below the wrappers. -/
def property? (key : String) (n : Node) : Option Node := n.unwrapped.field? key

/-- The keys are those of properties, each of the object that the one before has led to. -/
def HasPath (n : Node) : List String → Prop
  | [] => True
  | key :: rest => ∃ inner, n.property? key = some inner ∧ inner.HasPath rest

variable {n m : Node} {key : String}

theorem property?_of_kind_eq (h : n.kind = m.kind) : n.property? key = m.property? key := by
  obtain ⟨kind, description⟩ := n
  obtain ⟨_, other⟩ := m
  cases h
  cases kind <;> rfl

theorem hasPath_congr (h : ∀ key, n.property? key = m.property? key) (keys : List String) :
    n.HasPath keys ↔ m.HasPath keys := by
  cases keys with
  | nil => exact Iff.rfl
  | cons key rest => rw [HasPath, HasPath, h]

theorem hasPath_of_no_property (h : ∀ key, n.property? key = none) (keys : List String) :
    n.HasPath keys ↔ keys = [] := by
  cases keys with
  | nil => exact iff_of_true trivial rfl
  | cons key rest => simp [HasPath, h]

end Node

theorem BuiltinClass.property?_eq_none (c : BuiltinClass) (key : String) :
    c.node.property? key = none := by
  cases c <;> rfl

/-- **Details do not change what properties a node has.** -/
theorem property?_applyDetails (details : Option FieldDetails) (n : Node) (key : String) :
    (applyDetails details n).property? key = n.property? key := by
  cases details with
  | none => rfl
  | some d =>
    obtain ⟨optional, nullable, defaultValue, description⟩ := d
    have hwrapped : (applyDetails (some ⟨optional, nullable, defaultValue, none⟩) n).property? key
        = n.property? key := by
      cases optional <;> cases nullable <;> cases defaultValue <;> rfl
    cases description with
    | none => exact hwrapped
    | some text =>
      refine Eq.trans (Node.property?_of_kind_eq ?_) hwrapped
      rw [applyDetails, applyDetails, FieldDetails.apply, FieldDetails.apply]
      dsimp only
      split <;> rfl

/-! ## Fields -/

theorem property?_markedIf (n : Node) (type? : Option BsonType) (key : String) :
    (n.markedIf type?).property? key = n.property? key := by
  cases type? with
  | none => rfl
  | some type => exact Node.property?_of_kind_eq rfl

theorem property?_stored (type : BsonType) (key : String) :
    (Node.stored type).property? key = none := by
  cases type <;> rfl

/-- What a type leads on to: the node of the class of an object field, and else nothing. -/
theorem property?_of_typeNode {f : ClassId → Except SchemaError Node} {path : String}
    {tag : TypeTag} {options : TypeOptions} {n : Node} (hraw : tag ≠ .raw)
    (h : typeNode f path tag options = .ok n) :
    (∃ target, options = .object (some target) ∧ f target = .ok n)
    ∨ (∀ target, options ≠ .object (some target)) ∧ ∀ key, n.property? key = none := by
  cases tag <;> cases options
  case raw.raw => exact absurd rfl hraw
  case object.object class? =>
    cases class? with
    | some target => exact Or.inl ⟨target, rfl, h⟩
    | none =>
      cases h
      exact Or.inr ⟨nofun, fun _ => rfl⟩
  case any.any type? =>
    cases h
    refine Or.inr ⟨nofun, fun key => ?_⟩
    cases type? with
    | none => rfl
    | some type => exact property?_stored type key
  case string.string o | number.number o =>
    cases h
    exact Or.inr ⟨nofun, fun key => property?_markedIf _ _ key⟩
  case array.array | set.set =>
    obtain ⟨element, -, rfl⟩ := map_eq_ok_iff.mp h
    exact Or.inr ⟨nofun, fun _ => rfl⟩
  case map.map =>
    obtain ⟨k, -, h⟩ := bind_eq_ok_iff.mp h
    obtain ⟨w, -, h⟩ := bind_eq_ok_iff.mp h
    cases h
    exact Or.inr ⟨nofun, fun _ => rfl⟩
  -- the other pairs have one node, without properties, or they make it fail
  all_goals
    cases h
    try exact Or.inr ⟨nofun, fun _ => rfl⟩

/-- A field has the properties of the class that it is an object of, and else none. -/
theorem property?_of_fieldNode {f : ClassId → Except SchemaError Node} {owner : ClassId}
    {path : String} {d : FieldDeclaration} {n : Node} (hraw : d.tag ≠ some .raw)
    (h : fieldNode f owner path d = .ok n) :
    (∃ target base, d.options = .object (some target) ∧ f target = .ok base
      ∧ ∀ key, n.property? key = base.property? key)
    ∨ (∀ target, d.options ≠ .object (some target)) ∧ ∀ key, n.property? key = none := by
  unfold fieldNode at h
  split at h
  · cases h
  · next tag ht =>
    have hne : tag ≠ .raw := fun he => hraw (he ▸ ht)
    split at h
    · cases h
    · obtain ⟨base, hbase, rfl⟩ := map_eq_ok_iff.mp h
      simp only [property?_applyDetails]
      rcases property?_of_typeNode hne hbase with ⟨target, ho, hf⟩ | ⟨ho, hnone⟩
      · exact Or.inl ⟨target, base, ho, hf, fun _ => rfl⟩
      · exact Or.inr ⟨ho, hnone⟩

/-! ## Levels -/

namespace Registry

variable {r : Registry} {f : ClassId → Except SchemaError Node} {id level owner : ClassId}
  {key : String} {node : Node} {building : List ClassId}

/-- Of several declarations of a field the last one counts. -/
def lastNamed? (key : String) (ds : List FieldDeclaration) : Option FieldDeclaration :=
  ds.reverse.find? fun d => d.name == key

/-- The declaration of a field at a level; the fields of built-in classes are not declared. -/
def declared? (r : Registry) (level : ClassId) (key : String) : Option FieldDeclaration :=
  match level with
  | .builtin _ => none
  | .declared _ => lastNamed? key (r.declarations level)

/-- **The declaration of a field that counts for a class**: that of the most derived level. -/
def field? (r : Registry) (id : ClassId) (key : String) : Option FieldDeclaration :=
  match r.lineage id with
  | .ok lineage => lineage.findSome? (r.declared? · key)
  | .error _ => none

theorem mem_of_declared? {d : FieldDeclaration} (h : r.declared? level key = some d) :
    d ∈ r.declarations level ∧ d.name = key := by
  cases level with
  | builtin c => cases h
  | declared number =>
    rw [declared?, lastNamed?] at h
    have hn := List.find?_some h
    exact ⟨List.mem_reverse.mp (List.mem_of_find?_eq_some h), beq_iff_eq.mp hn⟩

theorem level_of_field? {d : FieldDeclaration} (h : r.field? id key = some d) :
    ∃ lineage level, r.lineage id = .ok lineage ∧ level ∈ lineage
      ∧ d ∈ r.declarations level ∧ d.name = key := by
  unfold field? at h
  split at h
  · next lineage hl =>
    obtain ⟨level, hm, hd⟩ := List.exists_of_findSome?_eq_some h
    exact ⟨lineage, level, hl, hm, mem_of_declared? hd⟩
  · cases h

/-- The node of a property is made of a declaration, or there is neither. -/
def Matches (made : FieldDeclaration → Node → Prop) (d? : Option FieldDeclaration)
    (n? : Option Node) : Prop :=
  (∃ d n, d? = some d ∧ n? = some n ∧ made d n) ∨ d? = none ∧ n? = none

theorem lastNamed?_cons (d : FieldDeclaration) (rest : List FieldDeclaration) :
    lastNamed? key (d :: rest)
      = (lastNamed? key rest).or (if d.name = key then some d else none) := by
  rw [lastNamed?, lastNamed?, List.reverse_cons, List.find?_append, List.find?_singleton]
  simp only [beq_iff_eq]

/-- A later declaration goes over what there was before. -/
theorem matches_of_foldlM (path : String → String) {ds : List FieldDeclaration} {s t : Shape Node}
    {before : Option FieldDeclaration}
    (hs : Matches (fun d n => fieldNode f owner (path d.name) d = .ok n) before (s.get? key))
    (h : ds.foldlM (fun shape d => do
        let node ← fieldNode f owner (path d.name) d
        pure (Shape.insert d.name node shape)) s = .ok t) :
    Matches (fun d n => fieldNode f owner (path d.name) d = .ok n) ((lastNamed? key ds).or before)
      (t.get? key) := by
  induction ds generalizing s before with
  | nil =>
    cases h
    exact hs
  | cons d rest ih =>
    rw [List.foldlM_cons] at h
    obtain ⟨u, hu, h⟩ := bind_eq_ok_iff.mp h
    obtain ⟨n, hn, hu⟩ := bind_eq_ok_iff.mp hu
    cases hu
    rw [lastNamed?_cons, Option.or_assoc]
    refine ih ?_ h
    rw [Shape.get?_insert]
    by_cases hk : d.name = key
    · rw [if_pos hk, if_pos hk]
      exact Or.inl ⟨d, n, rfl, rfl, hn⟩
    · rw [if_neg hk, if_neg hk]
      exact hs

/-- **What a level has at a key is made of its last declaration of the key.** -/
theorem matches_of_levelFrom (h : r.levelFrom f level = .ok node) (key : String) :
    Matches (fun d n => fieldNode f level (r.displayName level ++ "." ++ d.name) d = .ok n)
      (r.declared? level key) (node.field? key) := by
  cases level with
  | builtin c =>
    cases h
    refine Or.inr ⟨rfl, ?_⟩
    cases c <;> rfl
  | declared number =>
    obtain ⟨shape, hshape, h⟩ := bind_eq_ok_iff.mp h
    cases h
    have hempty : Matches (fun d n => fieldNode f (.declared number)
        (r.displayName (.declared number) ++ "." ++ d.name) d = .ok n) none (Shape.get? key []) :=
      Or.inr ⟨rfl, rfl⟩
    have hm := matches_of_foldlM (r.displayName (.declared number) ++ "." ++ ·) hempty hshape
    rwa [Option.or_none] at hm

theorem propertiesOnce_of_levelFrom (h : r.levelFrom f level = .ok node) :
    node.PropertiesOnce := by
  cases level with
  | builtin c =>
    cases h
    exact c.propertiesOnce
  | declared number =>
    obtain ⟨own, rfl, hnodup, -⟩ := shape_of_levelFrom h
    intro _ hs
    cases hs
    exact hnodup

/-- The most derived level with a declaration is the one with a property. -/
theorem matches_of_levels {levels : List (ClassId × Node)}
    (h : ∀ entry ∈ levels, r.levelFrom f entry.1 = .ok entry.2) (key : String) :
    Matches (fun d n => ∃ owner path, fieldNode f owner path d = .ok n)
      ((levels.map Prod.fst).findSome? (r.declared? · key))
      (levels.findSome? fun entry => entry.2.field? key) := by
  induction levels with
  | nil => exact Or.inr ⟨rfl, rfl⟩
  | cons entry rest ih =>
    obtain ⟨hentry, hrest⟩ := List.forall_mem_cons.mp h
    rw [List.map_cons, List.findSome?_cons, List.findSome?_cons]
    rcases matches_of_levelFrom hentry key with ⟨d, n, hd, hn, hf⟩ | ⟨hd, hn⟩
    · rw [hd, hn]
      exact Or.inl ⟨d, n, rfl, rfl, _, _, hf⟩
    · rw [hd, hn]
      exact ih hrest

/-- **What a class has at a key is made of the declaration that counts.** -/
theorem matches_of_nodeFrom (h : r.nodeFrom f id = .ok node) (key : String) :
    Matches (fun d n => ∃ owner path, fieldNode f owner path d = .ok n) (r.field? id key)
      (node.field? key) := by
  obtain ⟨levels, hlevels, shape, hshape, rfl⟩ := levels_of_nodeFrom_eq_ok h
  obtain ⟨lineage, hl, hmap⟩ := bind_eq_ok_iff.mp hlevels
  obtain ⟨rfl, hnodes⟩ := mapM_levels_eq_ok_iff.mp hmap
  have honce : ∀ entry ∈ levels, entry.2.PropertiesOnce :=
    fun entry hm => propertiesOnce_of_levelFrom (hnodes entry hm)
  rw [Node.field?_ofShape, get?_of_mergeLevels honce hshape, field?, hl]
  exact matches_of_levels hnodes key

/-! ## Paths -/

/-- The declarations that count lead along the keys: each but the last is an object of the class
that the next one is a field of. -/
def Resolves (r : Registry) (id : ClassId) : List String → Prop
  | [] => True
  | key :: rest => ∃ d, r.field? id key = some d
    ∧ (rest ≠ [] → ∃ target, d.options = .object (some target) ∧ r.Resolves target rest)

/-- No field brings a node of its own. -/
def NoRaw (r : Registry) : Prop := ∀ id, ∀ d ∈ r.declarations id, d.tag ≠ some .raw

theorem noRaw_of_fields (h : ∀ entry ∈ r.fields, ∀ d ∈ entry.2, d.tag ≠ some .raw) : r.NoRaw := by
  intro id d hd
  obtain ⟨entry, he, -, hm⟩ := exists_of_mem_declarations hd
  exact h entry he d hm

theorem field?_builtin (c : BuiltinClass) : r.field? (.builtin c) key = none := rfl

/-- A field goes on where its class does. -/
theorem hasPath_iff_of_fieldNode {path : String} {d : FieldDeclaration} {n : Node}
    {rest : List String} (hraw : d.tag ≠ some .raw) (h : fieldNode f owner path d = .ok n)
    (hclass : ∀ target base, f target = .ok base → (base.HasPath rest ↔ r.Resolves target rest)) :
    n.HasPath rest ↔
      (rest ≠ [] → ∃ target, d.options = .object (some target) ∧ r.Resolves target rest) := by
  rcases property?_of_fieldNode hraw h with ⟨target, base, ho, hbase, hprop⟩ | ⟨ho, hprop⟩
  · rw [Node.hasPath_congr hprop, hclass target base hbase]
    cases rest with
    | nil => exact iff_of_true trivial fun hne => absurd rfl hne
    | cons key more => simp [ho]
  · rw [Node.hasPath_of_no_property hprop]
    cases rest with
    | nil => simp
    | cons key more => simp [ho]

/-- **A class has the paths that the declarations that count lead along.** -/
theorem hasPath_iff_resolves (hraw : r.NoRaw) (h : r.nodeIn building id = .ok node)
    (keys : List String) : node.HasPath keys ↔ r.Resolves id keys := by
  induction keys generalizing building id node with
  | nil => exact Iff.rfl
  | cons key rest ih =>
    rw [Node.HasPath, Resolves]
    cases id with
    | builtin c =>
      rw [nodeIn_builtin] at h
      cases h
      simp [c.property?_eq_none, field?_builtin]
    | declared number =>
      by_cases hk : r.contains (.declared number) = true
      · by_cases hb : ClassId.declared number ∈ building
        · rw [nodeIn_busy hk hb] at h
          cases h
        · rw [nodeIn_idle hk hb] at h
          obtain ⟨levels, -, shape, -, rfl⟩ := levels_of_nodeFrom_eq_ok h
          have hproperty : (Node.ofShape shape).property? key
              = (Node.ofShape shape).field? key := rfl
          rw [hproperty]
          rcases matches_of_nodeFrom h key with ⟨d, n, hd, hn, owner, path, hf⟩ | ⟨hd, hn⟩
          · obtain ⟨_, level, -, -, hm, -⟩ := level_of_field? hd
            have hinner := hasPath_iff_of_fieldNode (hraw level d hm) hf fun _ _ hbase => ih hbase
            rw [hd, hn]
            simpa using hinner
          · rw [hd, hn]
            simp
      · rw [nodeIn_unknown (Bool.not_eq_true _ ▸ hk)] at h
        cases h

end Registry

end DocumentModel
