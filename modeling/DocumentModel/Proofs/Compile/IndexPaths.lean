import DocumentModel.Proofs.Compile.FieldIndexes
import DocumentModel.Proofs.Compile.FieldPaths
import DocumentModel.Proofs.Compile.Requests
import DocumentModel.Proofs.Index.Names

/-!
# Paths of indexes

Indexes are made of all declarations of a lineage, while of the declarations of one field only the
one of the most derived level becomes a property. So every index stands on a path of declared fields
with indexes, and a class has this path exactly if the declarations that count lead along it, too
(`Registry.index_path_iff`). A field that passes through at one level and is declared as something
else at a more derived one leaves indexes without a property.
-/

namespace DocumentModel

theorem indexPath_cons (parent : Option String) (key next : String) (rest : List String) :
    indexPath (some (indexPath parent key)) (".".intercalate (next :: rest))
      = indexPath parent (".".intercalate (key :: next :: rest)) := by
  rw [String.intercalate_cons_cons]
  cases parent <;> simp [indexPath, String.append_assoc]

namespace Registry

variable {r : Registry} {id level target : ClassId} {parent : Option String} {keys : List String}

/-! ## Declared paths -/

/-- A declaration with an index at some level of a class. -/
def DeclaresIndex (r : Registry) (id : ClassId) (d : FieldDeclaration) (index : IndexSpec) : Prop :=
  ∃ lineage level, r.lineage id = .ok lineage ∧ level ∈ lineage ∧ d ∈ r.declarations level
    ∧ d.index = some index

/-- Keys of declared fields with indexes, each but the last passing through to the class that the
next one is declared for. -/
inductive Indexed (r : Registry) : ClassId → List String → Prop
  | here {id : ClassId} {d : FieldDeclaration} {index : IndexSpec}
    (h : r.DeclaresIndex id d index) : Indexed r id [d.name]
  | through {id target : ClassId} {d : FieldDeclaration} {index : IndexSpec} {keys : List String}
    (h : r.DeclaresIndex id d index) (ht : d.embedded? index = some target)
    (hkeys : Indexed r target keys) : Indexed r id (d.name :: keys)

theorem Indexed.exists_cons (h : r.Indexed id keys) : ∃ key rest, keys = key :: rest := by
  cases h with
  | here h => exact ⟨_, _, rfl⟩
  | through h ht hkeys => exact ⟨_, _, rfl⟩

/-! ## Indexes -/

/-- An index that a field asks for is its own, or one of the class that it passes through to. -/
theorem exists_of_mem_fieldIndexes {classIndexes : ClassId → String →
      Except SchemaError (List IndexDescription)} {owner : ClassId} {d : FieldDeclaration}
    {own : List IndexDescription} (h : fieldIndexes r classIndexes owner parent d = .ok own)
    {x : IndexDescription} (hx : x ∈ own) :
    ∃ index, d.index = some index ∧ (x.path = indexPath parent d.name
      ∨ ∃ target below, d.embedded? index = some target
        ∧ classIndexes target (indexPath parent d.name) = .ok below ∧ x ∈ below) := by
  cases hw : d.wanted? parent.isSome with
  | none =>
    rw [fieldIndexes_of_none hw] at h
    cases h
    cases hx
  | some index =>
    obtain ⟨description, beneath, hown, rfl, hbeneath⟩ := exists_of_fieldIndexes_eq_ok hw h
    refine ⟨index, d.index_of_wanted? hw, ?_⟩
    rcases List.mem_cons.mp hx with rfl | hx
    · exact Or.inl (IndexDescription.path_of_ofSpec? hown)
    · rcases hbeneath with ⟨-, rfl⟩ | ⟨target, ht, -, hbelow⟩
      · cases hx
      · exact Or.inr ⟨target, beneath, ht, hbelow, hx⟩

/-- **Every index of a class stands on a declared path.** -/
theorem indexed_of_indexesIn {building : List ClassId} {indexes : List IndexDescription}
    (h : r.indexesIn building parent id = .ok indexes) {x : IndexDescription} (hx : x ∈ indexes) :
    ∃ keys, r.Indexed id keys ∧ x.path = indexPath parent (".".intercalate keys) := by
  induction building, id using idle_induction (r := r) generalizing parent indexes with
  | step building id ih =>
    obtain ⟨hidle, lineage, hl, h⟩ := indexesIn_eq_ok_iff.mp h
    obtain ⟨level, hlevel, own, hown, hx⟩ := mem_of_flatten_mapM_eq_ok h hx
    obtain ⟨d, hd, ofField, hfield, hx⟩ := mem_of_flatten_mapM_eq_ok hown hx
    obtain ⟨index, hi, hpath | ⟨target, below, ht, hbelow, hx⟩⟩ :=
      exists_of_mem_fieldIndexes hfield hx
    · refine ⟨[d.name], .here ⟨lineage, level, hl, hlevel, hd, hi⟩, ?_⟩
      rw [hpath, String.intercalate_singleton]
    · obtain ⟨keys, hkeys, hpath⟩ := ih (contains_of_lineage hl) hidle target hbelow hx
      obtain ⟨key, rest, rfl⟩ := hkeys.exists_cons
      refine ⟨d.name :: key :: rest, .through ⟨lineage, level, hl, hlevel, hd, hi⟩ ht hkeys, ?_⟩
      rw [hpath, indexPath_cons]

/-! ## Properties -/

/-- Every declaration with an index has the options that count for its field. -/
def IndexesCount (r : Registry) : Prop :=
  ∀ id d index, r.DeclaresIndex id d index →
    ∃ counting, r.field? id d.name = some counting ∧ counting.options = d.options

/-- Indexes count where no class declares a field twice with different options, be it at one level
or at several, and where fields are declared for declared classes only. -/
theorem indexesCount_of_options_eq (hb : ∀ c, r.declarations (.builtin c) = [])
    (ho : ∀ id lineage, r.lineage id = .ok lineage → ∀ one ∈ lineage, ∀ other ∈ lineage,
      ∀ d ∈ r.declarations one, ∀ e ∈ r.declarations other, d.name = e.name →
        d.options = e.options) : r.IndexesCount := by
  rintro id d index ⟨lineage, level, hl, hm, hd, -⟩
  have hdeclared : (r.declared? level d.name).isSome = true := by
    cases level with
    | builtin c =>
      rw [hb c] at hd
      cases hd
    | declared number =>
      exact List.find?_isSome.mpr ⟨d, List.mem_reverse.mpr hd, beq_self_eq_true d.name⟩
  have hfield : (r.field? id d.name).isSome = true := by
    rw [field?, hl]
    exact List.findSome?_isSome_iff.mpr ⟨level, hm, hdeclared⟩
  obtain ⟨counting, hc⟩ := Option.isSome_iff_exists.mp hfield
  obtain ⟨_, other, hl', hm', hcm, hname⟩ := level_of_field? hc
  cases hl.symm.trans hl'
  exact ⟨counting, hc, ho id lineage hl other hm' level hm counting hcm d hd hname⟩

theorem options_of_embedded? {d : FieldDeclaration} {index : IndexSpec}
    (h : d.embedded? index = some target) : d.options = .object (some target) := by
  unfold FieldDeclaration.embedded? at h
  split at h
  · next ho => rw [ho, h]
  · cases h

/-- Where no field is declared again as something else, the declarations that count lead along
every declared path. -/
theorem Indexed.resolves (hr : r.IndexesCount) (h : r.Indexed id keys) : r.Resolves id keys := by
  induction h with
  | here h =>
    obtain ⟨counting, hc, -⟩ := hr _ _ _ h
    exact ⟨counting, hc, fun hne => absurd rfl hne⟩
  | through h ht _ ih =>
    obtain ⟨counting, hc, ho⟩ := hr _ _ _ h
    exact ⟨counting, hc, fun _ => ⟨_, ho.trans (options_of_embedded? ht), ih⟩⟩

/-- **Every index stands on a path of declared fields with indexes, which is a path of properties
exactly if the declarations that count lead along it.** They do where no field with an index is
declared again as something else. -/
theorem index_path_iff (hraw : r.NoRaw) {node : Node} {indexes : List IndexDescription}
    (hn : (buildNode r id).answer {} = .ok node)
    (hi : (buildIndexes r id none).answer {} = .ok indexes) :
    ∀ x ∈ indexes, ∃ keys, keys ≠ [] ∧ x.path = ".".intercalate keys ∧ r.Indexed id keys
      ∧ (node.HasPath keys ↔ r.Resolves id keys)
      ∧ (r.IndexesCount → node.HasPath keys) := by
  rw [(buildNode_agrees r id {} Cache.sound_empty).1] at hn
  rw [(buildIndexes_agrees r id none {} Cache.sound_empty).1] at hi
  intro x hx
  obtain ⟨keys, hkeys, hpath⟩ := indexed_of_indexesIn hi hx
  obtain ⟨key, rest, rfl⟩ := hkeys.exists_cons
  have hiff := hasPath_iff_resolves hraw hn (key :: rest)
  exact ⟨key :: rest, List.cons_ne_nil key rest, hpath, hkeys, hiff,
    fun hr => hiff.mpr (hkeys.resolves hr)⟩

/-! ## A home that is an address, and one that is a text -/

/-- People have a home, which is an address in a city. -/
def people : Registry where
  classes := [rootEntry 64 "Address", rootEntry 65 "Person"]
  fields :=
    [(.declared 64, [{ name := "city", tag := some .string, index := some {} }]),
      (.declared 65,
        [{ name := "home", tag := some .object, options := .object (some (.declared 64)),
           index := some { passthrough := true } }])]

theorem people_noRaw : people.NoRaw := noRaw_of_fields (by decide)

theorem people_indexesCount : people.IndexesCount := by
  have hbases : ∀ e ∈ people.classes, e.base = none := by decide
  refine indexesCount_of_options_eq (fun c => rfl) fun id lineage hl one hone other hother d hd e
    he _ => ?_
  -- both levels are the class itself, which has one field
  cases eq_of_mem_lineage hbases hl hone
  cases eq_of_mem_lineage hbases hl hother
  obtain ⟨entry, hm, hentry, hde⟩ := exists_of_mem_declarations hd
  simp only [people, List.mem_cons, List.not_mem_nil, or_false] at hm
  rcases hm with rfl | rfl
  all_goals
    cases hentry
    rw [List.mem_singleton.mp hde, List.mem_singleton.mp he]

/-- The indexes of people, on their homes and on the cities of these. -/
def homeIndexes : List IndexDescription :=
  [{ path := "home", direction := .ascending }, { path := "home.city", direction := .ascending }]

/-- The node of people. -/
def personNode : Node := .ofShape [("home", .ofShape [("city", .string)])]

theorem index_path_iff_of_people :
    people.NoRaw ∧ people.IndexesCount
    ∧ (buildNode people (.declared 65)).answer {} = .ok personNode
    ∧ (buildIndexes people (.declared 65) none).answer {} = .ok homeIndexes
    ∧ ∀ x ∈ homeIndexes, ∃ keys, keys ≠ [] ∧ x.path = ".".intercalate keys
      ∧ people.Indexed (.declared 65) keys
      ∧ (personNode.HasPath keys ↔ people.Resolves (.declared 65) keys)
      ∧ (people.IndexesCount → personNode.HasPath keys) := by
  have hn : (buildNode people (.declared 65)).answer {} = .ok personNode := by
    with_unfolding_all rfl
  have hi : (buildIndexes people (.declared 65) none).answer {} = .ok homeIndexes := by
    with_unfolding_all rfl
  exact ⟨people_noRaw, people_indexesCount, hn, hi, index_path_iff people_noRaw hn hi⟩

/-- Residents are people whose home is a text. -/
def residents : Registry where
  classes := people.classes
    ++ [⟨66, "Resident", some (.declared 65), fun n h => by cases h; decide⟩]
  fields := people.fields ++ [(.declared 66, [{ name := "home", tag := some .string }])]

theorem residents_noRaw : residents.NoRaw := noRaw_of_fields (by decide)

/-- **An index may stand where there is no property**: the city of a home that is a text. -/
theorem index_without_property :
    residents.NoRaw
    ∧ (buildNode residents (.declared 66)).answer {} = .ok (.ofShape [("home", .string)])
    ∧ (buildIndexes residents (.declared 66) none).answer {} = .ok homeIndexes
    ∧ { path := "home.city", direction := .ascending } ∈ homeIndexes
    ∧ ¬ ∃ keys, keys ≠ [] ∧ "home.city" = ".".intercalate keys
      ∧ (Node.ofShape [("home", .string)]).HasPath keys := by
  refine ⟨residents_noRaw, by with_unfolding_all rfl, by with_unfolding_all rfl,
    List.mem_cons_of_mem _ List.mem_cons_self, ?_⟩
  rintro ⟨keys, hne, hpath, hkeys⟩
  cases keys with
  | nil => exact hne rfl
  | cons key rest =>
    obtain ⟨inner, hinner, hrest⟩ := hkeys
    -- the only property is the home, and a text has none
    have hhome : (if "home" = key then some Node.string else none) = some inner := hinner
    split at hhome
    · next hk =>
      cases hk
      cases hhome
      cases rest with
      | nil => exact absurd hpath (by decide)
      | cons next more =>
        obtain ⟨_, hnone, -⟩ := hrest
        cases hnone
    · cases hhome

end Registry

end DocumentModel
