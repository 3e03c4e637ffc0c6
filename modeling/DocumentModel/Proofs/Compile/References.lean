import DocumentModel.Compile.Schema
import Mathlib.Logic.Relation

/-!
# What a class refers to

A field refers to the classes among its options, as far as they are the options of its tag.
`typeNode_eq` says that this is all that making its node needs: the nodes of these classes, one
after the other, from which the node is put together. `Registry.Refers` takes the fields of a class
and of its ancestors together; a class is grounded when following its references ends.
-/

namespace DocumentModel

namespace TypeTag

/-- The classes that a field refers to, if its options are those of its tag. -/
def references : TypeTag → TypeOptions → List ClassId
  | .object, .object class? => class?.toList
  | .array, .array items _ | .set, .set items _ => items.toList
  | .map, .map keys values => keys.toList ++ values.toList
  | _, _ => []

/-- Whether options are those of a tag, or left out where a tag needs none. -/
def fits : TypeTag → TypeOptions → Bool
  | .any, .none | .any, .any _ | .raw, .raw _ | .bool, .none | .date, .none | .bigInt, .none
  | .string, .none | .string, .string _ | .number, .none | .number, .number _
  | .enumeration, .enumeration _ | .nativeEnum, .nativeEnum _
  | .object, .none | .object, .object _ | .array, .none | .array, .array .. | .set, .none
  | .set, .set .. | .map, .none | .map, .map .. => true
  | _, _ => false

/-- Only containers refer to classes, and to those of their options. -/
theorem references_subset {tag : TypeTag} {options : TypeOptions} {id : ClassId}
    (h : id ∈ tag.references options) : tag.isContainer = true ∧ id ∈ options.references := by
  unfold references at h
  split at h
  · exact ⟨rfl, h⟩
  · exact ⟨rfl, h⟩
  · exact ⟨rfl, h⟩
  · exact ⟨rfl, h⟩
  · cases h

end TypeTag

/-- **The node of a tag is put together from the nodes of the classes that it refers to.** -/
theorem typeNode_eq (path : String) (tag : TypeTag) (options : TypeOptions) :
    ∃ assemble : List Node → Except SchemaError Node,
      (∀ {m : Type → Type} [Monad m] [LawfulMonad m] [MonadExceptOf SchemaError m]
        (classNode : ClassId → m Node), typeNode classNode path tag options
          = (tag.references options).mapM classNode >>= fun nodes => ofExcept (assemble nodes))
      ∧ (tag.fits options = true → ∀ nodes : List Node,
        nodes.length = (tag.references options).length → ∃ n, assemble nodes = .ok n) := by
  cases tag <;> cases options
  case object.object class? =>
    cases class? with
    | none =>
      exact ⟨fun _ => .ok _, fun _ => by simp [typeNode, TypeTag.references, ofExcept]; rfl,
        fun _ _ _ => ⟨_, rfl⟩⟩
    | some id =>
      refine ⟨fun nodes => .ok (nodes.headD .any), fun classNode => ?_, fun _ _ _ => ⟨_, rfl⟩⟩
      simp [typeNode, TypeTag.references, ofExcept]
  case array.array items bounds =>
    refine ⟨fun nodes => .ok (.ofKind (.array (nodes.headD .any) bounds)), fun classNode => ?_,
      fun _ _ _ => ⟨_, rfl⟩⟩
    cases items <;> simp [typeNode, TypeTag.references, ofExcept, classNodeOrAny]
  case set.set items bounds =>
    refine ⟨fun nodes => .ok (.ofKind (.set (nodes.headD .any) bounds)), fun classNode => ?_,
      fun _ _ _ => ⟨_, rfl⟩⟩
    cases items <;> simp [typeNode, TypeTag.references, ofExcept, classNodeOrAny]
  case map.map keys values =>
    refine ⟨fun nodes => .ok (.mapOf (if keys.isSome then nodes.headD .any else .any)
      (if values.isSome then nodes.getLastD .any else .any)), fun classNode => ?_,
      fun _ _ _ => ⟨_, rfl⟩⟩
    cases keys <;> cases values <;> simp [typeNode, TypeTag.references, ofExcept, classNodeOrAny]
  -- the other pairs refer to no class: the options are those of the tag, or they make it fail
  all_goals first
    | exact ⟨fun _ => .ok _, fun _ => by simp [typeNode, TypeTag.references, ofExcept]; rfl,
        fun _ _ _ => ⟨_, rfl⟩⟩
    | exact ⟨fun _ => .error _, fun _ => by simp [typeNode, TypeTag.references, ofExcept]; rfl,
        fun h => by cases h⟩

/-! ## References of classes -/

namespace Registry

variable {r : Registry} {c d : ClassId}

/-- A field that a class declares stands in the registry under the class. -/
theorem exists_of_mem_declarations {id : ClassId} {field : FieldDeclaration}
    (h : field ∈ r.declarations id) : ∃ entry ∈ r.fields, entry.1 = id ∧ field ∈ entry.2 := by
  unfold declarations declarations? at h
  cases hf : r.fields.find? fun f => f.1 = id with
  | none =>
    rw [hf] at h
    cases h
  | some entry =>
    rw [hf] at h
    have hid := List.find?_some hf
    exact ⟨entry, List.mem_of_find?_eq_some hf, of_decide_eq_true hid, h⟩

/-- The fields of a level refer to a class. -/
def LevelRefers (r : Registry) (level d : ClassId) : Prop :=
  ∃ field ∈ r.declarations level, ∃ tag ∈ field.tag, d ∈ tag.references field.options

/-- A class refers to another one when a declared level of its lineage does. -/
def Refers (r : Registry) (c d : ClassId) : Prop :=
  ∃ lineage, r.lineage c = .ok lineage
    ∧ ∃ level ∈ lineage, level.isBuiltin = false ∧ r.LevelRefers level d

/-- Following the references of a class comes to an end. -/
def Grounded (r : Registry) (c : ClassId) : Prop := Acc (fun d c => r.Refers c d) c

theorem Grounded.intro (h : ∀ d, r.Refers c d → r.Grounded d) : r.Grounded c := Acc.intro c h

theorem Grounded.refers (h : r.Grounded c) (hd : r.Refers c d) : r.Grounded d := Acc.inv h hd

/-- Built-in classes refer to nothing. -/
theorem not_refers_builtin {b : BuiltinClass} : ¬ r.Refers (.builtin b) d := by
  rintro ⟨lineage, hl, level, hm, hb, -⟩
  cases hl
  rw [List.mem_singleton.mp hm] at hb
  cases hb

theorem Grounded.reaches (h : r.Grounded c) (hd : Relation.ReflTransGen r.Refers c d) :
    r.Grounded d := by
  induction hd with
  | refl => exact h
  | tail _ hr ih => exact ih.refers hr

/-- **A grounded class does not come back to itself.** -/
theorem Grounded.not_cycle (h : r.Grounded c) : ¬ Relation.TransGen r.Refers c c := by
  induction h with
  | intro c _ ih =>
    intro hc
    obtain ⟨d, hd, hrest⟩ := Relation.TransGen.head'_iff.mp hc
    exact ih d hd (Relation.TransGen.tail' hrest hd)

/-- So nothing that a grounded class reaches comes back to itself. -/
theorem Grounded.not_reaches_cycle (h : r.Grounded c) :
    ¬ ∃ d, Relation.ReflTransGen r.Refers c d ∧ Relation.TransGen r.Refers d d :=
  fun ⟨_, hd, hcycle⟩ => (h.reaches hd).not_cycle hcycle

end Registry

end DocumentModel
