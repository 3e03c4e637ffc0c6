import DocumentModel.Class.Error

/-!
# Registries

A registry knows the built-in classes, the classes declared in it, and the fields declared for
classes. A class can have one base, which is older: it has a smaller number. So following bases
comes to an end.

Fields are kept in the order in which they were first mentioned, and each part of a declaration is
the one given last.
-/

namespace DocumentModel

/-- A declared class. -/
structure ClassEntry where
  number : Nat
  name : String
  base : Option ClassId
  base_lt : ∀ n, base = some (.declared n) → n < number

structure Registry where
  classes : List ClassEntry := []
  fields : List (ClassId × List FieldDeclaration) := []
  /-- The classes of the document types that have been resolved. -/
  documents : List (String × ClassId) := []

namespace Registry

/-! ## Classes -/

/-- The entry of a declared class. -/
def entry? (r : Registry) (number : Nat) : Option ClassEntry :=
  r.classes.find? fun e => e.number == number

def contains (r : Registry) : ClassId → Bool
  | .builtin _ => true
  | .declared number => (r.entry? number).isSome

def className? (r : Registry) : ClassId → Option String
  | .builtin c => some c.name
  | .declared number => (r.entry? number).map (·.name)

/-- The name of a class, or its number if the registry does not know it. -/
def displayName (r : Registry) (id : ClassId) : String := (r.className? id).getD id.text

def base? (r : Registry) : ClassId → Option ClassId
  | .builtin _ => none
  | .declared number => (r.entry? number).bind (·.base)

/-- The entry that is found for a number has this number. -/
theorem number_of_entry? {r : Registry} {number : Nat} {e : ClassEntry}
    (h : r.entry? number = some e) : e.number = number := by
  simpa using List.find?_some h

/-- A declared class, followed by its ancestors; each is older than the one before. The recursion is
on the numbers, and not structural: a lineage that is written out is evaluated with all definitions
unfolded. -/
def declaredLineage (r : Registry) (number : Nat) : Except SchemaError (List ClassId) :=
  match h : r.entry? number with
  | none => .error (.unknownClass (.declared number))
  | some e =>
    match hb : e.base with
    | none => .ok [.declared number]
    | some (.builtin c) => .ok [.declared number, .builtin c]
    | some (.declared n) =>
      have : n < number := number_of_entry? h ▸ e.base_lt n hb
      match declaredLineage r n with
      | .ok ancestors => .ok (.declared number :: ancestors)
      | .error e => .error e
termination_by number

/-- A class followed by its ancestors, the nearest first. -/
def lineage (r : Registry) : ClassId → Except SchemaError (List ClassId)
  | .builtin c => .ok [.builtin c]
  | .declared number => r.declaredLineage number

/-- The next free number, for a class with a name and perhaps a base. -/
def define? (r : Registry) (numbers : ClassNumbers) (name : String) (base : Option ClassId) :
    Except SchemaError (ClassId × Registry × ClassNumbers) :=
  let number := numbers.next
  let add := fun (e : ClassEntry) =>
    (ClassId.declared number, { r with classes := r.classes ++ [e] }, { next := number + 1 })
  match base with
  | none => .ok (add ⟨number, name, none, by simp⟩)
  | some (.builtin c) => .ok (add ⟨number, name, some (.builtin c), by simp⟩)
  | some (.declared n) =>
    if h : r.contains (.declared n) ∧ n < number then
      .ok (add ⟨number, name, some (.declared n), by simp [h.2]⟩)
    else .error (.unknownBase (.declared n) name)

/-! ## Fields -/

/-- The declarations of a class, in the order in which its fields were first mentioned. -/
def declarations? (r : Registry) (id : ClassId) : Option (List FieldDeclaration) :=
  (r.fields.find? fun f => f.1 = id).map Prod.snd

def declarations (r : Registry) (id : ClassId) : List FieldDeclaration :=
  (r.declarations? id).getD []

/-- Changes the declaration of a field, which is added if it is not there. -/
def updateField (change : FieldDeclaration → FieldDeclaration) (field : String) :
    List FieldDeclaration → List FieldDeclaration
  | [] => [change { name := field }]
  | d :: rest => if d.name = field then change d :: rest else d :: updateField change field rest

/-- Changes the declarations of a class. -/
def updateClass (change : List FieldDeclaration → List FieldDeclaration) (id : ClassId) :
    List (ClassId × List FieldDeclaration) → List (ClassId × List FieldDeclaration)
  | [] => [(id, change [])]
  | (c, ds) :: rest =>
    if c = id then (c, change ds) :: rest else (c, ds) :: updateClass change id rest

def update (r : Registry) (id : ClassId) (field : String)
    (change : FieldDeclaration → FieldDeclaration) : Registry :=
  { r with fields := updateClass (updateField change field) id r.fields }

def setType (r : Registry) (id : ClassId) (field : String) (tag : TypeTag) (options : TypeOptions) :
    Registry :=
  r.update id field fun d => { d with tag := some tag, options := options }

def setDetails (r : Registry) (id : ClassId) (field : String) (details : FieldDetails) : Registry :=
  r.update id field fun d => { d with details := some details }

def setIndex (r : Registry) (id : ClassId) (field : String) (index : IndexSpec) : Registry :=
  r.update id field fun d => { d with index := some index }

end Registry

end DocumentModel
