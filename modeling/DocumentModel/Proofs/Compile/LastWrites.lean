import Mathlib.Data.List.Induction
import DocumentModel.Proofs.Compile.Declared
import DocumentModel.Proofs.Schema.Shapes

/-!
# What sessions declare

Commands give types, details and indexes to the fields of classes, in any order. The declarations
that a class ends up with have one entry for every field that was mentioned, in the order of first
mention, and in it what was given last of each (`Session.declarations_of_last_writes`).
-/

namespace DocumentModel

/-! ## Changes to a list of declarations -/

namespace Registry

/-- A change to a field changes its entry, which is put at the end where there is none. -/
theorem updateField_map {change : FieldDeclaration → FieldDeclaration} {field : String}
    {declaration : String → FieldDeclaration} {names : List String} (hnd : names.Nodup)
    (hname : ∀ name, (declaration name).name = name) :
    updateField change field (names.map declaration) = if field ∈ names
      then names.map fun name =>
        if name = field then change (declaration name) else declaration name
      else names.map declaration ++ [change { name := field }] := by
  induction names with
  | nil => rfl
  | cons name rest ih =>
    obtain ⟨hnot, hrest⟩ := List.nodup_cons.mp hnd
    rw [List.map_cons, updateField, hname]
    by_cases he : name = field
    · subst he
      have hsame : (rest.map fun other =>
          if other = name then change (declaration other) else declaration other)
            = rest.map declaration :=
        List.map_congr_left fun other hother => if_neg fun he : other = name => hnot (he ▸ hother)
      rw [if_pos rfl, if_pos List.mem_cons_self, List.map_cons, if_pos rfl, hsame]
    · rw [if_neg he, ih hrest]
      by_cases hm : field ∈ rest
      · rw [if_pos hm, if_pos (List.mem_cons_of_mem _ hm), List.map_cons, if_neg he]
      · rw [if_neg hm, if_neg (by simp [Ne.symm he, hm])]
        rfl

end Registry

namespace Session

/-! ## What a command says -/

namespace Command

/-- The field of a class that a command is about. -/
def field? (id : ClassId) : Command → Option String
  | .setType level field _ _ | .setDetails level field _ | .setIndex level field _ =>
    if level = id then some field else none
  | .define .. | .ask _ => none

/-- The type that a command gives to a field of a class. -/
def type? (id : ClassId) (name : String) : Command → Option (TypeTag × TypeOptions)
  | .setType level field tag options =>
    if level = id ∧ field = name then some (tag, options) else none
  | _ => none

/-- The details that a command gives to a field of a class. -/
def details? (id : ClassId) (name : String) : Command → Option FieldDetails
  | .setDetails level field details => if level = id ∧ field = name then some details else none
  | _ => none

/-- The index that a command gives to a field of a class. -/
def index? (id : ClassId) (name : String) : Command → Option IndexSpec
  | .setIndex level field index => if level = id ∧ field = name then some index else none
  | _ => none

/-- What a command does to the declaration of its field. -/
def change : Command → FieldDeclaration → FieldDeclaration
  | .setType _ _ tag options, d => { d with tag := some tag, options := options }
  | .setDetails _ _ details, d => { d with details := some details }
  | .setIndex _ _ index, d => { d with index := some index }
  | .define _ _, d | .ask _, d => d

variable {id : ClassId} {name : String} {command : Command}

/-- A command about another field, or about a field of another class, gives this field nothing. -/
theorem gives_nothing (h : command.field? id ≠ some name) : command.type? id name = none
    ∧ command.details? id name = none ∧ command.index? id name = none := by
  cases command with
  | define | ask => exact ⟨rfl, rfl, rfl⟩
  | setType | setDetails | setIndex =>
    simp only [field?, type?, details?, index?, and_self, true_and, and_true] at h ⊢
    refine if_neg fun hm => h ?_
    rw [if_pos hm.1, hm.2]

end Command

/-! ## What commands say -/

variable {id : ClassId} {name : String} {commands : List Command}

/-- The fields of a class in the order in which commands mention them first. -/
def mentioned (id : ClassId) (commands : List Command) : List String :=
  (commands.filterMap (·.field? id)).eraseDups

/-- What commands give to a field last: its type, its details and its index. -/
def declaration (id : ClassId) (commands : List Command) (name : String) : FieldDeclaration :=
  let type? := (commands.filterMap (·.type? id name)).getLast?
  { name := name
    tag := type?.map Prod.fst
    options := (type?.map Prod.snd).getD .none
    details := (commands.filterMap (·.details? id name)).getLast?
    index := (commands.filterMap (·.index? id name)).getLast? }

theorem nodup_mentioned : (mentioned id commands).Nodup := Shape.nodup_eraseDups _

theorem mentioned_concat (command : Command) :
    mentioned id (commands ++ [command]) = match command.field? id with
      | none => mentioned id commands
      | some field => if field ∈ mentioned id commands then mentioned id commands
        else mentioned id commands ++ [field] := by
  rw [mentioned, List.filterMap_append]
  cases h : command.field? id with
  | none => simp [h, mentioned]
  | some field => simp [h, mentioned, Shape.eraseDups_concat]

/-- What a command gives is given last, whatever was given before. -/
theorem getLast?_filterMap_concat {α : Type} (give : Command → Option α) (command : Command) :
    ((commands ++ [command]).filterMap give).getLast?
      = (give command).or (commands.filterMap give).getLast? := by
  rw [List.filterMap_append]
  cases h : give command <;> simp [h]

/-- One more command changes the declaration of its field, and no other one. -/
theorem declaration_concat (command : Command) (name : String) :
    declaration id (commands ++ [command]) name = if command.field? id = some name
      then command.change (declaration id commands name) else declaration id commands name := by
  split
  · next h =>
    cases command with
    | define | ask => cases h
    | setType | setDetails | setIndex =>
      simp only [Command.field?, Option.ite_none_right_eq_some, Option.some.injEq] at h
      obtain ⟨rfl, rfl⟩ := h
      simp only [declaration, getLast?_filterMap_concat]
      simp only [Command.type?, Command.details?, Command.index?, Command.change, and_self, if_true,
        Option.some_or, Option.none_or, Option.map_some, Option.getD_some]
  · next h =>
    obtain ⟨ht, hd, hi⟩ := Command.gives_nothing h
    simp only [declaration, getLast?_filterMap_concat, ht, hd, hi, Option.none_or]

theorem declaration_of_notMem (h : name ∉ mentioned id commands) :
    declaration id commands name = { name := name } := by
  have hnothing : ∀ command ∈ commands, command.field? id ≠ some name := by
    intro command hm he
    exact h (List.mem_eraseDups.mpr (List.mem_filterMap.mpr ⟨command, hm, he⟩))
  have ht : commands.filterMap (·.type? id name) = [] := List.filterMap_eq_nil_iff.mpr
    fun command hm => (Command.gives_nothing (hnothing command hm)).1
  have hd : commands.filterMap (·.details? id name) = [] := List.filterMap_eq_nil_iff.mpr
    fun command hm => (Command.gives_nothing (hnothing command hm)).2.1
  have hi : commands.filterMap (·.index? id name) = [] := List.filterMap_eq_nil_iff.mpr
    fun command hm => (Command.gives_nothing (hnothing command hm)).2.2
  simp [declaration, ht, hd, hi]

/-! ## What sessions keep of it -/

/-- What one command does to the declarations of a class. -/
theorem declarations?_step (s : Session) (command : Command) :
    (s.step command).registry.declarations? id = match command.field? id with
      | none => s.registry.declarations? id
      | some field => some (Registry.updateField command.change field (s.registry.declarations id))
    := by
  have hupdate : ∀ (level : ClassId) (field : String)
      (change : FieldDeclaration → FieldDeclaration),
      (s.registry.update level field change).declarations? id = if level = id
        then some (Registry.updateField change field (s.registry.declarations id))
        else s.registry.declarations? id := by
    intro level field change
    refine (Registry.findClass?_updateClass _ s.registry.fields).trans ?_
    by_cases h : level = id
    · subst h
      rw [if_pos rfl, if_pos rfl]
      rfl
    · rw [if_neg h, if_neg (Ne.symm h)]
      rfl
  cases command with
  | define name base =>
    rw [step]
    split
    · next hd =>
      obtain ⟨e, -, -, -, -, -, rfl, -⟩ := Registry.exists_of_define? hd
      rfl
    · rfl
  | setType level field | setDetails level field | setIndex level field =>
    refine (hupdate level field _).trans ?_
    by_cases h : level = id
    · simp only [Command.field?, if_pos h]
      rfl
    · simp only [Command.field?, if_neg h]
  | ask request => rfl

/-- A class that no entry is kept for declares nothing. -/
theorem declarations_of_declarations? {registry : Registry} {names : List String}
    {entry : String → FieldDeclaration} (h : registry.declarations? id = if names = [] then none
      else some (names.map entry)) : registry.declarations id = names.map entry := by
  rw [Registry.declarations, h]
  split
  · next hnil => rw [hnil]; rfl
  · rfl

/-- **The declarations of a class after commands**: one for every field that was mentioned, with
what was given last. -/
theorem declarations?_run (numbers : ClassNumbers) (commands : List Command) (id : ClassId) :
    ((start {} numbers).run commands).registry.declarations? id = if mentioned id commands = []
      then none else some ((mentioned id commands).map (declaration id commands)) := by
  induction commands using List.reverseRecOn with
  | nil => rfl
  | append_singleton commands command ih =>
    have hdeclared := declarations_of_declarations? ih
    rw [run_append, run_cons, run_nil, declarations?_step, mentioned_concat]
    cases hfield : command.field? id with
    | none =>
      have hsame : declaration id (commands ++ [command]) = declaration id commands := by
        funext name
        rw [declaration_concat, hfield, if_neg (Option.some_ne_none name).symm]
      rw [hsame]
      exact ih
    | some field =>
      have hlater : declaration id (commands ++ [command]) = fun name => if name = field
          then command.change (declaration id commands name) else declaration id commands name := by
        funext name
        rw [declaration_concat, hfield]
        simp only [Option.some.injEq, eq_comm]
      have hname : ∀ name, (declaration id commands name).name = name := fun _ => rfl
      simp only [hdeclared, Registry.updateField_map nodup_mentioned hname]
      by_cases hm : field ∈ mentioned id commands
      · simp only [if_pos hm, if_neg (List.ne_nil_of_mem hm), hlater]
      · have hnil : mentioned id commands ++ [field] ≠ [] := by simp
        have hold : (mentioned id commands).map (declaration id (commands ++ [command]))
            = (mentioned id commands).map (declaration id commands) := by
          rw [hlater]
          exact List.map_congr_left fun name hmem => if_neg fun he : name = field => hm (he ▸ hmem)
        have hnew :
            declaration id (commands ++ [command]) field = command.change { name := field } := by
          rw [declaration_concat, if_pos hfield, declaration_of_notMem hm]
        simp only [if_neg hm, if_neg hnil, List.map_append, List.map_singleton, hold, hnew]

theorem declarations_run (numbers : ClassNumbers) (commands : List Command) (id : ClassId) :
    ((start {} numbers).run commands).registry.declarations id
      = (mentioned id commands).map (declaration id commands) :=
  declarations_of_declarations? (declarations?_run numbers commands id)

/-- A command that gives nothing may be left out. -/
theorem filterMap_append_cons_of_none {α : Type} {give : Command → Option α} {command : Command}
    (early later : List Command) (h : give command = none) :
    (early ++ command :: later).filterMap give = (early ++ later).filterMap give := by
  rw [List.filterMap_append, List.filterMap_append, List.filterMap_cons_none h]

/-- **Each part of a declaration is the one given last.** A class declares the fields that commands
mention, each once and in the order of first mention, with the type, the details and the index that
were given last, if any. So a command changes nothing of a part that it does not give. -/
theorem declarations_of_last_writes (numbers : ClassNumbers) (commands : List Command)
    (id : ClassId) :
    ((start {} numbers).run commands).registry.declarations? id
        = (if mentioned id commands = [] then none
          else some ((mentioned id commands).map (declaration id commands)))
      ∧ (mentioned id commands).Nodup
      ∧ ∀ early command later, commands = early ++ command :: later →
        ∀ d ∈ ((start {} numbers).run commands).registry.declarations id,
        ∀ d' ∈ ((start {} numbers).run (early ++ later)).registry.declarations id,
          d.name = d'.name →
            (command.type? id d.name = none → d.tag = d'.tag ∧ d.options = d'.options)
            ∧ (command.details? id d.name = none → d.details = d'.details)
            ∧ (command.index? id d.name = none → d.index = d'.index) := by
  refine ⟨declarations?_run numbers commands id, nodup_mentioned, ?_⟩
  rintro early command later rfl d hd d' hd' hname
  rw [declarations_run] at hd hd'
  obtain ⟨name, -, rfl⟩ := List.mem_map.mp hd
  obtain ⟨name', -, rfl⟩ := List.mem_map.mp hd'
  obtain rfl : name = name' := hname
  refine ⟨fun h => ?_, fun h => ?_, fun h => ?_⟩
  · have ht := congrArg List.getLast? (filterMap_append_cons_of_none early later h)
    exact ⟨congrArg (Option.map Prod.fst) ht, congrArg (fun t => (t.map Prod.snd).getD .none) ht⟩
  · exact congrArg List.getLast? (filterMap_append_cons_of_none early later h)
  · exact congrArg List.getLast? (filterMap_append_cons_of_none early later h)

/-- The details of a name are given before its type, and again after the index of another field. -/
example : ((start {} {}).run [.setDetails (.declared 64) "name" { optional := true },
      .setType (.declared 64) "name" .bool .none,
      .setIndex (.declared 64) "email" { unique := true },
      .setDetails (.declared 64) "name" { nullable := true }]).registry.declarations (.declared 64)
    = [{ name := "name", tag := some .bool, details := some { nullable := true } },
      { name := "email", index := some { unique := true } }] := by
  rfl

end Session

end DocumentModel
