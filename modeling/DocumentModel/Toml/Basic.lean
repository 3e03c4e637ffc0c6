import DocumentModel.Json.Basic

/-!
# Configuration values

The values of a configuration file in TOML. A table remembers how it came about, because that
decides whether more may be added to it: `assign` follows a dotted key, `declare` and
`declareElement` the header of a table, and all of them fail where something would be defined twice.
-/

namespace DocumentModel

/-- How a table came about. -/
inductive TableForm
  /-- By a header of its own. -/
  | declared
  /-- By the headers of tables inside it. -/
  | implied
  /-- By dotted keys. -/
  | dotted
  /-- In braces, which leaves it closed. -/
  | inline
  deriving DecidableEq, Repr

inductive Toml
  | string (value : String)
  | integer (value : Int)
  | float (value : Binary64)
  | boolean (value : Bool)
  | dateTime
  | array (items : List Toml)
  | table (form : TableForm) (entries : List (String × Toml))
  /-- An array of tables, each with a header. -/
  | tables (elements : List (List (String × Toml)))

namespace Toml

/-- The entries of a table, in no particular order, with every key once. -/
abbrev Entries := List (String × Toml)

def find? (key : String) (entries : Entries) : Option Toml := Json.findField? key entries

/-- Puts an entry in place of the one with its key, or behind all others. -/
def put (key : String) (value : Toml) : Entries → Entries
  | [] => [(key, value)]
  | (k, v) :: rest => if k = key then (k, value) :: rest else (k, v) :: put key value rest

/-- Changes the last element of a list. -/
def changeLast? {α : Type} (change : α → Option α) : List α → Option (List α)
  | [] => none
  | [a] => (fun b => [b]) <$> change a
  | a :: rest => (a :: ·) <$> changeLast? change rest

/-- Adds an entry at a dotted key. It must be new, and the table it is in must not have a header. -/
def assign (key : String) (value : Toml) : List String → Entries → Option Entries
  | [], entries => if (find? key entries).isSome then none else some (put key value entries)
  | k :: path, entries =>
    match find? k entries with
    | none => (fun inner => put k (.table .dotted inner) entries) <$> assign key value path []
    | some (.table .dotted inner) =>
      (fun inner => put k (.table .dotted inner) entries) <$> assign key value path inner
    | some (.table .implied inner) =>
      if path.isEmpty then none
      else (fun inner => put k (.table .implied inner) entries) <$> assign key value path inner
    | some (.tables elements) =>
      if path.isEmpty then none
      else (fun elements => put k (.tables elements) entries)
        <$> changeLast? (assign key value path) elements
    | some _ => none

/-- Changes the entries of the table that headers name; of an array of tables the last counts. -/
def within (change : Entries → Option Entries) : List String → Entries → Option Entries
  | [], entries => change entries
  | k :: path, entries =>
    match find? k entries with
    | none => (fun inner => put k (.table .implied inner) entries) <$> within change path []
    | some (.table .inline _) => none
    | some (.table form inner) =>
      (fun inner => put k (.table form inner) entries) <$> within change path inner
    | some (.tables elements) =>
      (fun elements => put k (.tables elements) entries)
        <$> changeLast? (within change path) elements
    | some _ => none

/-- Declares a table, which must be new or known only through tables inside it. -/
def declare (key : String) (entries : Entries) : Option Entries :=
  match find? key entries with
  | none => some (put key (.table .declared []) entries)
  | some (.table .implied inner) => some (put key (.table .declared inner) entries)
  | some _ => none

/-- Adds an element to an array of tables, which may be new. -/
def declareElement (key : String) (entries : Entries) : Option Entries :=
  match find? key entries with
  | none => some (put key (.tables [[]]) entries)
  | some (.tables elements) => some (put key (.tables (elements ++ [[]])) entries)
  | some _ => none

/-! ## Statements -/

/-- A line of a file. A path is not empty. -/
inductive Statement
  | header (path : List String)
  | elementHeader (path : List String)
  | pair (path : List String) (value : Toml)

/-- The entries read so far, and the header that is in force. -/
structure Progress where
  entries : Entries := []
  header : List String := []

def Progress.add? (d : Progress) : Statement → Option Progress
  | .header path => do
    let entries ← within (declare (path.getLastD "")) path.dropLast d.entries
    pure ⟨entries, path⟩
  | .elementHeader path => do
    let entries ← within (declareElement (path.getLastD "")) path.dropLast d.entries
    pure ⟨entries, path⟩
  | .pair path value => do
    let entries ← within (assign (path.getLastD "") value path.dropLast) d.header d.entries
    pure { d with entries := entries }

/-- The entries that the lines of a file define. -/
def ofStatements? (statements : List Statement) : Option Entries :=
  (statements.foldlM Progress.add? {}).map Progress.entries

end Toml

end DocumentModel
