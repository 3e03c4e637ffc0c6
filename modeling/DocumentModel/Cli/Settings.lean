import DocumentModel.Cli.Command
import DocumentModel.Toml.Reader

/-!
# Settings

What a settings file may decide: in its section `schema` how documents are made, in its section
`output` how results are shown. Settings that are absent have defaults, and entries with other names
are skipped. A section may also be an array of its settings in order; a date has none.
-/

namespace DocumentModel

namespace Cli

structure Settings where
  withId : Bool := false
  titleFromName : Bool := false
  format : Format := .table
  pretty : Bool := true

namespace Settings

/-- The name of a settings file. -/
def fileName : String := "propschema.toml"

/-! ## Values -/

def boolean? : Toml → Option Bool
  | .boolean value => some value
  | _ => none

/-- A format is named by a text, or by the only key of a table, whose value is empty. -/
def format? : Toml → Option Format
  | .string name => Format.ofName? name
  | .table _ [(name, .table _ [])] | .table _ [(name, .array [])] => Format.ofName? name
  | _ => none

/-- The value of a setting if it is given, else a default. -/
def valueOr {α : Type} (decode : Toml → Option α) (default : α) : Option Toml → Option α
  | none => some default
  | some value => decode value

/-! ## Sections -/

/-- The value of a setting of a section, by its name or its place. -/
def entry? (section? : Option Toml) (name : String) (place : Nat) : Option (Option Toml) :=
  match section? with
  | none | some .dateTime => some none
  | some (.table _ entries) => some (Toml.find? name entries)
  | some (.array items) => some items[place]?
  | some (.tables elements) => some (elements[place]?.map (Toml.table .declared))
  | some _ => none

/-- The settings in a file, if all that it says on them makes sense. -/
def ofToml? (file : Toml.Entries) : Option Settings := do
  let schema := Toml.find? "schema" file
  let output := Toml.find? "output" file
  let withId ← valueOr boolean? false (← entry? schema "with_id" 0)
  let titleFromName ← valueOr boolean? false (← entry? schema "title_from_name" 1)
  let format ← valueOr format? .table (← entry? output "format" 0)
  let pretty ← valueOr boolean? true (← entry? output "pretty" 1)
  pure ⟨withId, titleFromName, format, pretty⟩

def read? (text : String) : Option Settings := (Toml.read? text).bind ofToml?

end Settings

end Cli

end DocumentModel
