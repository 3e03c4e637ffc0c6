import DocumentModel.Cli.Command
import DocumentModel.Cli.Tone

/-!
# Help

Help on the program tells how to call it and names the environment variables it looks at. Help on a
command ends with examples. Help in brief leaves these out.
-/

namespace DocumentModel

namespace Cli

/-- Calls of the program under a title. -/
structure Examples where
  title : String
  calls : List String

def CommandName.examples : CommandName → Examples
  | .list => ⟨"List Models", [
    "propschema list                   # Show every registered model",
    "propschema --output json list     # Machine-readable listing"]⟩
  | .schema => ⟨"Print Documents", [
    "propschema schema User                    # $jsonSchema document for User",
    "propschema schema users --with-id         # Look up by collection and declare _id",
    "propschema schema User --validator        # Wrap as a collection validator",
    "propschema schema User --title user       # Set the document title"]⟩
  | .indexes => ⟨"Show Indexes", [
    "propschema indexes User                   # Index descriptions for User",
    "propschema --output json indexes posts    # createIndexes payload for posts"]⟩
  | .check => ⟨"Validate Data", [
    "propschema check User user.json           # Validate one document",
    "propschema check posts export.json        # Validate every document of a JSON array"]⟩

/-- How a command is called. -/
def CommandName.usage : CommandName → String
  | .list => "propschema list"
  | .schema => "propschema schema [--title <TITLE>] [--with-id] [--validator] <MODEL>"
  | .indexes => "propschema indexes <MODEL>"
  | .check => "propschema check <MODEL> <FILE>"

namespace Help

/-- The options in front of a command. -/
def options : String :=
  "[--output <table|json|compact>] [--no-pretty] [-q|--quiet] [-v|--verbose] [--no-color]"

/-- How the program or a command is called. -/
def usage : Option CommandName → List String
  | none => ["Usage: propschema " ++ options ++ " <COMMAND>", "", "Commands:"]
      ++ CommandName.all.map fun c => "  " ++ c.usage
  | some command => ["Usage: " ++ command.usage]

def examples (colored : Bool) (e : Examples) : List String :=
  [Tone.heading.style true colored "Examples:", "  " ++ Tone.heading.style false colored e.title]
    ++ e.calls.map fun call =>
      "    " ++ Tone.trace.style false colored "→" ++ " " ++ Tone.literal.style false colored call

def environment (colored : Bool) : List String := [
  Tone.heading.style true colored "Environment Variables:",
  "  " ++ Tone.literal.style true colored "RUST_LOG" ++ "  Log filter, e.g. propschema=debug",
  "",
  Tone.heading.style true colored "Tip:" ++ " " ++ Tone.trace.style false colored
    "Use 'propschema <command> --help' to view examples for each command."]

/-- The lines of a page of help. -/
def page (topic : Option CommandName) (full colored : Bool) : List String :=
  let more := match topic with
    | none => environment colored
    | some command => examples colored command.examples
  [""] ++ usage topic ++ (if full then "" :: more else []) ++ [""]

end Help

end Cli

end DocumentModel
