import DocumentModel.Cli.Arguments

/-!
# Commands

What the arguments of the program ask for: one of four commands with the options that apply to all
of them, or help, or the version.
-/

namespace DocumentModel

namespace Cli

/-- How the result of a command is laid out. -/
inductive Format
  | table
  | json
  | compact
  deriving DecidableEq, Repr

namespace Format

def all : List Format := [.table, .json, .compact]

def name : Format → String
  | .table => "table"
  | .json => "json"
  | .compact => "compact"

def ofName? (name : String) : Option Format := all.find? fun f => f.name == name

end Format

inductive CommandName
  | list
  | schema
  | indexes
  | check
  deriving DecidableEq, Repr

namespace CommandName

def all : List CommandName := [.list, .schema, .indexes, .check]

def name : CommandName → String
  | .list => "list"
  | .schema => "schema"
  | .indexes => "indexes"
  | .check => "check"

def ofName? (name : String) : Option CommandName := all.find? fun c => c.name == name

/-- The arguments of a command. The file to check must have a name. -/
def grammar : CommandName → Grammar
  | .list => {}
  | .schema =>
    { switches := [{ name := "with-id" }, { name := "validator" }]
      settings := [{ name := "title" }]
      operands := [fun _ => true] }
  | .indexes => { operands := [fun _ => true] }
  | .check => { operands := [fun _ => true, fun file => !file.isEmpty] }

end CommandName

inductive Command
  | list
  /-- The document of a model. -/
  | schema (model : String) (title : Option String) (withId validator : Bool)
  | indexes (model : String)
  /-- The check of the documents in a file. -/
  | check (model file : String)
  deriving DecidableEq, Repr

/-- A command with the options in front of it. -/
structure Invocation where
  format : Option Format
  oneLine : Bool
  quiet : Bool
  verbose : Bool
  plain : Bool
  command : Command
  deriving DecidableEq, Repr

inductive Request
  | run (invocation : Invocation)
  /-- Help on the program or on a command, in full or in brief. -/
  | help (topic : Option CommandName) (full : Bool)
  | version
  | misuse
  deriving DecidableEq, Repr

/-- The options in front of a command. -/
def programGrammar : Grammar where
  switches := [{ name := "no-pretty" }, { name := "quiet", letter := some 'q' },
    { name := "verbose", letter := some 'v' }, { name := "no-color" }]
  settings := [{ name := "output", accepts := fun value => (Format.ofName? value).isSome }]
  commands := CommandName.all.map CommandName.name ++ ["help"]
  tellsVersion := true

namespace Command

/-- The command that arguments spell out. -/
def ofArguments (a : Arguments) : CommandName → Command
  | .list => .list
  | .schema =>
    .schema (a.operands.headD "") (a.setting? "title") (a.has "with-id") (a.has "validator")
  | .indexes => .indexes (a.operands.headD "")
  | .check => .check (a.operands.headD "") (a.operands.getD 1 "")

end Command

namespace Request

def ofStop (topic : Option CommandName) : Stop → Request
  | .help full => .help topic full
  | .version => .version
  | .misuse => .misuse

/-- Help that is asked for by command, perhaps on another command. -/
def ofHelp : List String → Request
  | [] => .help none true
  | ["help"] => .help none false
  | [name] => match CommandName.ofName? name with
    | some command => .help (some command) true
    | none => .misuse
  | _ => .misuse

/-- The invocation of a command. The options in front of it are looked at last. -/
def ofCommand (before : Arguments) (name : CommandName) (arguments : List String) : Request :=
  match name.grammar.readAll arguments with
  | .error stop => ofStop (some name) stop
  | .ok a =>
    match before.settle with
    | .error stop => ofStop none stop
    | .ok before =>
      .run {
        format := (before.setting? "output").bind Format.ofName?
        oneLine := before.has "no-pretty"
        quiet := before.has "quiet"
        verbose := before.has "verbose"
        plain := before.has "no-color"
        command := Command.ofArguments a name }

/-- What the arguments of the program ask for. Without a command they ask for nothing. -/
def ofArguments (arguments : List String) : Request :=
  match programGrammar.read {} arguments with
  | .error stop => ofStop none stop
  | .ok (_, none) => .misuse
  | .ok (before, some (name, rest)) =>
    match CommandName.ofName? name with
    | some command => ofCommand before command rest
    | none => ofHelp rest

end Request

end Cli

end DocumentModel
