/-!
# Command-line arguments

A command has switches, settings with a value, and operands, which `read` takes from left to right.
Arguments in front of the name of a command belong to what is in front of it, the others to the
command.

The value of a setting that is an argument of its own, and every operand, is looked at only when the
next option or operand is read or the arguments end. So a request for help behind a bad value is a
misuse within one command, but a request for help behind the name of a command is still answered.
-/

namespace DocumentModel

namespace Cli

/-- An option without a value, known by its name and perhaps a letter. -/
structure Switch where
  name : String
  letter : Option Char := none

/-- An option with a value. -/
structure Setting where
  name : String
  accepts : String → Bool := fun _ => true

/-- The arguments that are understood at one place. -/
structure Grammar where
  switches : List Switch := []
  settings : List Setting := []
  /-- What each operand may be. -/
  operands : List (String → Bool) := []
  /-- The names of commands, which end what is read here. -/
  commands : List String := []
  tellsVersion : Bool := false

/-- What ends the reading at once. -/
inductive Stop
  /-- A request for help, in full or in brief. -/
  | help (full : Bool)
  | version
  | misuse
  deriving DecidableEq, Repr

/-- A value that has not been looked at. -/
inductive Pending
  | nothing
  | value (setting : Setting) (value : Option String)
  | operand (accepts : String → Bool) (value : String)

/-- The arguments read so far. -/
structure Arguments where
  switches : List String := []
  settings : List (String × String) := []
  operands : List String := []
  pending : Pending := .nothing

namespace Arguments

def has (a : Arguments) (switch : String) : Bool := a.switches.contains switch

def setting? (a : Arguments) (name : String) : Option String := a.settings.lookup name

/-- Adds a setting, which may be given only once and must have an acceptable value. -/
def addSetting (a : Arguments) (setting : Setting) (value : String) : Except Stop Arguments :=
  if setting.accepts value && (a.setting? setting.name).isNone then
    .ok { a with settings := a.settings ++ [(setting.name, value)] }
  else .error .misuse

/-- Adds a switch, which may be given only once. -/
def addSwitch (a : Arguments) (switch : Switch) : Except Stop Arguments :=
  if a.has switch.name then .error .misuse
  else .ok { a with switches := a.switches ++ [switch.name] }

/-- Looks at the value that is pending. -/
def settle (a : Arguments) : Except Stop Arguments :=
  let settled := { a with pending := .nothing }
  match a.pending with
  | .nothing => .ok settled
  | .value _ none => .error .misuse
  | .value setting (some value) => settled.addSetting setting value
  | .operand accepts value =>
    if accepts value then .ok { settled with operands := a.operands ++ [value] } else .error .misuse

end Arguments

namespace Grammar

/-- The name and the attached value of an option `name=value`. -/
def splitOption (text : List Char) : String × Option String :=
  match text.dropWhile (· != '=') with
  | _ :: value => (String.ofList (text.takeWhile (· != '=')), some (String.ofList value))
  | [] => (String.ofList text, none)

/-- Reads an option by its name. -/
def readLong (g : Grammar) (a : Arguments) (text : List Char) : Except Stop Arguments := do
  let a ← a.settle
  let (name, attached) := splitOption text
  match g.switches.find? (·.name == name), g.settings.find? (·.name == name), attached with
  | some switch, _, none => a.addSwitch switch
  | none, some setting, some value => a.addSetting setting value
  | none, some setting, none => .ok { a with pending := .value setting none }
  | none, none, none =>
    if name = "help" then .error (.help true)
    else if name = "version" && g.tellsVersion then .error .version
    else .error .misuse
  | _, _, _ => .error .misuse

/-- Reads options by their letters. -/
def readLetters (g : Grammar) : Arguments → List Char → Except Stop Arguments
  | a, [] => .ok a
  | a, c :: rest => do
    let a ← a.settle
    match g.switches.find? (·.letter == some c) with
    | some switch =>
      let a ← a.addSwitch switch
      readLetters g a rest
    | none =>
      if c = 'h' then .error (.help false)
      else if c = 'V' && g.tellsVersion then .error .version
      else .error .misuse

/-- Reads an operand, which must not be one too many. -/
def readOperand (g : Grammar) (a : Arguments) (value : String) : Except Stop Arguments := do
  let a ← a.settle
  match g.operands[a.operands.length]? with
  | some accepts => .ok { a with pending := .operand accepts value }
  | none => .error .misuse

/-- Reads operands only. -/
def readOperands (g : Grammar) : Arguments → List String → Except Stop Arguments
  | a, [] => .ok a
  | a, value :: rest => do
    let a ← g.readOperand a value
    readOperands g a rest

/-- Whether an argument has the form of an option: a hyphen with something behind it. -/
def isOption (argument : String) : Bool :=
  match argument.toList with
  | '-' :: _ :: _ => true
  | _ => false

/-- Reads one argument that is neither the name of a command nor `--`. -/
def readOne (g : Grammar) (a : Arguments) (argument : String) : Except Stop Arguments :=
  match a.pending with
  | .value setting none =>
    if isOption argument then .error .misuse
    else .ok { a with pending := .value setting (some argument) }
  | _ =>
    match argument.toList with
    | '-' :: '-' :: text => g.readLong a text
    | '-' :: c :: letters => g.readLetters a (c :: letters)
    | _ => g.readOperand a argument

/-- Whether the value of a setting comes next. -/
def awaitsValue (a : Arguments) : Bool := a.pending matches .value _ none

/-- Reads arguments up to the name of a command, which is returned with the arguments behind it. -/
def read (g : Grammar) : Arguments → List String →
    Except Stop (Arguments × Option (String × List String))
  | a, [] => .ok (a, none)
  | a, argument :: rest =>
    if !awaitsValue a && g.commands.contains argument then .ok (a, some (argument, rest))
    else if argument = "--" then
      if awaitsValue a then .error .misuse else (·, none) <$> g.readOperands a rest
    else do
      let a ← g.readOne a argument
      read g a rest

/-- Reads all arguments of a command without commands of its own. -/
def readAll (g : Grammar) (arguments : List String) : Except Stop Arguments := do
  let (a, _) ← g.read {} arguments
  let a ← a.settle
  if a.operands.length = g.operands.length then .ok a else .error .misuse

end Grammar

end Cli

end DocumentModel
