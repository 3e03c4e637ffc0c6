import DocumentModel.Cli.Help
import DocumentModel.Cli.Host
import DocumentModel.Cli.Report
import DocumentModel.Cli.Settings
import DocumentModel.Json.Reader

/-!
# Running the program

`run` carries out what the arguments ask for and answers what is printed. Settings come from the
nearest settings file, in the current directory or one that it is in; arguments go before settings.
A command ends at the first thing that fails.
-/

namespace DocumentModel

namespace Cli

def version : String := "0.1.0"

/-- A computation that ends early with the outcome of a failure. -/
abbrev Attempt := Except Outcome

/-! ## Models -/

/-- Looks a model up by its name, then by its collection. -/
def findModel (key : String) : Attempt Bundle.Registration :=
  match Bundle.find? key with
  | some registration => .ok registration
  | none =>
    .error (.failed ("Unknown model '" ++ key ++ "'. Registered models: "
      ++ ", ".intercalate (Bundle.registrations.map (·.name))))

def compileModel (r : Bundle.Registration) : Attempt Model :=
  match Bundle.model r.type with
  | .ok model => .ok model
  | .error e => .error (.failed ("Failed to compile model " ++ r.name ++ ": " ++ e.message))

/-! ## Commands -/

def runList (c : Console) : Attempt Outcome := do
  let summaries ← Bundle.registrations.mapM fun r => do
    let model ← compileModel r
    let fields := (model.node.shape?.map List.length).getD 0
    pure (⟨r.name, r.collection, fields, model.indexes.length⟩ : ModelSummary)
  if summaries.isEmpty then pure (c.notice "No models are registered.")
  else pure (c.heading "Registered Models" ++ c.display (modelsDisplay summaries))

def runSchema (c : Console) (settings : Settings) (key : String) (title : Option String)
    (withId validator : Bool) : Attempt Outcome := do
  let r ← findModel key
  let model ← compileModel r
  let title := title <|> (if settings.titleFromName then some model.name else none)
  match model.document? title with
  | .error e => .error (.failed ("Failed to translate model " ++ model.name ++ ": " ++ e.message))
  | .ok document =>
    let document := if withId || settings.withId then document.withId else document
    pure (c.trace (model.name ++ " -> collection " ++ r.collection)
      ++ c.json (if validator then document.validator else document.written))

def runIndexes (c : Console) (key : String) : Attempt Outcome := do
  let r ← findModel key
  let model ← compileModel r
  if model.indexes.isEmpty then pure (c.notice (r.name ++ " declares no indexes."))
  else
    pure (c.heading ("Indexes on " ++ r.collection) ++ c.display (indexesDisplay model.indexes))

/-- Checks the document in a file, or the documents if it holds an array. -/
def checkText (c : Console) (model : Model) (file text : String) : Attempt Outcome :=
  match Json.read? text with
  | none => .error (.failed (file ++ " is not valid JSON: one value is expected"))
  | some value =>
    let documents := match value with
      | .array documents => documents
      | document => [document]
    let report := CheckReport.ofDocuments model documents
    if report.issues.isEmpty then
      .ok (c.success (toString report.documents ++ " document(s) match " ++ report.model))
    else
      .ok (c.display report.display
        ++ c.error (toString report.issues.length ++ " issue(s) found in " ++ file)
        ++ .failed "Validation failed")

/-- The outcome of an attempt, failed or not. -/
def settle : Attempt Outcome → Outcome
  | .ok outcome => outcome
  | .error outcome => outcome

section

variable {m : Type → Type} [Monad m]

def runCheck (h : Host m) (c : Console) (key file : String) : m Outcome := do
  match findModel key >>= compileModel with
  | .error outcome => pure outcome
  | .ok model =>
    match ← h.readText file with
    | .error e => pure (.failed ("Failed to read " ++ file ++ ": " ++ e.message))
    | .ok text => pure (settle (checkText c model file text))

def runCommand (h : Host m) (c : Console) (settings : Settings) : Command → m Outcome
  | .list => pure (settle (runList c))
  | .schema key title withId validator =>
    pure (settle (runSchema c settings key title withId validator))
  | .indexes key => pure (settle (runIndexes c key))
  | .check key file => runCheck h c key file

/-! ## Settings and colors -/

/-- The settings with the path of their file, or the defaults if there is no file. -/
def loadSettings (h : Host m) : m (Attempt (Option String × Settings)) := do
  let candidates := (ancestors (← h.currentDirectory)).map (fileIn · Settings.fileName)
  match ← candidates.findM? h.isFile with
  | none => pure (.ok (none, {}))
  | some path =>
    match ← h.readText path with
    | .error e => pure (.error (.failed ("Failed to read " ++ path ++ ": " ++ e.message)))
    | .ok text =>
      match Settings.read? text with
      | none => pure (.error (.failed ("Failed to parse " ++ path ++ ": settings are expected")))
      | some settings => pure (.ok (some path, settings))

/-- Colors are on only where they are asked for, because output need not go to a terminal. -/
def wantsColors (h : Host m) : m Bool := do
  pure ((← h.lookUp? "CLICOLOR_FORCE").any (· != "0"))

/-- In help, colors can also be refused. -/
def helpWantsColors (h : Host m) : m Bool := do
  let refused := (← h.lookUp? "NO_COLOR").any (· != "")
  pure ((← wantsColors h) && !refused)

def runInvocation (h : Host m) (i : Invocation) : m Outcome := do
  match ← loadSettings h with
  | .error outcome => pure outcome
  | .ok (path, settings) =>
    let console : Console := {
      format := i.format.getD settings.format
      quiet := i.quiet
      verbose := i.verbose
      plain := i.plain
      pretty := settings.pretty && !i.oneLine
      colored := (← wantsColors h) && !i.plain }
    let before := match path with
      | some path => console.trace ("using " ++ path)
      | none => {}
    let outcome ← runCommand h console settings i.command
    pure (before ++ outcome)

/-! ## The program -/

/-- Carries out what the arguments ask for. -/
def run (h : Host m) (arguments : List String) : m Outcome := do
  match Request.ofArguments arguments with
  | .misuse => pure { errors := [""] ++ Help.usage none ++ [""], code := 2 }
  | .version => pure { output := ["", "propschema " ++ version, ""] }
  | .help topic full => pure { output := Help.page topic full (← helpWantsColors h) }
  | .run invocation => runInvocation h invocation

end

end Cli

end DocumentModel
