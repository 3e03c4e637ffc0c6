import DocumentModel.Cli.Run

/-!
# The program on a real host
-/

namespace DocumentModel

namespace Cli

/-- Why reading a file fails, in the words of the host. -/
def fileError : IO.Error → FileError
  | .noFileOrDirectory .. => .missing
  | .inappropriateType _ code details =>
    if code = 20 then .notDirectory else if code = 21 then .isDirectory else .other details
  | e => .other e.toString

/-- Files, variables and the current directory of the process. -/
def processHost : Host IO where
  currentDirectory := do pure (← IO.currentDir).toString
  isFile path := do
    try
      discard (IO.FS.readFile path)
      pure true
    catch _ => pure false
  readText path := do
    try pure (.ok (← IO.FS.readFile path))
    catch e => pure (.error (fileError e))
  lookUp? name := IO.getEnv name

end Cli

end DocumentModel

open DocumentModel.Cli in
def main (arguments : List String) : IO UInt32 := do
  let outcome ← run processHost arguments
  outcome.output.forM IO.println
  outcome.errors.forM fun line => IO.eprintln line
  pure outcome.code.toUInt32
