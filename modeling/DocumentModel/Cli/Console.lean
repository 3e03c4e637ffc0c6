import DocumentModel.Cli.Command
import DocumentModel.Cli.Grid
import DocumentModel.Cli.Tone
import DocumentModel.Json.Printer

/-!
# Printed results

A result is laid out as a table, as JSON or in compact form. A quiet console prints nothing but
errors; a plain one has no colors, underlines headings and draws tables with the characters of every
keyboard.
-/

namespace DocumentModel

namespace Cli

/-- The lines printed as output and as errors, and the exit code. -/
structure Outcome where
  output : List String := []
  errors : List String := []
  code : Nat := 0

namespace Outcome

/-- One outcome after another; the last code counts. -/
def append (first second : Outcome) : Outcome :=
  ⟨first.output ++ second.output, first.errors ++ second.errors, second.code⟩

instance : Append Outcome := ⟨append⟩

/-- The outcome of a failure with a message. -/
def failed (message : String) : Outcome := { errors := ["Error: " ++ message], code := 1 }

end Outcome

structure Console where
  format : Format
  quiet : Bool
  verbose : Bool
  plain : Bool
  pretty : Bool
  colored : Bool

/-- A result in its three layouts. -/
structure Display where
  table : Grid
  json : Json
  compact : String

namespace Console

def print (c : Console) (lines : List String) : Outcome :=
  if c.quiet then {} else { output := lines }

def json (c : Console) (value : Json) : Outcome :=
  c.print [if c.pretty then value.pretty else value.compact]

def display (c : Console) (d : Display) : Outcome :=
  match c.format with
  | .json => c.json d.json
  | .table => c.print (d.table.lines (if c.plain then .ascii else .box))
  | .compact => c.print [d.compact]

def success (c : Console) (message : String) : Outcome :=
  c.print [Tone.pass.paint c.colored message]

def notice (c : Console) (message : String) : Outcome :=
  c.print [Tone.notice.paint c.colored message]

/-- Errors are printed by a quiet console too. -/
def error (c : Console) (message : String) : Outcome :=
  { errors := [Tone.fail.paint c.colored message] }

/-- What is told only on request. -/
def trace (c : Console) (message : String) : Outcome :=
  if c.verbose && !c.quiet then { errors := [Tone.trace.paint c.colored message] } else {}

def heading (c : Console) (text : String) : Outcome :=
  if c.plain then c.print ["", text, String.ofList (List.replicate text.length '=')]
  else c.print ["", Tone.heading.paint c.colored text]

end Console

end Cli

end DocumentModel
