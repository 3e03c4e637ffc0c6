/-!
# Tones of printed lines

A tone is what a line is about. It decides the color of the line and the mark in front of it; a line
without mark is bold. Without colors the text remains.
-/

namespace DocumentModel

namespace Cli

inductive Tone
  | pass
  | fail
  /-- Nothing to show. -/
  | notice
  /-- What is told only on request. -/
  | trace
  | heading
  /-- What can be typed. -/
  | literal
  deriving DecidableEq, Repr

namespace Tone

/-- The number of the foreground color. -/
def color : Tone → String
  | .pass => "32"
  | .fail => "31"
  | .notice => "33"
  | .trace => "90"
  | .heading => "36"
  | .literal => "35"

def mark? : Tone → Option String
  | .pass => some "✓"
  | .fail => some "✗"
  | .notice => some "!"
  | .trace => some "→"
  | .heading | .literal => none

/-- A text in the color of a tone. -/
def style (tone : Tone) (bold colored : Bool) (text : String) : String :=
  if colored then
    "\x1b[" ++ (if bold then "1;" else "") ++ tone.color ++ "m" ++ text ++ "\x1b[0m"
  else text

/-- A line with the mark of its tone. The mark and the text are colored apart. -/
def paint (tone : Tone) (colored : Bool) (text : String) : String :=
  match tone.mark? with
  | some mark => tone.style false colored mark ++ " " ++ tone.style false colored text
  | none => tone.style true colored text

end Tone

end Cli

end DocumentModel
