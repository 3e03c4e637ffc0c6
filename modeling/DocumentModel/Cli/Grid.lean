/-!
# Tables with borders

A table has a header and rows of as many cells. Every column is as wide as its widest cell, with a
blank on either side. A `Frame` says how borders are drawn, and whether there are lines between
rows.
-/

namespace DocumentModel

namespace Cli

/-- A horizontal line: its left end, its fill, what stands between columns, and its right end. -/
structure Rule where
  left : String
  fill : String
  between : String
  right : String

structure Frame where
  top : Rule
  /-- Below the header. -/
  header : Rule
  /-- Between rows. -/
  rows : Option Rule
  bottom : Rule
  /-- At both ends of a row. -/
  border : String
  /-- Between cells. -/
  divider : String

namespace Frame

/-- Box-drawing characters, with double lines below the header and no lines between rows. -/
def box : Frame where
  top := ⟨"┌", "─", "┬", "┐"⟩
  header := ⟨"╞", "═", "╪", "╡"⟩
  rows := none
  bottom := ⟨"└", "─", "┴", "┘"⟩
  border := "│"
  divider := "┆"

/-- Characters of every keyboard, with lines between rows. -/
def ascii : Frame where
  top := ⟨"+", "-", "+", "+"⟩
  header := ⟨"+", "=", "=", "+"⟩
  rows := some ⟨"|", "-", "+", "|"⟩
  bottom := ⟨"+", "-", "+", "+"⟩
  border := "|"
  divider := "|"

end Frame

/-- A horizontal line over columns. -/
def Rule.draw (r : Rule) (widths : List Nat) : String :=
  r.left ++ r.between.intercalate (widths.map fun w => String.join (List.replicate (w + 2) r.fill))
    ++ r.right

structure Grid where
  header : List String
  rows : List (List String)

namespace Grid

/-- The width of each column. -/
def widths (g : Grid) : List Nat :=
  g.rows.foldl (fun widths row => widths.zipWith (fun w cell => max w cell.length) row)
    (g.header.map String.length)

/-- A cell with a blank on either side, filled up to a width. -/
def cell (width : Nat) (text : String) : String :=
  " " ++ text ++ String.join (List.replicate (width - text.length) " ") ++ " "

def line (frame : Frame) (widths : List Nat) (cells : List String) : String :=
  frame.border ++ frame.divider.intercalate (widths.zipWith cell cells) ++ frame.border

/-- The lines of a table. -/
def lines (g : Grid) (frame : Frame) : List String :=
  let widths := g.widths
  let rows := g.rows.map (line frame widths)
  let ruled := match frame.rows with
    | some rule => rows.intersperse (rule.draw widths)
    | none => rows
  [frame.top.draw widths, line frame widths g.header, frame.header.draw widths] ++ ruled
    ++ [frame.bottom.draw widths]

end Grid

end Cli

end DocumentModel
