import PacketSmith.Layout.Wrap
import PacketSmith.Markup.Reader

/-!
# Tables

A table has a row of headings and a row for each list of cells, which are marked text. A column is
as wide as its widest cell, its heading included, and two spaces follow every column, the last one
too. A table that would be too wide is made narrower: the widest columns first, down to the width of
the next one. A row has as many lines as its highest cell.
-/

namespace PacketSmith.Layout

/-- A column of a table. -/
structure Column where
  /-- What stands above it. -/
  heading : String
  /-- Its cells end at the right edge, not start at the left one. -/
  toRight : Bool := false
deriving DecidableEq, Repr

/-- How many columns of characters a table may take. -/
def tableLimit : Nat := 2000

/-- How many spaces follow a cell. -/
def cellGap : Nat := 2

/-! ## Widths -/

/-- The width of a cell: that of its widest line. -/
def cellWidth (t : StyledText) : Nat :=
  (Text.linesFrom [] t.chars).foldl (fun n line => max n (Text.columns line)) 0

/-- The width that the cells of a column ask for, with the spaces behind them. -/
def columnWidth (cells : List StyledText) : Nat :=
  cells.foldl (fun n t => max n (min tableLimit (cellWidth t + cellGap))) 0

/-- The quotient rounded to the nearest number, and to the even one of two. -/
def roundQuotient (a b : Nat) : Nat :=
  let q := a / b
  if 2 * (a % b) < b then q
  else if b < 2 * (a % b) then q + 1
  else q + q % 2

/-- The widths with those equal to `top` made narrower by `excess` in all, by at most `most` each.
`count` is how many of them are left. -/
def narrowTop (top most : Nat) (excess count : Nat) : List Nat → List Nat
  | [] => []
  | w :: ws =>
    if w == top && 0 < count then
      let less := min most (roundQuotient excess count)
      (w - less) :: narrowTop top most (excess - less) (count - 1) ws
    else w :: narrowTop top most excess count ws

/-- The total of widths. -/
def total (widths : List Nat) : Nat := widths.foldl (fun n w => n + w) 0

/-- The widest of widths. -/
def widest (widths : List Nat) : Nat := widths.foldl max 0

/-- The widths made narrower until their total is no more than the limit. Every step takes one
column of characters at least, so the excess at the start is enough `fuel`. -/
def narrow (limit : Nat) : Nat → List Nat → List Nat
  | 0, widths => widths
  | fuel + 1, widths =>
    let excess := total widths - limit
    if excess == 0 then widths
    else
      let top := widest widths
      let next := widest (widths.filter (· != top))
      narrow limit fuel
        (narrowTop top (min excess (top - next)) excess (widths.count top) widths)

/-- The widths that fit the table's limit. -/
def fitWidths (widths : List Nat) : List Nat :=
  narrow tableLimit (total widths - tableLimit) widths

/-! ## Rows -/

/-- The styles of the spans can be looked up. -/
def checkStyles (t : StyledText) : Except Fault Unit :=
  t.spans.forM fun s =>
    match s.style with
    | some words => do
      let _ ← Markup.Style.read words
    | none => .ok ()

/-- A line of a cell of a width, followed by the gap. The line is fitted to the width without the
gap, and once more together with it, since cutting may leave it short. -/
def cellLine (width : Nat) (line : StyledText) : List Char :=
  let filled := StyledText.fitPieces (width - cellGap) line.pieces
  (StyledText.fitPieces width (filled ++ [Text.spaces cellGap])).flatten

/-- The lines of a cell of a width, each followed by the gap. -/
def cellLines (toRight : Bool) (width : Nat) (t : StyledText) :
    Except Fault (List (List Char)) := do
  let lines := t.wrap toRight (width - cellGap)
  lines.forM checkStyles
  return lines.map (cellLine width)

/-- Lines below each other side by side with others, all of them as high as the highest. -/
def rowLines (cells : List (Nat × List (List Char))) : List String :=
  let height := widest (cells.map fun c => c.2.length)
  (List.range height).map fun i =>
    String.ofList (cells.flatMap fun (width, lines) => lines.getD i (Text.spaces width))

/-- A column with all its cells, the heading first. -/
structure FilledColumn where
  /-- Its cells end at the right edge. -/
  toRight : Bool
  /-- The heading and the cells. -/
  cells : List StyledText

/-- A column filled with marked text. -/
def Column.fill (c : Column) (cells : List String) : Except Fault FilledColumn := do
  let texts ← (c.heading :: cells).mapM Markup.read
  return ⟨c.toRight, texts⟩

/-- The columns of a table filled with its rows, column by column. -/
def fillColumns (columns : List Column) (rows : List (List String)) :
    Except Fault (List FilledColumn) :=
  columns.zipIdx.mapM fun (c, i) => c.fill (rows.map (·.getD i ""))

/-- The lines of a row of filled columns with their widths. -/
def tableRow (columns : List (FilledColumn × Nat)) (i : Nat) : Except Fault (List String) := do
  let cells ← columns.mapM fun (c, width) => do
    let lines ← cellLines c.toRight width (c.cells.getD i ⟨[], []⟩)
    return (width, lines)
  return rowLines cells

/-- The lines of a table. -/
def tableLines (columns : List Column) (rows : List (List String)) :
    Except Fault (List String) := do
  let filled ← fillColumns columns rows
  let widths := fitWidths (filled.map fun c => columnWidth c.cells)
  let lines ← (List.range (rows.length + 1)).mapM (tableRow (filled.zip widths))
  return lines.flatten

end PacketSmith.Layout
