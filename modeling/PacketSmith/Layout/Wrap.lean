import PacketSmith.Layout.StyledText
import PacketSmith.Text.Cluster

/-!
# Wrapped text

A text is laid out in lines of a width. It is broken at its line feeds, and between words where the
next word would not fit. A word that fits no line stands on a line of its own and is cut, and an
ellipsis shows the cut. Tabs reach to the next multiple of eight columns.
-/

namespace PacketSmith.StyledText

/-! ## Tabs -/

/-- The distance of tab stops. -/
def tabSize : Nat := 8

/-- The parts of a line up to each tab, with the spaces of the tab in its place, from a column on.
-/
def expandParts (column : Nat) : List StyledText → StyledText
  | [] => ⟨[], []⟩
  | p :: ps =>
    if p.chars.getLast? == some '\t' then
      let spaced := { p with chars := p.chars.dropLast ++ [' '] }
      let column := column + Text.columns spaced.chars
      let rest := if column % tabSize == 0 then 0 else tabSize - column % tabSize
      (spaced.extend rest).append (expandParts (column + rest) ps)
    else p.append (expandParts (column + Text.columns p.chars) ps)

/-- A line with spaces in the place of its tabs. -/
def expandTabs (t : StyledText) : StyledText :=
  let tabs := t.placesOf '\t'
  if tabs.isEmpty then t
  else
    let parts := t.divide (tabs.map (· + 1))
    expandParts 0 (if t.chars.getLast? == some '\t' then parts.dropLast else parts)

/-! ## Breaks -/

/-- The words of a line with the blanks behind each, and before the first one. `current` is the word
begun so far, last character first, `seen` says that it has a character that is no blank, and `gap`
that blanks follow that. -/
def spacedWords (current : List Char) (seen gap : Bool) : List Char → List (List Char)
  | [] => if seen then [current.reverse] else []
  | c :: cs =>
    if Text.isBlank c then spacedWords (c :: current) seen seen cs
    else if gap then current.reverse :: spacedWords [c] true false cs
    else spacedWords (c :: current) true false cs

/-- The places where a line is broken: before each word that the line has no room for. `start` is
the place of the first word and `used` how many columns of the line are taken before it. -/
def breaksFrom (width start used : Nat) : List (List Char) → List Nat
  | [] => []
  | w :: ws =>
    let next := start + w.length
    let size := Text.columns (Text.dropEndBlanks w)
    if used + size ≤ width then breaksFrom width next (used + Text.columns w) ws
    else if start == 0 then breaksFrom width next (Text.columns w) ws
    else start :: breaksFrom width next (Text.columns w) ws

/-- The places where a line is broken to fit a width. -/
def breaks (width : Nat) (t : StyledText) : List Nat :=
  breaksFrom width 0 0 (spacedWords [] false false t.chars)

/-! ## Lines of a width -/

/-- The line without the blanks at its end by which it has more characters than a number. -/
def dropExcessBlanks (n : Nat) (t : StyledText) : StyledText :=
  let blank := t.length - (Text.dropEndBlanks t.chars).length
  let excess := min blank (t.length - n)
  if excess == 0 then t else t.keep (t.length - excess)

/-- The line cut to a width. An ellipsis stands in the last column of a line that has been cut. -/
def cut (width : Nat) (t : StyledText) : StyledText :=
  if width < Text.columns t.chars then
    t.replace (Text.setColumns (width - 1) t.chars ++ [Char.ofNat 0x2026])
  else t

/-- The line cut and filled to a width, at its left or right edge. -/
def justify (toRight : Bool) (width : Nat) (t : StyledText) : StyledText :=
  if toRight then
    let t := t.trimEnd.cut width
    t.indent (width - Text.columns t.chars)
  else
    let rest := width - Text.columns t.chars
    (t.cut width).pad rest

/-- The lines of a text for a width. -/
def wrap (toRight : Bool) (width : Nat) (t : StyledText) : List StyledText :=
  t.lines.flatMap fun line =>
    let line := line.expandTabs
    (line.divide (line.breaks width)).map fun part =>
      (part.dropExcessBlanks width).justify toRight width

/-! ## Lines as they are shown -/

/-- The columns of pieces, each measured on its own. -/
def piecesColumns (ps : List (List Char)) : Nat := ps.foldl (fun n p => n + Text.columns p) 0

/-- The pieces cut to a number of columns. -/
def cutPieces (n : Nat) : List (List Char) → List (List Char)
  | [] => []
  | p :: ps =>
    let size := Text.columns p
    if size < n then p :: cutPieces (n - size) ps else [Text.setColumns n p]

/-- The pieces filled or cut to a number of columns. -/
def fitPieces (n : Nat) (ps : List (List Char)) : List (List Char) :=
  let size := piecesColumns ps
  if size < n then ps ++ [Text.spaces (n - size)]
  else if n < size then cutPieces n ps
  else ps

end PacketSmith.StyledText
