import PacketSmith.Text.Lines

/-!
# Styled text

A text together with the spans of it that have a style. Operations on a styled text move the spans
along with the characters that they cover. The ends of the spans divide the text into pieces, and
each piece is shown on its own.
-/

namespace PacketSmith

/-- A stretch of a text with a style. -/
structure Span where
  /-- How many characters stand before it. -/
  start : Nat
  /-- How many characters stand before its end. -/
  stop : Nat
  /-- The words of the style; a style of actions has none. -/
  style : Option String
deriving DecidableEq, Repr

/-- A text with spans. -/
structure StyledText where
  /-- The characters. -/
  chars : List Char
  /-- The spans. -/
  spans : List Span := []
deriving DecidableEq, Repr

/-- A span moved to the right. -/
def Span.shift (n : Nat) (s : Span) : Span := { s with start := s.start + n, stop := s.stop + n }

namespace StyledText

/-- The number of characters. -/
def length (t : StyledText) : Nat := t.chars.length

/-- The characters from one place to another, with what their spans cover of them. -/
def slice (t : StyledText) (first last : Nat) : StyledText where
  chars := (t.chars.drop first).take (last - first)
  spans := t.spans.filterMap fun s =>
    let start := s.start - first
    let stop := min s.stop last - first
    if start < stop then some ⟨start, stop, s.style⟩ else none

/-- The text divided at places. Without places it stays whole. -/
def divide (t : StyledText) (places : List Nat) : List StyledText :=
  if places.isEmpty then [t]
  else ((0 :: places).zip (places ++ [t.length])).map fun (first, last) => t.slice first last

/-- The places where a character stands. -/
def placesOf (c : Char) (t : StyledText) : List Nat :=
  t.chars.zipIdx.filterMap fun (d, i) => if d == c then some i else none

/-- The lines of the text, without the line feeds between them. -/
def lines (t : StyledText) : List StyledText :=
  let ends := t.placesOf '\n'
  if ends.isEmpty then [t]
  else ((0 :: ends.map (· + 1)).zip (ends ++ [t.length])).map fun (first, last) =>
    t.slice first last

/-- A text behind another one. -/
def append (t u : StyledText) : StyledText :=
  ⟨t.chars ++ u.chars, t.spans ++ u.spans.map (Span.shift t.length)⟩

/-- The first characters, with what their spans cover of them. -/
def keep (n : Nat) (t : StyledText) : StyledText where
  chars := t.chars.take n
  spans := t.spans.filterMap fun s =>
    if s.start < n then some { s with stop := min n s.stop } else none

/-- Other characters in the place of the text's own. The spans stay where they are, cut at the end
of the text if it has become shorter. -/
def replace (t : StyledText) (chars : List Char) : StyledText :=
  if chars.length < t.length then { t.keep chars.length with chars := chars }
  else { t with chars := chars }

/-- The text without the blanks at its end. -/
def trimEnd (t : StyledText) : StyledText := t.replace (Text.dropEndBlanks t.chars)

/-- The text behind some spaces. -/
def indent (n : Nat) (t : StyledText) : StyledText :=
  ⟨Text.spaces n ++ t.chars, t.spans.map (Span.shift n)⟩

/-- The text with some spaces at its end, outside of its spans. -/
def pad (n : Nat) (t : StyledText) : StyledText := { t with chars := t.chars ++ Text.spaces n }

/-- The text with some spaces at its end, which the spans that reach its end cover too. -/
def extend (n : Nat) (t : StyledText) : StyledText where
  chars := t.chars ++ Text.spaces n
  spans := t.spans.map fun s => if t.length ≤ s.stop then { s with stop := s.stop + n } else s

/-- A span starts or ends at a place. -/
def hasEndAt (t : StyledText) (n : Nat) : Bool := t.spans.any fun s => s.start == n || s.stop == n

/-- The pieces that the ends of the spans divide the text into. -/
def pieces (t : StyledText) : List (List Char) :=
  (t.divide ((List.range t.length).filter fun n => 0 < n && t.hasEndAt n)).map StyledText.chars

end StyledText
end PacketSmith
