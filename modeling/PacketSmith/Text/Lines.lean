/-!
# Blanks and lines

The characters that count as blank, text without the blanks around it, and the words between blanks.
The blanks are the separators of the Unicode standard, the tabulation and line controls, and the
four information separators U+001C to U+001F. The zero-width characters are no blanks.

A line ends at a line feed, a carriage return (the two together are one end), a vertical tab, a form
feed, one of the separators U+001C to U+001E, or at U+0085, U+2028 or U+2029. The last line need not
have an end, and an end at the end of the text starts no further line.
-/

namespace PacketSmith.Text

/-- The character is blank. -/
def isBlank (c : Char) : Bool :=
  let n := c.toNat
  (0x09 ≤ n && n ≤ 0x0D) || (0x1C ≤ n && n ≤ 0x20) || n == 0x85 || n == 0xA0 || n == 0x1680 ||
    (0x2000 ≤ n && n ≤ 0x200A) || n == 0x2028 || n == 0x2029 || n == 0x202F || n == 0x205F ||
    n == 0x3000

/-- Some spaces. -/
def spaces (n : Nat) : List Char := List.replicate n ' '

/-- A text of some spaces. -/
def blanks (n : Nat) : String := String.ofList (spaces n)

/-- The characters without the blanks at their end. -/
def dropEndBlanks (cs : List Char) : List Char :=
  (cs.reverse.dropWhile isBlank).reverse

/-- The text without the blanks at its end. -/
def trimEnd (s : String) : String :=
  String.ofList (dropEndBlanks s.toList)

/-- The text without the blanks at its start and at its end. -/
def trim (s : String) : String :=
  String.ofList (dropEndBlanks (s.toList.dropWhile isBlank))

/-- The words between blanks, where `current` is the word begun so far, last character first. -/
def wordsFrom (current : List Char) : List Char → List (List Char)
  | [] => if current.isEmpty then [] else [current.reverse]
  | c :: cs =>
    if !isBlank c then wordsFrom (c :: current) cs
    else if current.isEmpty then wordsFrom [] cs
    else current.reverse :: wordsFrom [] cs

/-- The words of a text, without the blanks around them. -/
def words (s : String) : List String := (wordsFrom [] s.toList).map String.ofList

/-- The character ends a line. -/
def isLineEnd (c : Char) : Bool :=
  let n := c.toNat
  (0x0A ≤ n && n ≤ 0x0D) || (0x1C ≤ n && n ≤ 0x1E) || n == 0x85 || n == 0x2028 || n == 0x2029

/-- The lines of the characters, where `current` is the line begun so far, last character first. -/
def linesFrom (current : List Char) : List Char → List (List Char)
  | [] => if current.isEmpty then [] else [current.reverse]
  | '\r' :: '\n' :: rest => current.reverse :: linesFrom [] rest
  | c :: rest =>
    if isLineEnd c then current.reverse :: linesFrom [] rest else linesFrom (c :: current) rest

/-- The lines of a text, without their ends. -/
def lines (s : String) : List String :=
  (linesFrom [] s.toList).map String.ofList

/-- The characters with each carriage return, alone or before a line feed, turned into a line feed.
-/
def unifyLineEndsList : List Char → List Char
  | [] => []
  | '\r' :: '\n' :: rest => '\n' :: unifyLineEndsList rest
  | '\r' :: rest => '\n' :: unifyLineEndsList rest
  | c :: rest => c :: unifyLineEndsList rest

/-- The text with each carriage return, alone or before a line feed, turned into a line feed. -/
def unifyLineEnds (s : String) : String :=
  String.ofList (unifyLineEndsList s.toList)

/-- The characters without the carriage returns that stand before a line feed. -/
def dropReturnsList : List Char → List Char
  | [] => []
  | '\r' :: '\n' :: rest => '\n' :: dropReturnsList rest
  | c :: rest => c :: dropReturnsList rest

/-- The text without the carriage returns that stand before a line feed. -/
def dropReturns (s : String) : String := String.ofList (dropReturnsList s.toList)

end PacketSmith.Text
