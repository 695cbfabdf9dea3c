import PacketSmith.Text.CodePoint

/-!
# Text on a terminal

How many columns a text takes on a terminal. Ideographs, syllables of Hangul, full forms and most
pictures take two columns. Marks that join the character before them, and characters that control
or format, take none. Everything else takes one. The classes are those of the Unicode standard,
version 17.

Two characters act on their neighbours. A joiner makes one picture of the characters around it, so
the character behind it takes no column. The picture selector turns some signs of one column into
pictures of two.

A control sequence tells a terminal what to do: an escape character and an opening bracket, then
parameters, then further signs, and one last sign that says what is asked for. Text that is not
meant for a terminal is written without them.
-/

namespace PacketSmith.Text

/-- Runs of characters that take no column, in ascending order. -/
def narrowRuns : List (Nat × Nat) := runsOf
  "0-20 5F-21 260-70 113-7 107-2D 1 1-2 1-2 1 48-B 1 2E-15 10 65-7 2-6 2-2 1-4 23 1E-1B 5B-B 3A-9 9
18-4 1-9 1-3 1-5 2B-3 3B-9 2A-18 1-21 36-3 1-12 1-7 A-2 1D-3 38 1-7 2-2 2-3 9 A-2 1A 2-3 38 1-5 4-2
2-3 3 1E-2 3 B-3 38 1-8 1-3 1-3 14-2 16-6 1-3 38 1-7 2-2 2-3 7-3 A-2 1E 3B-5 3-3 1-4 9 28-5 37 1-7
1-3 1-4 7-2 B-2 1D-3 38 1-7 1-3 1-4 7-2 B-2 F C-4 37-2 1-7 1-3 1-4 9 A-2 1D-3 46 4-6 1 1-8 12-2 3D
2-7 C-8 62 2-9 B-7 49-2 1B 1 1 4-2 31-14 1-2 5-B 1-24 9 64-14 17-4 4-3 1-3 2-7 3-4 D-C 1 A-4 C2-A0
15D-3 3B2-4 1C-3 1D-2 1E-2 40-20 9 2D-5 75-2 22 76-C 4-C DB-5 39-A 1-1D 2 30-2E 2-C 14-5 2F-11 26-9
C-3 1E-D 38-E 30-14 98-3 1-15 4 6 2-3 C6-40 20B-5 18-7 31-10 60-21 BFE-3 8D 60-20 22A-6 69-2 C9
750A-4 1-A 20-2 50-2 110 3 4 17-5 4 53-2 32-12 1A-12 D 26-8 19-D 2C-4 2F-E 24 43-E C 8-2 2D-3 32 1-3
2-2 5-2 1 29-5 5-2 EC-8 1-2 2BC2-50 231E 2E1-10 10-10 CF A0 4F-C 201 E2 95-5 686-3 1-2 5-4 28-3 4
A5-2 23D-4 41-5 13D-2 4D-6 46-B 31-4 7A-3 35-F 29 2-2 A-4 2D-B 7 3D-3 24-E 10-2 2C C-3 30-E 8-4 1-2
5C-C 6 2 9D-C 15-4 37-2 1-7 2-2 2-3 9 A-2 2-7 3-5 43-9 1 2 1-4 1-5 1 E-2 52-12 17 51-14 EB-7 2-9
1B-2 52-11 6A-D 65-F 100-F F5-6 1-2 2-4 1 1-2 8D-7 2-7 3 1C-A 28-7 1-4 8 9-B 2E-10 C6-8 C7-8 1-8
52-16 1-E 7A-6 3 1-2 1-7 1 42-5 1-2 1-5 15B-4 9-2 1 30-7 3-5 17 14D5-11 6-F 2CC8-12 9C0-5 3B-7 418
1-37 7-4 51 B-2 4CAB-2 1-4 125C-2E 2-17 21E-5 3-16 2-7 1E-4 94-3 7BB-37 4-32 8 E 16-5 1-F 550-7 1-11
2-7 1-2 1-5 64 A0-7 177 3D-4 1FC-4 FE-2 F3 2 7-2 5 1DA-7 6D-7 AB0-5 C0C00-1000"

/-- Runs of characters that take two columns, in ascending order. -/
def wideRuns : List (Nat × Nat) := runsOf
  "1100-60 11BA-2 D-2 BE-4 3 2 209-2 15-2 1A-8 10-C 2B A-6 3 D 8-2 11-2 5-2 8 5 15 7-2 1 4 2 7 4-2
1C 23 1 4-3 1 3D-3 18 E 35B-2 33 4 32A-1A 1-59 C-D6 1A-3A 6-F 2-56 4-65 5-2B 1-33 1-2A 1-56 9-30
1-28 8-723D 3-37 499-1D 283-2BA4 215C-200 310-A 16-23 1-13 1-4 95-60 7F-7 6FF9-4 E-5 9-1CD6 29-20
61-73 21FD-4 1-7 1-2 1-123 F 1D-3 2 E-4 8-18C 2004-57 9-17 1C8D CA BE 2-A 65-3 D-2C 4-9 7-2 E-6
9A-21 C-9 1-46 1-16 C-2B 4-5 C-11 3 3-3 5-3F 1 1-BB 2-3F D-4 1-18 12 1A-2 D 56-55 30-46 6 3-3 2-4
3-4 B-2 7-9 E3-C 4 11B-2F 1-A 1-B9 70-D 3-B 3-39 1 4-10 2-C 4-A 507-FFFE 2-FFFE"

/-- Runs of characters of one column that the picture selector makes wide, in ascending order. -/
def widenedRuns : List (Nat × Nat) := runsOf
  "23 6 5-A 6F 4 1F8D C D8 16 5A-6 F-2 17D A6 1D-3 1-2 5-3 C7 E7-2 A 9 3A-2 3-5 9 2 6 4 2 1-2 2 3
3-2 8-3 5 1 1C-2 2 1-2 1 12 2 13 1-4 1 1-2 3 6 8-2 16 6 1 1 15 6-2 2 2-3 8 5-2 2-2 1 2 1 1 6 3 11-2
F 2 1B-2 3C 192-2 1CF-3 1C668-2 C-2 1A1 2-9 9 46 18-2 1-3 2-2 2B-4 5-C 13 1 1 47 1 BB 4B-2 24-2 2-7
D 2-4 2 14 2 8-2 9 5-3 C-3 8-3 2 1 4 6 3 6 D0 1-3 10-6 3 6 2"

/-- How many columns a character takes. -/
def charWidth (c : Char) : Nat :=
  let n := c.toNat
  if inRuns n narrowRuns then 0
  else if inRuns n wideRuns then 2
  else 1

/-- The character that joins its neighbours into one picture. -/
def joiner : Char := Char.ofNat 0x200D

/-- The character that asks for the character before it to be shown as a picture. -/
def selector : Char := Char.ofNat 0xFE0F

/-- A character that the picture selector makes wide. -/
def isWidened (c : Char) : Bool := inRuns c.toNat widenedRuns

/-- How many columns characters take. `last` is the last character before them that took a column,
unless a selector has been applied to it, and `joined` says that a joiner stands before them. -/
def columnsFrom (last : Option Char) (joined : Bool) : List Char → Nat
  | [] => 0
  | c :: cs =>
    if joined then columnsFrom last false cs
    else if c == joiner then columnsFrom last true cs
    else if c == selector then
      (if last.any isWidened then 1 else 0) + columnsFrom none false cs
    else
      match charWidth c with
      | 0 => columnsFrom last false cs
      | n => n + columnsFrom (some c) false cs

/-- How many columns characters take. -/
def columns (cs : List Char) : Nat := columnsFrom none false cs

/-- How many columns a text takes. -/
def width (s : String) : Nat := columns s.toList

/-- The character that control sequences start with. -/
def escapeChar : Char := Char.ofNat 0x1B

/-- What follows the control sequence whose bracket stands before the characters, if it ends. -/
def sequenceEnd? (cs : List Char) : Option (List Char) :=
  match (cs.dropWhile fun c => '0' ≤ c && c ≤ '?').dropWhile fun c => ' ' ≤ c && c ≤ '/' with
  | [] => none
  | c :: rest => if '@' ≤ c && c ≤ '~' then some rest else none

/-- The characters without control sequences. Every step takes a character at least, so as many
steps are enough as there are characters. -/
def dropSequencesFrom : (steps : Nat) → List Char → List Char
  | 0, cs => cs
  | _ + 1, [] => []
  | steps + 1, c :: cs =>
    let following := if c == escapeChar && cs.head? == some '[' then sequenceEnd? cs.tail else none
    match following with
    | some rest => dropSequencesFrom steps rest
    | none => c :: dropSequencesFrom steps cs

/-- The text without control sequences. -/
def dropSequences (s : String) : String :=
  String.ofList (dropSequencesFrom s.length s.toList)

end PacketSmith.Text
