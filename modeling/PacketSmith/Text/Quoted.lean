import PacketSmith.Text.CodePoint

/-!
# Quoted text

Text between quotation marks, so that its ends and its unprintable characters can be seen. The mark
is the apostrophe, unless the text has an apostrophe and no double mark. The mark and the backslash
are written with a backslash before them; a tabulation, line feed or carriage return as `\t`, `\n`
or `\r`; any other unprintable character as `\x`, `\u` or `\U` and two, four or eight hexadecimal
digits, whichever is the first to hold its code point.

A character is printable when it stands for itself in quoted text: letters, marks, numbers, signs,
and the plain space (Unicode 14). Controls, unassigned code points, private use and every other
separator are not printable.
-/

namespace PacketSmith.Text

/-- Runs of printable characters behind those of ASCII, in ascending order. -/
def printableRuns : List (Nat × Nat) := runsOf
  "A1-C 1-2CA 2-6 4-7 1 1-14 1-18D 1-26 2-32 2-3 1-37 8-1B 4-6 11-16 1-C0 1-30 2-3B 2-65 E-3B 2-31
2-F 1-1C 2 1-B 5-1F 9-4A 1-A1 1-8 2-2 2-16 1-7 1 3-4 2-9 2-2 2-4 8 4-2 1-5 2-19 2-3 1-6 4-2 2-16 1-7
1-2 1-2 1-2 2 1-5 4-2 2-3 3 7-4 1 7-11 A-3 1-9 1-3 1-16 1-7 1-2 1-5 2-A 1-3 1-3 2 F-4 2-C 7-7 1-3
1-8 2-2 2-16 1-7 1-2 1-5 2-9 2-2 2-3 7-3 4-2 1-5 2-12 A-2 1-6 3-3 1-4 3-2 1 1-2 3-2 3-3 3-C 4-5 3-3
1-4 2 6 E-15 5-D 1-3 1-17 1-10 2-9 1-3 1-4 7-2 1-3 2 2-4 2-A 7-16 1-3 1-17 1-A 1-5 2-9 1-3 1-4 7-2
6-2 1-4 2-A 1-2 D-D 1-3 1-33 1-3 1-6 4-10 2-1A 1-3 1-12 3-18 1-9 1 2-7 3 4-6 1 1-8 6-A 2-3 C-3A 4-1D
25-2 1 1-5 1-18 1 1-17 2-5 1 1-6 2-A 2-4 20-48 1-24 4-27 1-24 1-F 1-D 25-C6 1 5 2-179 1-4 2-7 1 1-4
2-29 1-4 2-21 1-4 2-7 1 1-4 2-F 1-39 1-4 2-43 2-20 3-1A 6-56 2-6 2-280 1-1C 3-59 7-16 9-18 9-14 C-D
1-3 1-2 C-5E 2-A 6-A 6-E 1-B 6-59 7-2B 5-46 A-1F 1-C 4-C 4 3-2A 2-5 B-2C 4-1A 6-B 3-3E 2-41 1-1D 2-B
6-A 6-E 2-1F 31-4D 3-2F 1-74 8-3C 3-F 3-3C 7-2B 2-B 8-2B 5-216 2-6 2-26 2-6 2-8 1 1 1 1-1F 2-35 1-F
1-E 2-6 1-13 2-3 1-9 11-18 8-2F 11-2 2-1B 1-D 3-21 F-21 F-8C 4-297 19-B 15-714 2-20 1-15D 5-2D 1 5
2-38 7-2 E-18 9-7 1-7 1-7 1-7 1-7 1-7 1-7 1-7 1-7E 22-1A 1-59 C-D6 1A-C 5-3F 1-56 2-67 5-2B 1-5E
1-54 C-2F 1-726D 3-37 9-15C 14-B8 8-CB 5-2 1 1-5 18-3B 3-A 6-38 8-46 8-C 6-74 B-1E 3-4E 1-B 4-21
1-37 9-E 2-A 2-67 18-1C A-6 2-6 2-6 9-7 1-7 1-3C 4-7E 2-A 6-2BA4 C-17 4-31 2104-16E 2-6A 26-7 C-5
5-1A 1-5 1 1-2 1-2 1-7D 10-1BD 2-36 7 20-2A 6-33 1-13 1-4 4-5 1-87 4-BE 3-6 2-6 2-6 2-3 3-7 1-7 D-2
2-C 1-1A 1-13 1-2 1-F 2-E 22-7B 5-3 4-2D 3-58 1-D 3 2F-2E 82-1D 3-31 F-1C 4-24 9-1E 5-2B 5-1E 1-25
4-E 2A-9E 2-A 6-24 4-24 4-28 8-34 B-C 1-F 1-7 1-2 1-B 1-F 1-7 1-2 43-137 9-16 A-8 18-6 1-2A 1-9 45-6
2 1-2C 1-2 3 2-17 1-48 8-9 30-13 1-2 5-21 3-1B 5 40-38 4-14 2-32 1-2 5-8 1-3 1-1D 2-3 4-A 7-9 7-40
20-27 4-C 9-36 3-1D 2-1B 5-1A 7-4 C-7 50-49 37-33 D-33 7-2E 8-A 126-1F 1-2A 1-3 2-2 4E-28 8-2A 16-1A
26-1C 14-17 9-4E 4-24 9-3E 1-5 D-19 7-A 6-35 1-12 8-27 9-60 1-14 B-12 1-2C 41-7 1 1-4 1-F 1-B 6-3B
5-A 6-4 1-8 2-2 2-16 1-7 1-2 1-5 1-A 2-2 2-3 2 6 5-7 2-7 3-5 8B-5C 1-5 1E-48 8-A A6-36 2-26 22-45
B-A 6-D 13-3A 6-A 36-1B 2-F 4-17 B9-3C 64-53 C-8 2 2-8 1-2 1-1E 1-2 2-C 9-A 46-8 2-2E 2-B 1B-48 8-53
D-49 107-9 1-2D 1-E A-1D 3-20 2-16 1-E 49-7 1-2 1-2C 3 1-2 1-9 8-A 6-6 1-2 1-25 1-2 1-6 7-A 136-19
B7 F-32 D-39B 66-6F 1-5 B-C4 A4C-63 D-42F FD1-247 21B9-239 7-1F 1-A 4-51 1-A 6-1E 2-6 A-46 A-A 1-7
1-15 5-13 2B0-5B 65-4B 4-39 7-11 40-5 B-2 E-17F8 8-4D6 2A-9 22E7-4 1-7 1-2 1-123 2D-3 11-4 8-18C
904-6B 5-D 3-9 7-A 2-4 1260-2E 2-17 9-74 3C-F6 A-27 2-4A 8-70 15-46 9A-14 C-57 9-19 87-55 1-47 1-2 2
2-2 2-4 1-C 1 1-7 1-41 1-4 2-8 1-7 1-1C 1-4 1-5 1 3-7 1-154 2-124 2-2BE F-5 1-F 450-1F E1-7 1-11 2-7
1-2 1-5 D5-2D 3-E 2-A 4-2 140-1F 11-3A 5 4E0-7 1-4 1-2 1-F 1-C5 2-10 29-4C 4-A 4-2 311-44 4C-3D C2-4
1-1B 1-2 1 2 1-A 1-4 1 1 6 4 1 1 1-3 1-2 1 2 1 1 1 1 1-2 1 2-4 1-7 1-4 1-4 1 1-A 1-11 5-3 1-5 1-11
34-2 10E-2C 4-64 C-F 2-F 1-F 1-25 A-AE 38-1D D-2C 4-9 7-2 E-6 9A-3D8 5-10 3-D 3-74 C-59 7-C 4 F-C
4-38 8-A 6-28 8-1E 2-2 4E-154 C-E 2-5 3-5 3-7 9-1D 3-B 5-6 A-A 6-8 8-7 9-93 1-37 25-A 406-A6E0
20-1039 7-DE 2-1682 E-1D31 C1F-21E 5E2-134B AEDB5-F0"

/-- The character stands for itself in quoted text. -/
def isPrintable (c : Char) : Bool :=
  let n := c.toNat
  0x20 ≤ n && n ≤ 0x7E || inRuns n printableRuns

/-- The apostrophe, U+0027. -/
def apostrophe : Char := Char.ofNat 0x27

/-- The double quotation mark, U+0022. -/
def doubleMark : Char := Char.ofNat 0x22

/-- The mark that stands around the characters. -/
def quotationMark (cs : List Char) : Char :=
  if cs.contains apostrophe && !cs.contains doubleMark then doubleMark else apostrophe

/-- One character as it stands between two marks. -/
def quoteChar (mark c : Char) : List Char :=
  let n := c.toNat
  if c == mark || c == '\\' then ['\\', c]
  else if c == '\t' then ['\\', 't']
  else if c == '\n' then ['\\', 'n']
  else if c == '\r' then ['\\', 'r']
  else if isPrintable c then [c]
  else if n ≤ 0xFF then '\\' :: 'x' :: hexDigits 2 n
  else if n ≤ 0xFFFF then '\\' :: 'u' :: hexDigits 4 n
  else '\\' :: 'U' :: hexDigits 8 n

/-- The text between quotation marks. -/
def quoted (s : String) : String :=
  let mark := quotationMark s.toList
  String.ofList (mark :: s.toList.flatMap (quoteChar mark) ++ [mark])

end PacketSmith.Text
