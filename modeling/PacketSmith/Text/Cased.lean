import PacketSmith.Text.CodePoint

/-!
# Characters with case

Where a word ends decides the lower case of the letter sigma, so it matters which characters have
case and which are passed over when the neighbours of a letter are looked for: marks, signs that
format, and marks of punctuation that stand inside words. The classes are those of the Unicode
standard, version 14; a character that is in both is passed over.
-/

namespace PacketSmith.Text

/-- Runs of characters that have case, in ascending order. -/
def casedRuns : List (Nat × Nat) := runsOf
  "41-1A 6-1A 2F A 4 5-17 1-1F 1-C3 1-4 4-D0 1-1B C0-4 2-2 3-3 1 6 1-3 1 1-14 1-53 1-8B 8-A6 1-26
9-29 B17-26 1 5 2-2B 2-3 2A0-56 2-6 882-9 7-2B 2-3 40-2C 3F-D 1-22 65-116 2-6 2-26 2-6 2-8 1 1 1
1-1F 2-35 1-7 1 3-3 1-7 3-4 2-6 4-D 5-3 1-7 105 4 2-A 1 3-5 6 1 1 1-4 1-6 4 2-4 5-5 4 11-20 3-2
331-34 716-7C 2-67 6-4 3-2 C-26 1 5 7912-2E 12-1C 86-4E 1-17 3-4 1-3B 5-2 1 1-5 1B-2 3 335-2B 5-9
7-50 4F40-7 C-5 409-1A 6-1A 4A5-50 60-24 4-24 74-B 1-F 1-7 1-2 1-B 1-F 1-7 1-2 6C3-33 D-33 BAD-40
5560-40 6580-55 1-47 1-2 2 2-2 2-4 1-C 1 1-7 1-41 1-4 2-8 1-7 1-1C 1-4 1-5 1 3-7 1-154 2-19 1-19
1-1F 1-19 1-1F 1-19 1-1F 1-19 1-1F 1-19 1-8 734-A 1-14 9E1-44 7EC-1A 6-1A 6-1A"

/-- Runs of characters that are passed over, in ascending order. -/
def passedRuns : List (Nat × Nat) := runsOf
  "27 6 B 23 1 47 4 1 4 2-2 1F7-C0 4-2 4 9-2 1 FB-7 CF 5 31-2D 1 1-2 1-2 1 2C B-6 A-B 1 23 A-15 10
65-8 1-A 1-4 21 1 1E-1B 5B-B 3A-B 4 2 18-18 2B-3 2C 7-2 6-8 29-3A 37 1 4-8 4 3-7 A-2 D F 3A 4-4 8
14-2 1A 2-2 39 4-2 4-2 2-3 3 1E-2 3 B-2 39 4-5 1-2 4 14-2 16-6 1 3A 2 1-4 8 7-2 B-2 1E 3D C 32 3 37
1-3 5-3 1-4 7-2 B-2 1D 3A 2 6 5-2 14-2 1C-2 39-2 4-4 8 14-2 1D 48 7-3 1 5A 2-7 B-9 62 2-9 9 1-6 4A-2
1B 1 1 37-E 1-5 1-2 5-B 1-24 9 66-4 1-6 1-2 2-2 19-2 4-3 10-4 D 2-2 6 F 5E 260-3 3B2-3 1D-2 1E-2
1E-2 40-2 1-7 8 2-B 3 5 2D-5 33 41-2 22 76-3 4-2 9 6-3 DB-2 2 3A 1-7 1 1 2-8 6-A 2 27 8-1F 31-4 30
1-5 1 5 28-9 C-2 20-4 2-2 1-3 38 1-2 3 1-3 3A-8 2-2 40-6 52-3 1-D 1-7 4 6 3-2 32-3F D 22-65 1BD 1-3
B-3 D-3 D-3 D-2 C-5 8-2 A 2 2-5 31-5 1-A 1 D 10-D 33-21 B8B-2 71-3 7D F 60-20 2F 1D5 24-4 3-5 5 5D-6
5D-3 6F16 4E2-6 10E 62-4 1-A 1 1C-4 50-2 E-22 4E 17-3 67-3 3-2 8 3 4 19-2 5 97-2 1A-12 D 26-8 19-B
2E-3 30 2-4 2-2 11 15-2 42-6 2-2 2-2 C 8 23 B 33 1-3 2-2 5-2 1 1B E-2 5-2 1 64-5 9-3 79 2 4 4F30
93-11 23D-10 3 C-10 22 2 A9 7 6 B 23 1 2F 2D-2 43 15-3 201 E2 95-5 405-6 1-2A 1-9 246-3 1-2 5-4 28-3
4 A5-2 23D-4 183-2 99-B 31-4 7B 36-F 29 2-2 A-3 31-4 2-2 2 4 A 32-3 24-5 1-8 3E C-2 34-9 A-4 2 5F-3
2 1-2 6 A0 3-8 15-2 39-2 3 25-7 3-5 C3-8 2-3 1 17 54-6 1 4-2 1-2 EE-4 6-2 1-2 1B-2 55-8 2 1-2 6A 1
2-6 1 65-3 2-4 1-5 103-9 1-2 100-2 1 4 90-4 2-2 4 20-A 28-6 2-4 8 9-6 2-3 2E-D 1-2 196-7 1-6 1 52-16
2-7 1-2 1-2 7A-6 3 1-2 1-7 1 48-2 3 1 15B-2 153B-9 36B7-5 3B-7 9-4 40B 3F-11 40-2 1-2 400B-4 1-7 1-2
C9E-2 1-4 125C-2E 2-17 220-3 9-10 2-7 1E-4 94-3 7BB-37 4-32 8 E 16-5 1-F 550-7 1-11 2-7 1-2 1-5
105-E 170 3D-4 5E0-7 6D-8 AAF-5 C0C01 1E-60 80-F0"

/-- The character has case, and is not passed over. -/
def isCased (c : Char) : Bool := inRuns c.toNat casedRuns

/-- The character is passed over when the neighbours of a letter are looked for. -/
def isPassedOver (c : Char) : Bool := inRuns c.toNat passedRuns

/-- The nearest of some characters that is not passed over has case. -/
def startsCased (cs : List Char) : Bool := (cs.dropWhile isPassedOver).head?.any isCased

end PacketSmith.Text
