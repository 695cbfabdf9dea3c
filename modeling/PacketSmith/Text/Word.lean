import PacketSmith.Text.CodePoint

/-!
# Word characters

The characters that words are made of: letters, digits and numbers of all scripts (Unicode 14), and
the underscore.
-/

namespace PacketSmith.Text

/-- Runs of word characters, in ascending order. -/
def wordRuns : List (Nat × Nat) := runsOf
  "30-A 7-1A 4 1-1A 2F 7-2 1 3-2 1-3 1-17 1-1F 1-1CA 4-C E-5 7 1 81-5 1-2 2-4 1 6 1-3 1 1-14 1-53
1-8B 8-A6 1-26 2 6-29 47-1B 4-4 2D-2B 15-A 4-2 1-63 1 F-2 7-F 2 10 1-1E 1D-59 B E-2B 9-2 4 5-16 4 9
3 17-19 7-B 5-18 1-6 11-2A 3A-36 3 12 7-A 4-A 1-10 4-8 2-2 2-16 1-7 1 3-4 3 10 D-2 1-3 4-C 2-6 2 8-6
4-2 2-16 1-7 1-2 1-2 1-2 1F-4 1 7-A 2-3 10-9 1-3 1-16 1-7 1-2 1-5 3 12 F-2 4-A 9 B-8 2-2 2-16 1-7
1-2 1-5 3 1E-2 1-3 4-A 1-7 B 1-6 3-3 1-4 3-2 1 1-2 3-2 3-3 3-C 16 15-D 12-8 1-3 1-17 1-10 3 1A-3 2
2-2 4-A 8-7 1 4-8 1-3 1-17 1-A 1-5 3 1F-2 1-2 4-A 1-2 11-9 1-3 1-29 2 10 5-3 1-A 4-13 1-6 5-12 3-18
1-9 1 2-7 1F-A 11-30 1-2 C-7 9-A 27-2 1 1-5 1-18 1 1-A 1-2 9 2-5 1 9-A 2-4 20 1F-14 C-8 1-24 1B-5
73-2B 14-B 6-6 4-4 3 3-2 7-3 4-D C 1-A 6-26 1 5 2-2B 1-14D 1-4 2-7 1 1-4 2-29 1-4 2-21 1-4 2-7 1 1-4
2-F 1-39 1-4 2-43 E-14 3-10 10-56 2-6 3-26C 2-11 1-1A 5-4B 3-B 7-12 D-13 E-12 E-D 1-3 F-34 23 4 3-A
6-A 16-A 6-59 7-5 2-22 1 5-46 A-1F 27-28 2-5 B-2C 4-1A 6-B 25-17 9-35 2B-A 6-A D 5D-2F 11-8 3-A
29-1E D-38 1A-24 1C-A 3-31 2-9 7-2B 2-3 29-4 1-6 1-2 3 5-C0 40-116 2-6 2-26 2-6 2-8 1 1 1 1-1F 2-35
1-7 1 3-3 1-7 3-4 2-6 4-D 5-3 1-7 73-2 2-6 5-B 6-D 65 4 2-A 1 3-5 6 1 1 1-4 1-B 2-4 5-5 4 1-3A
2D6-3C 4E-16 276-1E 46C-E5 6-4 3-2 9 2-26 1 5 2-38 7 10-17 9-7 1-7 1-7 1-7 1-7 1-7 1-7 1-7 50 1D5-3
19-9 7-5 2-5 4-56 6-3 1-5A 1-4 5-2B 1-5E 3-4 A-20 30-10 20-A 1E-8 1-F 20-A 27-F 140-19C0 40-568D
43-2E 2-10D 3-1C 14-2F 10-1F 2-50 27-9 2-67 2-40 5-2 1 1-5 18-10 1-3 1-4 1-17 D-6 A-34 E-32 1C-A
18-6 3 1-2 1-26 A-17 19-1D 7-2F 1C-B 6-5 1-19 1-29 17-3 1-8 4-A 6-17 3 3-32 1 3-2 2-5 2 1 18-3 2-B
7-3 C-6 2-6 2-6 9-7 1-7 1-2B 1-E 6-73 D-A 6-2BA4 C-17 4-31 2104-16E 2-6A 26-7 C-5 5 1-A 1-D 1-5 1
1-2 1-2 1-6C 21-16B 12-40 2-36 28-C 74-5 1-87 13-A 7-1A 6-1A B-59 3-6 2-6 2-6 2-3 23-C 1-1A 1-13 1-2
1-F 2-E 22-7B C-2D C-39 11-2 F4-1D 3-31 10-1B 4-24 9-1E 5-26 A-1E 2-24 4-8 1-5 2A-9E 2-A 6-24 4-24
4-28 8-34 C-B 1-F 1-7 1-2 1-B 1-F 1-7 1-2 43-137 9-16 A-8 18-6 1-2A 1-9 45-6 2 1-2C 1-2 3 2-17 2-1F
2-26 8-9 30-13 1-2 5-21 4-1A 46-38 4-14 2-2F F-4 1-3 1-1D A-9 17-1F 1-20 20-8 1-1C 6-5 10-36 A-16
2-1B 5-1A 17-7 50-49 37-33 D-33 7-2A C-A 126-1F 1-2A 6-2 4E-28 8-16 B-4 1B-12 2E-1C 14-17 C-35 1A-1E
1-2 2 D-2D 20-19 7-A 9-24 F-A 4 2 8-23 3 C-30 E-4 B-B 1 4-14 B-12 1-19 54-7 1 1-4 1-F 1-A 7-2F 11-A
B-8 2-2 2-16 1-7 1-2 1-5 3 12 C-5 9E-35 12-4 5-A 5-3 1E-30 14-2 1 8-A A6-2F 29-4 24-30 14 B-A 26-2B
D 7-A 36-1B 15-C 4-7 B9-2C 74-53 C-8 2 2-8 1-2 1-18 F 1 E-A 46-8 2-27 10 1 1C A-28 7 15 B-2E 13
12-49 107-9 1-25 11 F-1D 5-1E 70-7 1-2 1-26 15 9-A 6-6 1-2 1-20 E 7-A 136-13 BD F-15 2B-39A 66-6F
11-C4 A4C-61 F-42F FD1-247 21B9-239 7-1F 1-A 6-4F 1-A 6-1E 12-30 10-4 C-A 1-7 1-15 5-13 2B0-57 69-4B
5 42-D 40-2 1 1C-17F8 8-4D6 2A-9 22E7-4 1-7 1-2 1-123 2D-3 11-4 8-18C 904-6B 5-D 3-9 7-A 1646-14
6C-19 87-55 1-47 1-2 2 2-2 2-4 1-C 1 1-7 1-41 1-4 2-8 1-7 1-1C 1-4 1-5 1 3-7 1-154 2-19 1-19 1-1F
1-19 1-1F 1-19 1-1F 1-19 1-1F 1-19 1-8 2-32 700-1F 1E1-2D A-7 2-A 4 141-1E 12-2C 4-A 4E6-7 1-4 1-2
1-F 1-C5 2-9 30-44 7 4-A 317-3B 1-3 1-4 4C-2D 1-F C2-4 1-1B 1-2 1 2 1-A 1-4 1 1 6 4 1 1 1-3 1-2 1 2
1 1 1 1 1-2 1 2-4 1-7 1-4 1-4 1 1-A 1-11 5-3 1-5 1-11 244-D AE3-A 406-A6E0 20-1039 7-DE 2-1682
E-1D31 C1F-21E 5E2-134B"

/-- The character can stand in a word. -/
def isWord (c : Char) : Bool := inRuns c.toNat wordRuns

end PacketSmith.Text
