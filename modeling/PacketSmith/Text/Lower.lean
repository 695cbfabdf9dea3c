import PacketSmith.Text.Cased
import PacketSmith.Text.Upper

/-!
# Lower-case text

The lower-case form of a text is the concatenation of those of its characters, by the case mapping
of the Unicode standard, version 14. Most forms are a constant offset over a run of code points
(`Text.lowerShifts`), a capital I with a dot becomes two characters, and all others are their own
lower case. A capital sigma has a lower case of its own at the end of a word, where a letter stands
before it and none behind it.
-/

namespace PacketSmith.Text

/-- The runs of code points with a lower case of one character, by the distance of neighbours and by
what is added to reach the lower case. -/
def lowerRuns : List (Nat × Int × String) := [
  (1, 32, "41-1A 65-17 1-7 2B2-11 1-9 64-20 FAF1-1A 1965-20 5580-20"),
  (2, 1, "100-2F 3-5 2-F 2-2D 2-5 4-3 2 3 5 6 7-5 2 4 2 3-3 2 3 8 2 2-11 2-11 3-3 3-27 3-11 8 5 4-9
  121-3 3 61-17 8 2 65-21 9-35 2-D 2-5F 18D1-95 B-5F 284 ADC 6-5 6 2 A-63 8-3 4 794D-2D 13-1B 87-D
  3-3D A-3 2-9 4 4-3 3-13 B-F 4-3 6 5-3 1C"), (1, -121, "178"), (1, 210, "181"), (1, 206, "186"),
  (1, 205, "189-2 8"), (1, 79, "18E"), (1, 202, "18F"), (1, 203, "190"), (1, 207, "194"),
  (1, 211, "196 5"), (1, 209, "197"), (1, 213, "19D"), (1, 214, "19F"), (1, 218, "1A6 2 4"),
  (1, 217, "1B1-2"), (1, 219, "1B7"), (1, 2, "1C4 2 2 26"), (1, -97, "1F6"), (1, -56, "1F7"),
  (1, -130, "220 1DC-3"), (1, 10795, "23A"), (1, -163, "23D"), (1, 10792, "23E"), (1, -195, "243"),
  (1, 69, "244"), (1, 71, "245"), (1, 116, "37F"), (1, 38, "386"), (1, 37, "388-3"),
  (1, 64, "38C 108F3-33"), (1, 63, "38E-2"), (1, 8, "3CF 1020-6"), (1, -60, "3F4"),
  (1, -7, "3F9 1BF2"), (1, 80, "400-10"), (1, 15, "4C0"), (1, 48, "531-26 26A9-30"),
  (1, 7264, "10A0-26 1 5"), (1, 38864, "13A0-50"), (1, -3008, "1C90-2B 2-3"), (1, -7615, "1E9E"),
  (1, -8, "1F08-8 8-6 A-8 8-8 8-6 1A-8 18-8 8-8 8-8 8-2 1E-2 E-2"), (2, -8, "1F59-7"),
  (1, -74, "1FBA-2"), (1, -9, "1FBC F 2F"), (1, -86, "1FC8-4"), (1, -100, "1FDA-2"),
  (1, -112, "1FEA-2"), (1, -128, "1FF8-2"), (1, -126, "1FFA-2"), (1, -7517, "2126"),
  (1, -8383, "212A"), (1, -8262, "212B"), (1, 28, "2132"), (1, 16, "2160-10"), (1, 26, "24B6-1A"),
  (1, -10743, "2C62"), (1, -3814, "2C63"), (1, -10727, "2C64"), (1, -10780, "2C6D"),
  (1, -10749, "2C6E"), (1, -10783, "2C6F"), (1, -10782, "2C70"), (1, -10815, "2C7E-2"),
  (1, -35332, "A77D"), (1, -42280, "A78D"), (1, -42308, "A7AA 3"), (1, -42319, "A7AB"),
  (1, -42315, "A7AC"), (1, -42305, "A7AD"), (1, -42258, "A7B0"), (1, -42282, "A7B1"),
  (1, -42261, "A7B2"), (1, 928, "A7B3"), (1, -48, "A7C4"), (1, -42307, "A7C5"), (1, -35384, "A7C6"),
  (1, 40, "10400-28 88-24"), (1, 39, "10570-B 1-F 1-7 1-2"), (1, 34, "1E900-22")]

/-- The runs of code points with a lower case of one character. -/
def lowerShifts : List Shift :=
  lowerRuns.flatMap fun (step, offset, runs) =>
    (runsOf runs).map fun (first, last) => ⟨first, last, step, offset⟩

/-- The lower case of a character. -/
def lowerChar (c : Char) : List Char :=
  let n := c.toNat
  if n == 0x130 then ['i', Char.ofNat 0x307]
  else
    match lowerShifts.find? (·.covers n) with
    | some s => [Char.ofNat ((n : Int) + s.offset).toNat]
    | none => [c]

/-- The capital letter sigma. -/
def capitalSigma : Char := Char.ofNat 0x3A3

/-- The small letter sigma at the end of a word. -/
def finalSigma : Char := Char.ofNat 0x3C2

/-- The lower case of characters; `before` are the characters before them, the nearest first. -/
def lowerFrom (before : List Char) : List Char → List Char
  | [] => []
  | c :: cs =>
    let small :=
      if c == capitalSigma && startsCased before && !startsCased cs then [finalSigma]
      else lowerChar c
    small ++ lowerFrom (c :: before) cs

/-- The lower case of a text. -/
def lower (s : String) : String := String.ofList (lowerFrom [] s.toList)

end PacketSmith.Text
