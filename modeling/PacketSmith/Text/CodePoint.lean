import PacketSmith.Text.Lines

/-!
# Code points

Hexadecimal digits, and classes of characters that are given by runs of code points. In a text, a
run is told by how many code points lie between the run before and it, and by how many it has, both
in hexadecimal with a hyphen between them; the second is left out for a single one. There are blanks
or line ends between runs.
-/

namespace PacketSmith.Text

/-- The hexadecimal digit of a value below sixteen. -/
def hexDigit (n : Nat) : Char :=
  if n < 10 then Char.ofNat (0x30 + n) else Char.ofNat (0x57 + n)

/-- The last `width` hexadecimal digits of a number. -/
def hexDigits : (width : Nat) → Nat → List Char
  | 0, _ => []
  | width + 1, n => hexDigits width (n / 16) ++ [hexDigit (n % 16)]

/-- The value of a hexadecimal digit of either case. -/
def hexValue? (c : Char) : Option Nat :=
  let n := c.toNat
  if 0x30 ≤ n && n ≤ 0x39 then some (n - 0x30)
  else if 0x41 ≤ n && n ≤ 0x46 then some (n - 0x37)
  else if 0x61 ≤ n && n ≤ 0x66 then some (n - 0x57)
  else none

/-- The number of hexadecimal digits. -/
def hexNumber (s : String) : Nat := s.toList.foldl (fun n c => 16 * n + (hexValue? c).getD 0) 0

/-- The first and the last code points of runs, where `next` is the code point behind those before. -/
def runsBehind (next : Nat) : List String → List (Nat × Nat)
  | [] => []
  | run :: runs =>
    let (gap, size) :=
      match run.splitOn "-" with
      | [gap, size] => (hexNumber gap, hexNumber size)
      | _ => (hexNumber run, 1)
    (next + gap, next + gap + size - 1) :: runsBehind (next + gap + size) runs

/-- The runs of a text. -/
def runsOf (text : String) : List (Nat × Nat) := runsBehind 0 (words text)

/-- A code point is in one of the runs. -/
def inRuns (n : Nat) (runs : List (Nat × Nat)) : Bool := runs.any fun r => r.1 ≤ n && n ≤ r.2

end PacketSmith.Text
