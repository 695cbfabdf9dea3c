import PacketSmith.Json.Basic
import PacketSmith.Text.CodePoint

/-!
# Writing JSON

A JSON document in plain ASCII, laid out with one item or member per line and two more spaces per
level. Empty arrays and objects stay on one line.
-/

namespace PacketSmith.Json

/-- The two halves of a code point above U+FFFF. -/
def halves (n : Nat) : Nat × Nat :=
  (0xD800 + (n - 0x10000) / 0x400, 0xDC00 + (n - 0x10000) % 0x400)

/-- One character inside a string: what is not printable ASCII is escaped, above U+FFFF as a pair.
-/
def writeChar (c : Char) : List Char :=
  let n := c.toNat
  if c == '"' then ['\\', '"']
  else if c == '\\' then ['\\', '\\']
  else if c == '\n' then ['\\', 'n']
  else if c == '\r' then ['\\', 'r']
  else if c == '\t' then ['\\', 't']
  else if n == 0x08 then ['\\', 'b']
  else if n == 0x0C then ['\\', 'f']
  else if 0x20 ≤ n && n ≤ 0x7E then [c]
  else if n ≤ 0xFFFF then '\\' :: 'u' :: Text.hexDigits 4 n
  else
    '\\' :: 'u' :: Text.hexDigits 4 (halves n).1 ++ '\\' :: 'u' :: Text.hexDigits 4 (halves n).2

/-- A string as it stands in a document. -/
def writeString (s : String) : String :=
  String.ofList ('"' :: s.toList.flatMap writeChar ++ ['"'])

/-- A number that is not whole as it stands in a document. -/
def writeFloat : Binary64 → String
  | .nan => "NaN"
  | .infinite false => "Infinity"
  | .infinite true => "-Infinity"
  | x => x.text

/-- The start of a line at a level. -/
def lineStart (level : Nat) : String :=
  String.ofList ('\n' :: List.replicate (2 * level) ' ')

mutual

/-- A value that starts at a level. -/
def writeAt (level : Nat) : Json → String
  | null => "null"
  | bool true => "true"
  | bool false => "false"
  | int n => toString n
  | float x => writeFloat x
  | string s => writeString s
  | array items =>
    if items.isEmpty then "[]"
    else "[" ++ ",".intercalate (writeItems (level + 1) items) ++ lineStart level ++ "]"
  | object members =>
    if members.isEmpty then "\x7b\x7d"
    else "\x7b" ++ ",".intercalate (writeMembers (level + 1) members) ++ lineStart level ++ "\x7d"

/-- The lines of the items of an array. -/
def writeItems (level : Nat) : List Json → List String
  | [] => []
  | x :: xs => (lineStart level ++ writeAt level x) :: writeItems level xs

/-- The lines of the members of an object. -/
def writeMembers (level : Nat) : List (String × Json) → List String
  | [] => []
  | (n, v) :: rest =>
    (lineStart level ++ writeString n ++ ": " ++ writeAt level v) :: writeMembers level rest

end

/-- The document of a value. -/
def write (v : Json) : String := writeAt 0 v

end PacketSmith.Json
