/-!
# Tags

A marked text has tags in it, each in square brackets: a tag starts with a small letter, a number
sign, a slash or an at sign, and has no other bracket in it. A backslash before a tag makes it plain
text, and two backslashes before it stand for one.
-/

namespace PacketSmith.Markup

/-- A tag: its name and what stands behind an equals sign, if there is one. -/
structure Tag where
  /-- The name. -/
  name : String
  /-- What stands behind the first equals sign. -/
  parameters : Option String
deriving DecidableEq, Repr

/-- A part of a marked text. -/
inductive Part where
  /-- Plain text. -/
  | plain (text : List Char)
  /-- A tag. -/
  | tag (t : Tag)
deriving DecidableEq, Repr

/-- The character can start a tag. -/
def startsTag (c : Char) : Bool := ('a' ≤ c && c ≤ 'z') || c == '#' || c == '/' || c == '@'

/-- The tag of the characters between two brackets. -/
def Tag.ofBody (body : List Char) : Tag where
  name := String.ofList (body.takeWhile (· != '='))
  parameters :=
    match body.dropWhile (· != '=') with
    | _ :: rest => some (String.ofList rest)
    | [] => none

/-- Plain text as a part, if it is not empty. -/
def plainPart (text : List Char) : List Part := if text.isEmpty then [] else [.plain text]

/-- The parts of what stands before a tag, last character first, and of the tag. -/
def tagParts (before body : List Char) : List Part :=
  let slashes := (before.takeWhile (· == '\\')).length
  plainPart (before.drop slashes).reverse ++ plainPart (List.replicate (slashes / 2) '\\') ++
    (if slashes % 2 == 0 then [.tag (.ofBody body)] else [.plain ('[' :: body ++ [']'])])

/-- The parts of characters. `before` is the plain text since the last tag and `body` what stands
behind an opening bracket since then that may start a tag, both last character first. -/
def partsFrom (before : List Char) (body : Option (List Char)) : List Char → List Part
  | [] => plainPart ((body.elim before fun b => b ++ '[' :: before).reverse)
  | c :: cs =>
    match body with
    | none => if c == '[' then partsFrom before (some []) cs else partsFrom (c :: before) none cs
    | some b =>
      if c == '[' then partsFrom (b ++ '[' :: before) (some []) cs
      else if b.isEmpty && !startsTag c then partsFrom (c :: '[' :: before) none cs
      else if c == ']' then tagParts before b.reverse ++ partsFrom [] none cs
      else partsFrom before (some (c :: b)) cs

/-- The parts of a marked text. -/
def parts (s : String) : List Part := partsFrom [] none s.toList

end PacketSmith.Markup
