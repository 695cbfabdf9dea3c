import PacketSmith.Fault
import PacketSmith.TypeName.Reader

/-!
# Spellings of type names

A target language spells type names in its own way: other words for the primitive types, other heads
for the containers, and a pattern for arrays. Names without a word of their own keep their spelling.

The pattern of arrays is a text with places between braces: `{}` and `{0}` stand for the element,
doubled braces for single ones. A pattern is used only when an array is spelled, so a
malformed one does no harm before.
-/

namespace PacketSmith

namespace Pattern

/-- How the places of a pattern have been numbered so far. -/
inductive Numbering where
  /-- No place has been met. -/
  | unset
  /-- Places are counted, and so many have been met. -/
  | counted (places : Nat)
  /-- Places have numbers. -/
  | given

/-- The numbering after a place with the given content, which must be the one value there is. -/
def Numbering.place (n : Numbering) (content : List Char) : Except Fault Numbering :=
  if content.isEmpty then
    match n with
    | unset => .ok (counted 1)
    | counted _ => .error .patternPlace
    | given => .error .malformedPattern
  else if content.all Char.isDigit then
    match n with
    | counted _ => .error .malformedPattern
    | _ => if content.all (· == '0') then .ok given else .error .patternPlace
  else .error (.patternName (String.ofList content))

/-- The pattern with a value in its places. `content` is the place begun so far, last character
first, if there is one. -/
def fillFrom (value : List Char) (n : Numbering) :
    (content : Option (List Char)) → List Char → Except Fault (List Char)
  | none, [] => .ok []
  | some _, [] => .error .malformedPattern
  | none, '\x7b' :: '\x7b' :: rest => do
    let tail ← fillFrom value n none rest
    return '\x7b' :: tail
  | none, '\x7d' :: '\x7d' :: rest => do
    let tail ← fillFrom value n none rest
    return '\x7d' :: tail
  | none, '\x7b' :: rest => fillFrom value n (some []) rest
  | none, '\x7d' :: _ => .error .malformedPattern
  | none, c :: rest => do
    let tail ← fillFrom value n none rest
    return c :: tail
  | some content, '\x7d' :: rest => do
    let n ← n.place content.reverse
    let tail ← fillFrom value n none rest
    return value ++ tail
  | some _, '\x7b' :: _ => .error .malformedPattern
  | some content, c :: rest => fillFrom value n (some (c :: content)) rest

/-- The pattern with a value in its places. -/
def fill (pattern value : String) : Except Fault String := do
  let cs ← fillFrom value.toList .unset none pattern.toList
  return String.ofList cs

end Pattern

/-- How a language spells type names. -/
structure Spelling where
  /-- The words of primitive types. -/
  primitives : List (String × String)
  /-- The heads of containers. -/
  containers : List (String × String) := []
  /-- The pattern of arrays. -/
  array : String := "\x7b\x7d[]"

namespace Spelling

mutual

/-- The spelling of a type name. -/
def spell (sp : Spelling) : TypeName → Except Fault String
  | .mk head params =>
    if head == TypeName.arrayHead then do
      let element ← spellFirst sp params
      Pattern.fill sp.array element
    else
      match params with
      | [] => .ok ((sp.primitives.lookup head).getD head)
      | p :: ps => do
        let inner ← spellAll sp (p :: ps)
        return (sp.containers.lookup head).getD head ++ "<" ++ ", ".intercalate inner ++ ">"

/-- The spelling of the first name. -/
def spellFirst (sp : Spelling) : List TypeName → Except Fault String
  | [] => .error .missingParameter
  | t :: _ => spell sp t

/-- The spellings of all names. -/
def spellAll (sp : Spelling) : List TypeName → Except Fault (List String)
  | [] => .ok []
  | t :: ts => do
    let first ← spell sp t
    let rest ← spellAll sp ts
    return first :: rest

end

/-- The spelling of the type name that a text denotes. -/
def spellText (sp : Spelling) (text : String) : Except Fault String :=
  match TypeName.read? text with
  | some t => sp.spell t
  | none => .error (.malformedType text)

end Spelling
end PacketSmith
