import PacketSmith.Text.Lines
import PacketSmith.Text.Lower
import PacketSmith.Text.PictureNames
import PacketSmith.Text.Terminal

/-!
# Pictures in text

A picture is written in a text as its name between colons. Behind the name may stand a hyphen and
the word `emoji` or `text`, which asks for the one or the other form of the picture. The case of
letters in a name does not matter, and a name that is unknown stays as it is.

A picture of people has a name for each of five tones of skin. The tone stands behind the first
character of the picture, in the place of a selector there.
-/

namespace PacketSmith.Text

/-- A picture with its name. -/
structure Picture where
  /-- The name. -/
  name : String
  /-- The characters of the picture. -/
  chars : List Char
  /-- There is a picture for each tone of skin. -/
  toned : Bool
deriving DecidableEq, Repr

namespace Picture

/-- The character of a code point; three digits are counted from `1F000`. -/
def charOf (code : String) : Char :=
  Char.ofNat (hexNumber code + if code.length == 3 then 0x1F000 else 0)

/-- The characters of code points with hyphens between them, and joiners for plus signs. -/
def charsOf (codes : String) : List Char :=
  [joiner].intercalate
    ((codes.splitOn "+").map fun part => (part.splitOn "-").map charOf)

/-- The name with words in the place of capital letters. -/
def longName (name : String) : String :=
  "_".intercalate ((name.splitOn "_").map fun word => (pictureWords.lookup word).getD word)

/-- The pictures of some names with bars between them. -/
def ofNames (names codes : String) (toned : Bool) : List Picture :=
  (names.splitOn "|").map fun name => ⟨longName name, charsOf codes, toned⟩

/-- The pictures of an entry in the list of names. -/
def ofEntry (entry : String) : List Picture :=
  match entry.splitOn "=", entry.splitOn "~" with
  | [names, codes], _ => ofNames names codes false
  | _, [names, codes] => ofNames names codes true
  | _, _ => []

/-- The flag of a country, which goes by the country's name and by a longer one. Its characters stand
for the letters of the country. -/
def ofCountry (entry : String) : List Picture :=
  match entry.splitOn "=" with
  | [name, letters] =>
    let chars := letters.toList.map fun c => Char.ofNat (0x1F1E6 + (c.toNat - 'A'.toNat))
    [⟨name, chars, false⟩, ⟨"flag_for_" ++ name, chars, false⟩]
  | _ => []

/-- All pictures. -/
def all : List Picture :=
  (words pictureNames).flatMap ofEntry ++ (words countryNames).flatMap ofCountry

/-- The picture of a name that names no tone. -/
def find? (name : String) : Option Picture := all.find? fun p => p.name == name

/-- The tones of skin: the end of a name, and the character. -/
def tones : List (String × Char) := [
  ("_light_skin_tone", Char.ofNat 0x1F3FB),
  ("_medium-light_skin_tone", Char.ofNat 0x1F3FC),
  ("_medium_skin_tone", Char.ofNat 0x1F3FD),
  ("_medium-dark_skin_tone", Char.ofNat 0x1F3FE),
  ("_dark_skin_tone", Char.ofNat 0x1F3FF)]

/-- The characters with a tone behind the first one. -/
def addTone (tone : Char) : List Char → List Char
  | [] => []
  | c :: cs => c :: tone :: (if cs.head? == some selector then cs.drop 1 else cs)

/-- The start of a text that ends in a given way. -/
def before? (ending s : String) : Option String :=
  if ending.toList.isSuffixOf s.toList then
    some (String.ofList (s.toList.take (s.length - ending.length)))
  else none

/-- The characters of the picture that a name with a tone stands for. -/
def tonedChars? (name : String) : Option (List Char) :=
  tones.findSome? fun (ending, tone) => do
    let start ← before? ending name
    let p ← find? start
    if p.toned then some (addTone tone p.chars) else none

/-- The characters of the picture that a name in lower case stands for. -/
def chars? (name : String) : Option (List Char) :=
  match find? name with
  | some p => some p.chars
  | none => tonedChars? name

/-- The forms of a picture: the end of a name that asks for one, and the character that selects it.
-/
def forms : List (String × Char) := [("-emoji", selector), ("-text", Char.ofNat 0xFE0E)]

/-- The characters of the picture that a code stands for, the text between two colons. -/
def ofCode? (code : String) : Option (List Char) :=
  let formed := forms.findSome? fun (ending, form) =>
    (before? ending code).map fun name => (name, form)
  match formed with
  | some (name, form) => (chars? (lower name)).map (· ++ [form])
  | none => chars? (lower code)

/-- The characters with pictures in the place of their codes. `code` is the code begun so far, if a
colon stands before it, last character first. -/
def replaceFrom (code : Option (List Char)) : List Char → List Char
  | [] => code.elim [] fun cs => ':' :: cs.reverse
  | c :: cs =>
    match code with
    | none => if c == ':' then replaceFrom (some []) cs else c :: replaceFrom none cs
    | some begun =>
      if c == ':' then
        match ofCode? (String.ofList begun.reverse) with
        | some picture => picture ++ replaceFrom none cs
        | none => ':' :: begun.reverse ++ ':' :: replaceFrom none cs
      else if isBlank c then ':' :: begun.reverse ++ c :: replaceFrom none cs
      else replaceFrom (some (c :: begun)) cs

/-- The characters with pictures in the place of their codes. -/
def replace (cs : List Char) : List Char := replaceFrom none cs

end Picture
end PacketSmith.Text
