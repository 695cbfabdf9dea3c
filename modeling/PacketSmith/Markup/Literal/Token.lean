import PacketSmith.Decimal.Binary64
import PacketSmith.Text.CharacterName
import PacketSmith.Text.CodePoint
import PacketSmith.Text.Integer
import PacketSmith.Text.Lines
import PacketSmith.Text.Word

/-!
# Tokens of literal values

A literal value is written with numbers, texts, bytes, constants, the word for the empty set, and
signs. Blanks and comments between these do not matter. A value may go over several lines between
brackets, or where a backslash ends a line; elsewhere the end of a line is a token, and the lines
behind it are not indented unless they hold nothing but comments.
-/

namespace PacketSmith.Markup.Literal

/-- A token of a literal value. -/
inductive Token where
  /-- A number, real or imaginary; a whole one may be too large to be rounded to a binary one. -/
  | number (imaginary large : Bool)
  /-- A text, or bytes. -/
  | text (bytes : Bool)
  /-- A constant. -/
  | constant
  /-- The word that the empty set is written with. -/
  | set
  /-- A sign. -/
  | sign (c : Char)
  /-- The end of a line that is not inside brackets. -/
  | lineEnd
deriving DecidableEq, Repr

/-- The character can stand in a name. -/
def isNameChar (c : Char) : Bool := c.isAlphanum || c == '_' || 0x80 ≤ c.toNat

/-- A run of digits with single underscores between them, and what follows it. -/
def digitRun (isDigit : Char → Bool) : List Char → Option (List Char × List Char)
  | [] => none
  | c :: cs =>
    if !isDigit c then none
    else
      match cs with
      | '_' :: rest => (digitRun isDigit rest).map fun (ds, r) => (c :: ds, r)
      | d :: rest =>
        if isDigit d then (digitRun isDigit (d :: rest)).map fun (ds, r) => (c :: ds, r)
        else some ([c], d :: rest)
      | [] => some ([c], [])
termination_by cs => cs.length

/-- A number is not followed by a character of a name. -/
def numberEnd (imaginary large : Bool) (rest : List Char) : Option (Token × List Char) :=
  if rest.head?.any isNameChar then none else some (.number imaginary large, rest)

/-- The whole number that digits denote in a base is too large to be rounded to a binary one. -/
def isLarge (base : Nat) (ds : List Char) : Bool :=
  match Binary64.ofFraction false ((Text.numberIn? base ds).getD 0) 1 with
  | .infinite _ => true
  | _ => false

/-- A number in another base, behind its mark. -/
def basedNumber? (base : Nat) (cs : List Char) : Option (Token × List Char) := do
  let isDigit (c : Char) : Bool := (Text.hexValue? c).any (· < base)
  let (ds, rest) ← digitRun isDigit (if cs.head? == some '_' then cs.drop 1 else cs)
  numberEnd false (isLarge base ds) rest

/-- A point with the digits behind it, if one stands here: what follows, and whether there is one.
-/
def fractionEnd? (cs : List Char) : Option (Bool × List Char) :=
  match cs with
  | '.' :: c :: rest =>
    if c.isDigit then (digitRun Char.isDigit (c :: rest)).map fun (_, r) => (true, r)
    else some (true, c :: rest)
  | ['.'] => some (true, [])
  | _ => some (false, cs)

/-- An exponent, if one stands here: what follows, and whether there is one. -/
def exponentEnd? (cs : List Char) : Option (Bool × List Char) :=
  match cs with
  | c :: rest =>
    if c == 'e' || c == 'E' then
      let digits := if rest.head? == some '-' || rest.head? == some '+' then rest.drop 1 else rest
      (digitRun Char.isDigit digits).map fun (_, r) => (true, r)
    else some (false, cs)
  | [] => some (false, [])

/-- Digits may be a whole number: none but zeros follow a zero at the front, and if there is none,
they are not too many. -/
def isWhole (ds : List Char) : Bool :=
  if ds.head? == some '0' then ds.all (· == '0') else ds.length ≤ Text.digitLimit

/-- A number behind its whole digits. -/
def numberAfter? (ds rest : List Char) : Option (Token × List Char) := do
  let (point, rest) ← fractionEnd? rest
  let (power, rest) ← exponentEnd? rest
  match rest with
  | 'j' :: rest => numberEnd true false rest
  | 'J' :: rest => numberEnd true false rest
  | rest =>
    if point || power then numberEnd false false rest
    else if isWhole ds then numberEnd false (isLarge 10 ds) rest
    else none

/-- The number that stands here. -/
def number? : List Char → Option (Token × List Char)
  | '0' :: c :: rest =>
    if c == 'x' || c == 'X' then basedNumber? 16 rest
    else if c == 'o' || c == 'O' then basedNumber? 8 rest
    else if c == 'b' || c == 'B' then basedNumber? 2 rest
    else do
      let (ds, rest) ← digitRun Char.isDigit ('0' :: c :: rest)
      numberAfter? ds rest
  | '.' :: rest => numberAfter? [] ('.' :: rest)
  | cs => do
    let (ds, rest) ← digitRun Char.isDigit cs
    numberAfter? ds rest

/-- Some hexadecimal digits stand here. -/
def hexFollows (n : Nat) (cs : List Char) : Bool :=
  n ≤ cs.length && (cs.take n).all fun c => (Text.hexValue? c).isSome

/-- The number of eight hexadecimal digits is a code point. -/
def isCodePoint (cs : List Char) : Bool :=
  (cs.take 8).foldl (fun n c => 16 * n + (Text.hexValue? c).getD 0) 0 ≤ 0x10FFFF

/-- The name of a character stands here, between braces. -/
def nameFollows (cs : List Char) : Bool :=
  let isInside (c : Char) : Bool := c != '\x7d'
  match cs with
  | '\x7b' :: rest => Text.isCharacterName (rest.takeWhile isInside) && rest.contains '\x7d'
  | _ => false

/-- What may follow a backslash in a text or in bytes. -/
def escapes (bytes : Bool) (c : Char) (rest : List Char) : Bool :=
  if c == 'x' then hexFollows 2 rest
  else if bytes then c.toNat < 0x80
  else if c == 'u' then hexFollows 4 rest
  else if c == 'U' then hexFollows 8 rest && isCodePoint rest
  else if c == 'N' then nameFollows rest
  else true

/-- How a text is written. -/
structure Quoting where
  /-- The quotation mark. -/
  mark : Char
  /-- The mark stands three times at each end. -/
  tripled : Bool
  /-- A backslash stands for itself. -/
  raw : Bool
  /-- The text denotes bytes. -/
  bytes : Bool

/-- What follows a text, whose characters start here. -/
def textEnd? (q : Quoting) : List Char → Option (List Char)
  | [] => none
  | '\\' :: c :: rest =>
    if q.raw then (if q.bytes && 0x80 ≤ c.toNat then none else textEnd? q rest)
    else if escapes q.bytes c rest then textEnd? q rest
    else none
  | c :: rest =>
    if c == q.mark then
      if !q.tripled then some rest
      else if rest.take 2 == [q.mark, q.mark] then some (rest.drop 2)
      else textEnd? q rest
    else if (c == '\n' && !q.tripled) || (q.bytes && 0x80 ≤ c.toNat) then none
    else textEnd? q rest

/-- The text with a prefix that stands here. -/
def text? (letters : String) (mark : Char) (rest : List Char) : Option (Token × List Char) := do
  let raw := letters == "r" || letters == "br" || letters == "rb"
  let bytes := letters == "b" || letters == "br" || letters == "rb"
  if !raw && !bytes && letters != "" && letters != "u" then none
  else
    let tripled := rest.take 2 == [mark, mark]
    let rest ← textEnd? ⟨mark, tripled, raw, bytes⟩ (if tripled then rest.drop 2 else rest)
    return (.text bytes, rest)

/-- The forms of a small letter: the letter itself, small and full forms of it, and letters of the
alphabets for mathematics, one of which has no place for an `e`. -/
def letterForms (c : Char) : List Nat :=
  let alphabets := [0x1D41A, 0x1D44E, 0x1D482, 0x1D4B6, 0x1D4EA, 0x1D51E, 0x1D552, 0x1D586, 0x1D5BA,
    0x1D5EE, 0x1D622, 0x1D656, 0x1D68A]
  let others :=
    match c with
    | 's' => [0x17F, 0x2E2, 0x209B]
    | 'e' => [0x1D49, 0x2091, 0x212F, 0x2147]
    | 't' => [0x1D57, 0x209C]
    | _ => []
  c.toNat :: (0xFEE0 + c.toNat) :: others
    ++ (alphabets.map (· + (c.toNat - 0x61))).filter (· != 0x1D4BA)

/-- A name is the word that the empty set is written with, in whatever form its letters have. -/
def isSetWord (name : List Char) : Bool :=
  name.length == 3 && (name.zip ['s', 'e', 't']).all fun (c, l) => (letterForms l).contains c.toNat

/-- The word that stands here: the start of a text, or a name that denotes a value. -/
def word? (cs : List Char) : Option (Token × List Char) :=
  let word := cs.takeWhile isNameChar
  let name := String.ofList word
  let rest := cs.dropWhile isNameChar
  match rest with
  | '"' :: more => text? (name.map Char.toLower) '"' more
  | '\'' :: more => text? (name.map Char.toLower) '\'' more
  | _ =>
    if name == "None" || name == "True" || name == "False" then some (.constant, rest)
    else if isSetWord word then some (.set, rest)
    else none

/-- The token that stands here, which is no gap. -/
def token? : List Char → Option (Token × List Char)
  | [] => none
  | '.' :: '.' :: '.' :: rest => some (.constant, rest)
  | c :: rest =>
    if c.isDigit || (c == '.' && rest.head?.any Char.isDigit) then number? (c :: rest)
    else if c == '"' || c == '\'' || isNameChar c then word? (c :: rest)
    else if ['(', ')', '\x7b', '\x7d', ',', ':', '+', '-'].contains c then some (.sign c, rest)
    else none

/-- How deep a sign leads into brackets. -/
def depthAfter (depth : Nat) : Token → Nat
  | .sign '(' => depth + 1
  | .sign '\x7b' => depth + 1
  | .sign ')' => depth - 1
  | .sign '\x7d' => depth - 1
  | _ => depth

/-- How deep brackets may be nested. -/
def depthLimit : Nat := 200

/-- What follows the blanks at the start of a line, and whether the line is indented by them. A
form feed starts the count of blanks again. Where a backslash joins lines, blanks before the first
one count for good. -/
def indentation? (indented held : Bool) : List Char → Option (Bool × List Char)
  | ' ' :: cs => indentation? true held cs
  | '\t' :: cs => indentation? true held cs
  | '\x0c' :: cs => indentation? false held cs
  | '\\' :: '\n' :: c :: cs => indentation? indented (held || indented) (c :: cs)
  | '\\' :: _ => none
  | cs => some (held || indented, cs)

/-- What follows the blanks at the start of a line. A line outside brackets is not indented, unless
it has no token. -/
def lineStart? (depth : Nat) (cs : List Char) : Option (List Char) := do
  let (indented, rest) ← indentation? false false cs
  if depth == 0 && indented && rest.head? != some '#' && rest.head? != some '\n' then none
  else some rest

/-- The tokens of characters. `filled` says that the line has a token already. Every step takes a
character at least, so `fuel` characters are read. -/
def tokensFrom (fuel depth : Nat) (filled : Bool) (cs : List Char) : Option (List Token) :=
  match fuel, cs with
  | _, [] => some []
  | 0, _ => none
  | fuel + 1, c :: rest =>
    if c == ' ' || c == '\t' || c == '\x0c' then tokensFrom fuel depth filled rest
    else if c == '#' then tokensFrom fuel depth filled (rest.dropWhile (· != '\n'))
    else if c == '\\' then
      match rest with
      | '\n' :: d :: rest => tokensFrom fuel depth filled (d :: rest)
      | _ => none
    else if c == '\n' then do
      let rest ← lineStart? depth rest
      if depth == 0 && filled then (tokensFrom fuel depth false rest).map (.lineEnd :: ·)
      else tokensFrom fuel depth filled rest
    else do
      let (t, rest) ← token? (c :: rest)
      let depth := depthAfter depth t
      if depthLimit < depth then none
      else (tokensFrom fuel depth true rest).map (t :: ·)

/-- The tokens of a text. -/
def tokens? (cs : List Char) : Option (List Token) := do
  let rest ← lineStart? 0 cs
  tokensFrom (rest.length + 1) 0 false rest

end PacketSmith.Markup.Literal
