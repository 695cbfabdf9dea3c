import PacketSmith.Text.CodePoint
import PacketSmith.Text.NameTree.AtoB
import PacketSmith.Text.NameTree.C
import PacketSmith.Text.NameTree.DtoG
import PacketSmith.Text.NameTree.HtoK
import PacketSmith.Text.NameTree.LtoM
import PacketSmith.Text.NameTree.NtoR
import PacketSmith.Text.NameTree.S
import PacketSmith.Text.NameTree.Shared
import PacketSmith.Text.NameTree.TtoZ

/-!
# Names of characters

Characters have names in capital letters, and some have further names: those of the Unicode
standard, version 14. The names of Hangul syllables are made of the names of their letters, those of
unified ideographs end in their code point, and some other names end in a number. All the rest are
kept as a tree of words.

An entry of the tree is a word, or several with underscores between them. Behind an entry may stand
the entries that continue it, between brackets. Square brackets say that the entry is a name by
itself, too. Entries side by side start with different words, so a name is found on one way through
the tree at most. There is a blank, a line end or a bracket between entries.

What occurs often is written once. A word in small letters is the short form of a word. A number
behind an ampersand stands for the entries of a list. What stands before a colon is the start of
several entries, with colons between their ends. Two numbers with a tilde between them, the first of
them at the end of an entry, stand for an entry with each number from the one to the other.

The case of letters does not matter, but for syllables and unified ideographs.
-/

namespace PacketSmith.Text

/-- What is left of a list behind its start. -/
def restBehind? {α : Type} [BEq α] : (start : List α) → List α → Option (List α)
  | [], as => some as
  | _ :: _, [] => none
  | s :: start, a :: as => if s == a then restBehind? start as else none

/-- The number that digits denote in a base. -/
def numberIn? (base : Nat) (cs : List Char) : Option Nat := do
  let ds ← cs.mapM hexValue?
  if ds.all (· < base) then some (ds.foldl (fun n d => base * n + d) 0) else none

/-! ## Names in the tree -/

namespace NameTree

/-- The tree of names with a given first letter, as a text. -/
def treeOf (c : Char) : String :=
  match c with
  | 'A' => namesInA
  | 'B' => namesInB
  | 'C' => namesInC
  | 'D' => namesInD
  | 'E' => namesInE
  | 'F' => namesInF
  | 'G' => namesInG
  | 'H' => namesInH
  | 'I' => namesInI
  | 'J' => namesInJ
  | 'K' => namesInK
  | 'L' => namesInL
  | 'M' => namesInM
  | 'N' => namesInN
  | 'O' => namesInO
  | 'P' => namesInP
  | 'Q' => namesInQ
  | 'R' => namesInR
  | 'S' => namesInS
  | 'T' => namesInT
  | 'U' => namesInU
  | 'V' => namesInV
  | 'W' => namesInW
  | 'X' => namesInX
  | 'Y' => namesInY
  | 'Z' => namesInZ
  | _ => ""

/-- The words that have short forms, each behind its short form. -/
def longWords : List (String × String) :=
  (words shortWords).filterMap fun pair =>
    match pair.splitOn "=" with
    | [short, long] => some (short, long)
    | _ => none

/-- The pieces of a text: its brackets, and what stands between brackets and blanks. -/
def piecesOf (text : String) : List String :=
  let apart := text.toList.flatMap fun c =>
    if ['(', ')', '[', ']'].contains c then [' ', c, ' '] else [c]
  words (String.ofList apart)

/-- The words of an entry. -/
def wordsOf (entry : String) : List String :=
  (entry.splitOn "_").map fun word => (longWords.lookup word).getD word

/-- The entries with a number from the one at the end of the first entry to the last number. -/
def numberedEntries (first last : String) : List String :=
  let digits := last.length
  let start := String.ofList (first.toList.take (first.length - digits))
  match numberIn? 10 (first.toList.drop (first.length - digits)), numberIn? 10 last.toList with
  | some low, some high =>
    (List.range (high + 1 - low)).map fun i =>
      let number := toString (low + i)
      start ++ String.ofList (List.replicate (digits - number.length) '0') ++ number
  | _, _ => []

/-- The entries that a piece of the tree stands for, given the lists of entries. -/
def expand (lists : List (List String)) (piece : String) : List String :=
  match piece.toList with
  | '&' :: digits => ((numberIn? 10 digits).bind fun i => lists[i]?).getD []
  | _ =>
    match piece.splitOn "~", piece.splitOn ":" with
    | [first, last], _ => numberedEntries first last
    | _, start :: first :: rest => (first :: rest).map (start ++ ·)
    | _, _ => [piece]

/-- The lists of entries. The pieces of a list may stand for lists before it. -/
def sharedLists : List (List String) :=
  (sharedEntries.splitOn ";").foldl
    (fun lists text => lists ++ [(piecesOf text).flatMap (expand lists)]) []

/-- The bracket opens the entries that continue the one before it. -/
def opens (entry : String) : Bool := entry == "(" || entry == "["

/-- The bracket closes such entries. -/
def closes (entry : String) : Bool := entry == ")" || entry == "]"

/-- The words of a name are found among entries. `skipped` brackets are open whose entries continue
one that does not fit. -/
def has : (skipped : Nat) → (words : List String) → (entries : List String) → Bool
  | _, _, [] => false
  | skipped + 1, words, entry :: rest =>
    if closes entry then has skipped words rest
    else if opens entry then has (skipped + 2) words rest
    else has (skipped + 1) words rest
  | 0, words, entry :: rest =>
    if closes entry then false
    else if opens entry then has 1 words rest
    else
      match restBehind? (wordsOf entry) words with
      | none => has 0 words rest
      | some [] => rest.head? != some "("
      | some left =>
        match rest with
        | next :: below => opens next && has 0 left below
        | [] => false

/-- A name in capital letters is in the tree. -/
def hasName (name : List Char) : Bool :=
  match name with
  | [] => false
  | c :: _ =>
    has 0 ((String.ofList name).splitOn " ")
      ((piecesOf (treeOf c)).flatMap (expand sharedLists))

end NameTree

/-! ## Names with a number -/

/-- Names that end in a number. -/
structure NumberedNames where
  /-- What stands before the number. -/
  start : String
  /-- The base that the number is written in. -/
  base : Nat
  /-- How many digits are written. -/
  digits : Nat
  /-- The first number. -/
  first : Nat
  /-- The last number. -/
  last : Nat
deriving DecidableEq, Repr

/-- The names that end in a number. -/
def numberedNames : List NumberedNames := [
  ⟨"CJK COMPATIBILITY IDEOGRAPH-", 16, 4, 0xF900, 0xFA6D⟩,
  ⟨"CJK COMPATIBILITY IDEOGRAPH-", 16, 4, 0xFA70, 0xFAD9⟩,
  ⟨"CJK COMPATIBILITY IDEOGRAPH-", 16, 5, 0x2F800, 0x2FA1D⟩,
  ⟨"KHITAN SMALL SCRIPT CHARACTER-", 16, 5, 0x18B00, 0x18CD5⟩,
  ⟨"NUSHU CHARACTER-", 16, 5, 0x1B170, 0x1B2FB⟩,
  ⟨"TANGUT COMPONENT-", 10, 3, 1, 768⟩,
  ⟨"VARIATION SELECTOR-", 10, 1, 1, 9⟩,
  ⟨"VARIATION SELECTOR-", 10, 2, 10, 99⟩,
  ⟨"VARIATION SELECTOR-", 10, 3, 100, 256⟩]

/-- A name in capital letters is one of the names. -/
def NumberedNames.has (ns : NumberedNames) (name : List Char) : Bool :=
  match restBehind? ns.start.toList name with
  | none => false
  | some ds =>
    ds.length == ns.digits && (numberIn? ns.base ds).any fun n => ns.first ≤ n && n ≤ ns.last

/-- The numbers of raised dots stand in order, each one once. -/
def areDots : List Char → Bool
  | [] => false
  | [c] => '1' ≤ c && c ≤ '8'
  | c :: d :: cs => '1' ≤ c && c < d && areDots (d :: cs)

/-- A name in capital letters is that of a pattern of raised dots. -/
def isDotPattern (name : List Char) : Bool :=
  (restBehind? "BRAILLE PATTERN DOTS-".toList name).any areDots

/-! ## Syllables and ideographs -/

/-- The names of the letters that a syllable starts with. -/
def syllableStarts : List String :=
  ["G", "GG", "N", "D", "DD", "R", "M", "B", "BB", "S", "SS", "", "J", "JJ", "C", "K", "T", "P",
    "H"]

/-- The names of the letters in the middle of a syllable. -/
def syllableMiddles : List String :=
  ["A", "AE", "YA", "YAE", "EO", "E", "YEO", "YE", "O", "WA", "WAE", "OE", "YO", "U", "WEO", "WE",
    "WI", "YU", "EU", "YI", "I"]

/-- The names of the letters that a syllable ends with. -/
def syllableEnds : List String :=
  ["", "G", "GG", "GS", "N", "NJ", "NH", "D", "L", "LG", "LM", "LB", "LS", "LT", "LP", "LH", "M",
    "B", "BS", "S", "SS", "NG", "J", "C", "K", "T", "P", "H"]

/-- What follows the longest of some parts that characters start with. -/
def behindLongest? (parts : List String) (cs : List Char) : Option (List Char) :=
  (parts.filterMap fun p => restBehind? p.toList cs).foldl
    (fun best rest =>
      match best with
      | some b => if rest.length < b.length then some rest else some b
      | none => some rest)
    none

/-- Characters are the name of a syllable. -/
def isSyllable (cs : List Char) : Bool :=
  (do
    let rest ← behindLongest? syllableStarts cs
    let rest ← behindLongest? syllableMiddles rest
    behindLongest? syllableEnds rest) == some []

/-- Runs of unified ideographs, first and last code point, in ascending order. -/
def ideographRuns : List (Nat × Nat) := [
  (0x3400, 0x4DBF), (0x4E00, 0x9FFF), (0x20000, 0x2A6DF), (0x2A700, 0x2B738), (0x2B740, 0x2B81D),
  (0x2B820, 0x2CEA1), (0x2CEB0, 0x2EBE0), (0x30000, 0x3134A)]

/-- Characters are the code point of a unified ideograph in four or five capital digits. -/
def isIdeograph (cs : List Char) : Bool :=
  (cs.length == 4 || cs.length == 5) && !cs.any Char.isLower
    && (numberIn? 16 cs).any fun n => inRuns n ideographRuns

/-- Characters are the name of a character. -/
def isCharacterName (name : List Char) : Bool :=
  match restBehind? "HANGUL SYLLABLE ".toList name,
      restBehind? "CJK UNIFIED IDEOGRAPH-".toList name with
  | some syllable, _ => isSyllable syllable
  | none, some digits => isIdeograph digits
  | none, none =>
    let name := name.map Char.toUpper
    numberedNames.any (·.has name) || isDotPattern name || NameTree.hasName name

end PacketSmith.Text
