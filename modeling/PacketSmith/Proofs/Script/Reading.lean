import PacketSmith.Target.Basic

/-!
# Reading generated code

The bodies of generated functions are texts in a small part of C++ or TypeScript. This module reads
such a text back, for each target by its own syntax:

* `lexemes` cuts a text into paths of names (`buffer.writeInt`, `message->id`) and single marks;
  blanks only divide.
* `sentences` cuts lexemes behind each semicolon outside parentheses and behind each brace.
* `piece?` reads one sentence: an instruction, the opening of a block, or its closing.
* `nest?` turns pieces into `Code`, where a block holds the code inside it.

`Code.ofText?` is all of it. Names of variables are kept as they stand in the text. The type of a
declared scalar is skipped; that of a declared container says which kind of collection it is.
-/

namespace PacketSmith.Script

/-! ### Lexemes -/

/-- A piece of text that is not cut further. -/
inductive Lexeme where
  /-- Names with dots or arrows between them. -/
  | path (names : List String)
  /-- A single character. -/
  | mark (c : Char)
deriving DecidableEq, Repr

/-- The path begun so far, before the given lexemes: `names` are the names of the path that are
complete and `word` is the name begun, both last first. -/
def closePath (names : List String) (word : List Char) (ls : List Lexeme) : List Lexeme :=
  if names.isEmpty && word.isEmpty then ls
  else .path (String.ofList word.reverse :: names).reverse :: ls

/-- The lexemes of the characters, behind the path begun so far. -/
def lexemesFrom (names : List String) (word : List Char) : List Char → List Lexeme
  | [] => closePath names word []
  | '-' :: '>' :: cs => lexemesFrom (String.ofList word.reverse :: names) [] cs
  | c :: cs =>
    if TypeName.isNamePart c then lexemesFrom names (c :: word) cs
    else if c == '.' then lexemesFrom (String.ofList word.reverse :: names) [] cs
    else if Text.isBlank c then closePath names word (lexemesFrom [] [] cs)
    else closePath names word (.mark c :: lexemesFrom [] [] cs)

/-- The lexemes of a text. -/
def lexemes (s : String) : List Lexeme := lexemesFrom [] [] s.toList

/-- The sentences of the lexemes, where `current` is the sentence begun so far, last lexeme first,
and `depth` is the number of its open parentheses. -/
def sentencesFrom (depth : Nat) (current : List Lexeme) : List Lexeme → List (List Lexeme)
  | [] => if current.isEmpty then [] else [current.reverse]
  | l :: ls =>
    if l = .mark '\x7b' ∨ l = .mark '\x7d' ∨ (l = .mark ';' ∧ depth = 0) then
      (l :: current).reverse :: sentencesFrom 0 [] ls
    else if l = .mark '(' then sentencesFrom (depth + 1) (l :: current) ls
    else if l = .mark ')' then sentencesFrom (depth - 1) (l :: current) ls
    else sentencesFrom depth (l :: current) ls

/-- The sentences of the lexemes. -/
def sentences (ls : List Lexeme) : List (List Lexeme) := sentencesFrom 0 [] ls

/-! ### Instructions and blocks -/

/-- A value that an instruction uses. -/
inductive Operand where
  /-- A field of the message that is being written. -/
  | field (name : String)
  /-- A variable. -/
  | temp (name : String)
deriving DecidableEq, Repr

/-- The collections that generated code works on. -/
inductive Collection where
  | list | set | map
deriving DecidableEq, Repr

/-- How the size of a collection is asked for. -/
inductive Measure where
  /-- Any collection has it. -/
  | any
  /-- Only lists have it. -/
  | length
  /-- Only sets and maps have it. -/
  | size
deriving DecidableEq, Repr

/-- An instruction of generated code. -/
inductive Instruction where
  /-- Writes a scalar. -/
  | write (kind : Scalar) (source : Operand)
  /-- Writes the size of a collection as an `int`. -/
  | writeSize (measure : Measure) (source : Operand)
  /-- Writes a nested message under an id, which is kept as it stands in the text. -/
  | writePacket (source : Operand) (id : String)
  /-- Declares a variable and reads a scalar into it. -/
  | read (target : String) (kind : Scalar)
  /-- Declares a variable and reads a nested message into it. -/
  | readPacket (target : String) (id : String)
  /-- Declares a variable that holds an empty collection. -/
  | create (target : String) (kind : Collection)
  /-- Puts an item at the end of a list. -/
  | append (target item : String)
  /-- Adds an item to a set. -/
  | addMember (target item : String)
  /-- Adds an entry to a map, unless the map has the key. -/
  | putNew (target key value : String)
  /-- Adds an entry to a map, in the place of one with the same key. -/
  | put (target key value : String)
  /-- Stores a variable in a field of the message that is being read. -/
  | store (field item : String)
  /-- Ends the function with the message that is being read. -/
  | finish
deriving DecidableEq, Repr

/-- What a block is run for. -/
inductive Header where
  /-- Each item of a collection. -/
  | forEach (item : String) (source : Operand)
  /-- Each key and value of a map. -/
  | forPairs (key value : String) (source : Operand)
  /-- Each number from zero to below a bound. -/
  | forCount (index bound : String)
  /-- The case that nothing is left to read. -/
  | ifUnreadable
deriving DecidableEq, Repr

/-- What one sentence says. -/
inductive Piece where
  | plain (i : Instruction)
  | opening (h : Header)
  | closing
deriving DecidableEq, Repr

/-- Code as a tree: a block holds the code inside it. -/
inductive Code where
  | plain (i : Instruction)
  | block (h : Header) (body : List Code)
deriving Repr

/-! ### Parts of sentences -/

/-- The operand that a path denotes. -/
def operand? : Target → List String → Option Operand
  | .cpp, ["message", f] => some (.field f)
  | .typescript, ["packet", f] => some (.field f)
  | _, [x] => some (.temp x)
  | _, _ => none

/-- The measure that the last name of a path asks for. -/
def measure? : Target → String → Option Measure
  | .cpp, "size" => some .any
  | .typescript, "length" => some .length
  | .typescript, "size" => some .size
  | _, _ => none

/-- The size that a path asks for. -/
def writeSize? (t : Target) (path : List String) : Option Instruction := do
  let m ← measure? t (← path.getLast?)
  let source ← operand? t path.dropLast
  return .writeSize m source

/-- The ends of the names of the buffer's functions, with what they write or read. -/
def suffixes (t : Target) : List (String × Scalar) := [
  (match t with | .cpp => "Bool" | .typescript => "Boolean", .bool),
  ("Byte", .byte), ("Short", .short), ("Int", .int), ("Long", .long), ("Float", .float),
  ("Double", .double), ("Char", .char), ("String", .string)]

/-- The scalar that a function of the buffer writes or reads. -/
def scalar? (t : Target) (verb name : String) : Option Scalar :=
  ((suffixes t).map fun (s, k) => (verb ++ s, k)).lookup name

/-- The collection that a type declares, by its head. -/
def collection? : Target → String → Option Collection
  | .cpp, "vector" => some .list
  | .cpp, "list" => some .list
  | .cpp, "set" => some .set
  | .cpp, "map" => some .map
  | .typescript, "Array" => some .list
  | .typescript, "Set" => some .set
  | .typescript, "Map" => some .map
  | _, _ => none

/-- What follows type arguments of which `depth` brackets are still open. -/
def afterArguments? : (depth : Nat) → List Lexeme → Option (List Lexeme)
  | 0, ls => some ls
  | _ + 1, [] => none
  | n + 1, l :: ls =>
    if l = .mark '<' then afterArguments? (n + 2) ls
    else if l = .mark '>' then afterArguments? n ls
    else afterArguments? (n + 1) ls

/-- The id at the front, as it stands in the text, and what follows it. -/
def id? : List Lexeme → Option (String × List Lexeme)
  | .mark '-' :: .path [s] :: ls => some ("-" ++ s, ls)
  | .path [s] :: ls => some (s, ls)
  | _ => none

/-- A nested message that is written: the call behind its opening parenthesis. -/
def writePacket? (t : Target) (ls : List Lexeme) : Option Instruction := do
  let (path, rest) ← match t, ls with
    | .cpp, .mark '&' :: .path p :: .mark ',' :: rest => some (p, rest)
    | .typescript, .path p :: .mark ',' :: rest => some (p, rest)
    | _, _ => none
  let source ← operand? t path
  let (id, rest) ← id? rest
  if rest = [.mark ')', .mark ';'] then some (.writePacket source id) else none

/-- A call of a function of the buffer behind its opening parenthesis. -/
def call? (t : Target) (name : String) (ls : List Lexeme) : Option Instruction :=
  if name = "writePacket" then writePacket? t ls
  else do
    let kind ← scalar? t "write" name
    match t, ls with
    | _, [.path p, .mark ')', .mark ';'] =>
      match operand? t p with
      | some source => some (.write kind source)
      | none => if t = .typescript ∧ kind = .int then writeSize? t p else none
    | .cpp, [.path p, .mark '(', .mark ')', .mark ')', .mark ';'] =>
      if kind = .int then writeSize? t p else none
    | _, _ => none

/-- A function of a collection that is called behind its opening parenthesis. -/
def insertion? (t : Target) (target name : String) (ls : List Lexeme) : Option Instruction :=
  match t, name, ls with
  | .cpp, "emplace_back", [.path [x], .mark ')', .mark ';'] => some (.append target x)
  | .cpp, "emplace", [.path [x], .mark ')', .mark ';'] => some (.addMember target x)
  | .cpp, "emplace", [.path [k], .mark ',', .path [v], .mark ')', .mark ';'] =>
    some (.putNew target k v)
  | .typescript, "push", [.path [x], .mark ')', .mark ';'] => some (.append target x)
  | .typescript, "add", [.path [x], .mark ')', .mark ';'] => some (.addMember target x)
  | .typescript, "set", [.path [k], .mark ',', .path [v], .mark ')', .mark ';'] =>
    some (.put target k v)
  | _, _, _ => none

/-- A declaration in C++, which begins with a type. -/
def cppDeclaration? : List Lexeme → Option Instruction
  | .path [_] :: .path [x] :: .mark '=' :: .path ["buffer", name] :: ls => do
    let kind ← scalar? .cpp "read" name
    if ls = [.mark '(', .mark ')', .mark ';'] then some (.read x kind) else none
  | .path ["auto"] :: .path [x] :: .mark '=' :: .mark '*' :: .mark '(' :: .mark '(' :: .path [_] ::
      .mark '*' :: .mark ')' :: .path ["buffer", "readPacket"] :: .mark '(' :: ls => do
    let (id, rest) ← id? ls
    if rest = [.mark ')', .path ["", "get"], .mark '(', .mark ')', .mark ')', .mark ';'] then
      some (.readPacket x id)
    else none
  | .path [head] :: .mark '<' :: ls => do
    let kind ← collection? .cpp head
    match ← afterArguments? 1 ls with
    | [.path [x], .mark ';'] => some (.create x kind)
    | _ => none
  | _ => none

/-- A declaration in TypeScript, behind its equals sign. -/
def typeScriptDeclaration? (x : String) : List Lexeme → Option Instruction
  | .path ["buffer", "readPacket"] :: .mark '(' :: ls => do
    let (id, rest) ← id? ls
    if rest = [.mark ')', .mark ';'] then some (.readPacket x id) else none
  | .path ["buffer", name] :: ls => do
    let kind ← scalar? .typescript "read" name
    if ls = [.mark '(', .mark ')', .mark ';'] then some (.read x kind) else none
  | .path ["new"] :: .path [head] :: .mark '<' :: ls => do
    let kind ← collection? .typescript head
    if (← afterArguments? 1 ls) = [.mark '(', .mark ')', .mark ';'] then some (.create x kind)
    else none
  | _ => none

/-- A declaration. -/
def declaration? : Target → List Lexeme → Option Instruction
  | .cpp, ls => cppDeclaration? ls
  | .typescript, .path ["const"] :: .path [x] :: .mark '=' :: ls => typeScriptDeclaration? x ls
  | .typescript, _ => none

/-- A loop over a collection in C++: what stands between its parentheses behind the type. -/
def cppLoop? : List Lexeme → Option Header
  | [.path [x], .mark ':', .path p, .mark ')', .mark '\x7b'] =>
    (operand? .cpp p).map (.forEach x)
  | [.mark '[', .path [k], .mark ',', .path [v], .mark ']', .mark ':', .path p, .mark ')',
      .mark '\x7b'] => (operand? .cpp p).map (.forPairs k v)
  | _ => none

/-- A loop over a collection in TypeScript: what stands between its parentheses behind `const`. -/
def typeScriptLoop? : List Lexeme → Option Header
  | [.path [x], .path ["of"], .path p, .mark ')', .mark '\x7b'] =>
    (operand? .typescript p).map (.forEach x)
  | [.mark '[', .path [k], .mark ',', .path [v], .mark ']', .path ["of"], .path p, .mark ')',
      .mark '\x7b'] => (operand? .typescript p).map (.forPairs k v)
  | _ => none

/-- A loop that counts, between its parentheses behind the word that declares the index. -/
def countLoop? : List Lexeme → Option Header
  | [.path [i], .mark '=', .path ["0"], .mark ';', .path [j], .mark '<', .path [bound], .mark ';',
      .path [k], .mark '+', .mark '+', .mark ')', .mark '\x7b'] =>
    if i = j ∧ i = k then some (.forCount i bound) else none
  | _ => none

/-- A loop behind its opening parenthesis. -/
def loop? : Target → List Lexeme → Option Header
  | .cpp, .path ["const"] :: .path ["auto"] :: .mark '&' :: ls => cppLoop? ls
  | .cpp, .path ["int"] :: ls => countLoop? ls
  | .typescript, .path ["const"] :: ls => typeScriptLoop? ls
  | .typescript, .path ["let"] :: ls => countLoop? ls
  | _, _ => none

/-! ### Sentences and blocks -/

/-- What a sentence says that begins with a single word. -/
def wordSentence? (t : Target) (word : String) (ls : List Lexeme) : Option Piece :=
  if word = "return" then
    if ls = [.path ["packet"], .mark ';'] then some (.plain .finish) else none
  else if word = "if" then
    if ls = [.mark '(', .mark '!', .path ["buffer", "isReadable"], .mark '(', .mark ')', .mark ')',
        .mark '\x7b'] then some (.opening .ifUnreadable)
    else none
  else if word = "for" then
    match ls with
    | .mark '(' :: ls => (loop? t ls).map .opening
    | _ => none
  else (declaration? t (.path [word] :: ls)).map .plain

/-- What a sentence says that begins with a name of something. -/
def memberSentence? (t : Target) (owner name : String) (ls : List Lexeme) : Option Piece :=
  match ls with
  | .mark '(' :: ls =>
    if owner = "buffer" then (call? t name ls).map .plain
    else (insertion? t owner name ls).map .plain
  | [.mark '=', .path [x], .mark ';'] =>
    if owner = "packet" then some (.plain (.store name x)) else none
  | _ => none

/-- What a sentence says. -/
def piece? (t : Target) : List Lexeme → Option Piece
  | .path [word] :: ls => wordSentence? t word ls
  | .path [owner, name] :: ls => memberSentence? t owner name ls
  | [.mark c] => if c = '\x7d' then some .closing else none
  | _ => none

/-- What lexemes say, sentence by sentence. -/
def pieces? (t : Target) (ls : List Lexeme) : Option (List Piece) :=
  (sentences ls).mapM (piece? t)

/-- The code of the pieces. `done` is the code of the block that is open, last first, and `outer`
are the blocks around it with their code so far, innermost first. -/
def nestFrom? (done : List Code) (outer : List (Header × List Code)) :
    List Piece → Option (List Code)
  | [] =>
    match outer with
    | [] => some done.reverse
    | _ :: _ => none
  | .plain i :: ps => nestFrom? (.plain i :: done) outer ps
  | .opening h :: ps => nestFrom? [] ((h, done) :: outer) ps
  | .closing :: ps =>
    match outer with
    | [] => none
    | (h, before) :: outer => nestFrom? (.block h done.reverse :: before) outer ps

/-- The code of the pieces; every block must be closed and nothing else. -/
def nest? (ps : List Piece) : Option (List Code) := nestFrom? [] [] ps

/-- The code that a text denotes. -/
def Code.ofText? (t : Target) (s : String) : Option (List Code) := do
  let ps ← pieces? t (lexemes s)
  nest? ps

end PacketSmith.Script
