import PacketSmith.TypeName.Basic

/-!
# Reading type names

A type name is written as an optionally qualified name, with type parameters between angle brackets
after it and any number of `[]` behind: `java.util.Map<Integer, List<Item>>`, `long[][]`. Spaces,
tabulations, form feeds, carriage returns and line feeds may stand between the marks. Only the last
segment of a qualified name is kept.

The text is split into marks (`TypeName.marks?`), and the marks are read from left to right with the
generic types that are still open on a stack (`TypeName.step?`). Both are folds over the input.
-/

namespace PacketSmith.TypeName

/-- A mark in the text of a type name. -/
inductive Mark where
  /-- A name, or one segment of a qualified name. -/
  | name (text : String)
  | dot
  | less
  | greater
  | comma
  | opening
  | closing
deriving DecidableEq, Repr

/-- The character may begin a name. -/
def isNameStart (c : Char) : Bool :=
  ('A' ≤ c && c ≤ 'Z') || ('a' ≤ c && c ≤ 'z') || c == '_' || c == '$'

/-- The character may go on a name. -/
def isNamePart (c : Char) : Bool :=
  isNameStart c || ('0' ≤ c && c ≤ '9')

/-- The character may stand between marks. -/
def isGap (c : Char) : Bool :=
  c == ' ' || c == '\t' || c == Char.ofNat 0x0C || c == '\r' || c == '\n'

/-- The mark of a single character. -/
def punctuation? : Char → Option Mark
  | '.' => some .dot
  | '<' => some .less
  | '>' => some .greater
  | ',' => some .comma
  | '[' => some .opening
  | ']' => some .closing
  | _ => none

/-- The name begun so far, last character first, as a mark before the given marks. -/
def closeName (pending : List Char) (marks : List Mark) : List Mark :=
  if pending.isEmpty then marks else .name (String.ofList pending.reverse) :: marks

/-- The marks of the characters, where `pending` is the name begun so far, last character first. A
name is as long as it can be; a character that belongs to no mark makes the text malformed. -/
def marksFrom? (pending : List Char) : List Char → Option (List Mark)
  | [] => some (closeName pending [])
  | c :: rest =>
    if (if pending.isEmpty then isNameStart c else isNamePart c) then marksFrom? (c :: pending) rest
    else if isGap c then (marksFrom? [] rest).map (closeName pending)
    else
      match punctuation? c with
      | some m => (marksFrom? [] rest).map fun ms => closeName pending (m :: ms)
      | none => none

/-- The marks of a text. -/
def marks? (s : String) : Option (List Mark) := marksFrom? [] s.toList

/-- What has just been read. -/
inductive Reading where
  /-- A type must begin here. -/
  | typeStart
  /-- A segment must follow the dot. -/
  | segmentStart
  /-- A qualified name; parameters may follow its last segment. -/
  | named (head : String)
  /-- A complete type, which may still become an array. -/
  | complete (type : TypeName)
  /-- An opening bracket behind a complete type. -/
  | bracket (element : TypeName)

/-- A generic type that is still open: its head and its parameters so far, last first. -/
structure OpenGeneric where
  /-- The head. -/
  head : String
  /-- The parameters before the current one, last first. -/
  params : List TypeName

/-- The reader: what has just been read, and the generic types still open, innermost first. -/
structure ReaderState where
  /-- What has just been read. -/
  reading : Reading
  /-- The generic types still open. -/
  pending : List OpenGeneric

/-- The reader before the first mark. -/
def ReaderState.start : ReaderState := ⟨.typeStart, []⟩

/-- A mark behind a complete type. -/
def afterComplete? (t : TypeName) (pending : List OpenGeneric) : Mark → Option ReaderState
  | .opening => some ⟨.bracket t, pending⟩
  | .comma =>
    match pending with
    | g :: rest => some ⟨.typeStart, ⟨g.head, t :: g.params⟩ :: rest⟩
    | [] => none
  | .greater =>
    match pending with
    | g :: rest => some ⟨.complete (mk g.head (t :: g.params).reverse), rest⟩
    | [] => none
  | _ => none

/-- The reader after one more mark, if the mark may stand there. -/
def step? (s : ReaderState) (m : Mark) : Option ReaderState :=
  match s.reading, m with
  | .typeStart, .name n => some ⟨.named n, s.pending⟩
  | .segmentStart, .name n => some ⟨.named n, s.pending⟩
  | .named _, .dot => some ⟨.segmentStart, s.pending⟩
  | .named h, .less => some ⟨.typeStart, ⟨h, []⟩ :: s.pending⟩
  | .named h, m => afterComplete? (simple h) s.pending m
  | .complete t, m => afterComplete? t s.pending m
  | .bracket t, .closing => some ⟨.complete (array t), s.pending⟩
  | _, _ => none

/-- The type that has been read once no mark is left. -/
def ReaderState.finish? : ReaderState → Option TypeName
  | ⟨.named h, []⟩ => some (simple h)
  | ⟨.complete t, []⟩ => some t
  | _ => none

/-- The type name that marks spell. -/
def ofMarks? (ms : List Mark) : Option TypeName :=
  (ms.foldlM step? ReaderState.start).bind ReaderState.finish?

/-- The type name that a text spells. -/
def read? (s : String) : Option TypeName :=
  (marks? s).bind ofMarks?

end PacketSmith.TypeName
