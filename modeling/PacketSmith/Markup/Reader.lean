import PacketSmith.Layout.StyledText
import PacketSmith.Markup.Literal.Value
import PacketSmith.Markup.Style
import PacketSmith.Markup.Tag
import PacketSmith.Text.Picture

/-!
# Reading marked text

A marked text becomes a styled text. A tag opens a span, and a tag that starts with a slash closes
the last open span of the style it names, or the last one of all. A tag that closes nothing is a
fault, and so is a tag for an action whose parameters cannot be read, once it is closed. Spans that
are left open reach to the end. Codes of pictures are replaced in the text between tags, and control
characters that would move the text are dropped.
-/

namespace PacketSmith.Markup

/-- A tag that has not been closed: the place behind it, the normal form of its name, and its
parameters. -/
structure OpenTag where
  /-- How many characters stand before the span. -/
  start : Nat
  /-- The normal form of the name. -/
  name : String
  /-- The parameters. -/
  parameters : Option String
deriving DecidableEq, Repr

/-- The words of the style of an open tag. -/
def OpenTag.style (t : OpenTag) : String := t.parameters.elim t.name fun p => t.name ++ " " ++ p

/-- The tag is for an action. -/
def OpenTag.isAction (t : OpenTag) : Bool := t.name.toList.head? == some '@'

/-- The part of an action's parameters that is a literal value. A name before a pair of brackets is
that of the action, and a name alone stands for an action without parameters. -/
def actionValue (cs : List Char) : List Char :=
  let isName (c : Char) : Bool := Text.isWord c || c == '.'
  match cs.dropWhile isName with
  | [] => "()".toList
  | '(' :: rest =>
    if rest.getLast? == some ')' && !rest.contains '\n' then '(' :: rest else cs
  | _ => cs

/-- The parameters of an open tag can be read. -/
def OpenTag.isReadable (t : OpenTag) : Bool :=
  match t.parameters with
  | none => true
  | some p => p.isEmpty || Literal.reads (actionValue (Text.trim p).toList)

/-- What has been read of a marked text. -/
structure Reading where
  /-- The characters, last first. -/
  chars : List Char := []
  /-- The spans that are closed, last first. -/
  spans : List Span := []
  /-- The tags that are open, last first. -/
  stack : List OpenTag := []

namespace Reading

/-- The control characters that are dropped. -/
def isDropped (c : Char) : Bool :=
  let n := c.toNat
  n == 0x07 || n == 0x08 || n == 0x0B || n == 0x0C || n == 0x0D

/-- Plain text without the backslashes before opening brackets. -/
def unescape : List Char → List Char
  | '\\' :: '[' :: cs => '[' :: unescape cs
  | c :: cs => c :: unescape cs
  | [] => []

/-- More text has been read. -/
def addText (r : Reading) (text : List Char) : Reading :=
  let shown := (Text.Picture.replace (unescape text)).filter fun c => !isDropped c
  { r with chars := shown.reverse ++ r.chars }

/-- A tag has been opened. -/
def openTag (r : Reading) (t : Tag) : Except Fault Reading := do
  let name ← normalName t.name
  return { r with stack := ⟨r.chars.length, name, t.parameters⟩ :: r.stack }

/-- The span of an open tag, from its start to here. -/
def spanOf (r : Reading) (t : OpenTag) : Span :=
  ⟨t.start, r.chars.length, if t.isAction then none else some t.style⟩

/-- An open tag has been closed; `rest` is left open. -/
def closeTag (r : Reading) (t : OpenTag) (rest : List OpenTag) : Except Fault Reading :=
  if t.isAction && !t.isReadable then .error .malformedMarkup
  else .ok { r with spans := r.spanOf t :: r.spans, stack := rest }

/-- The last open tag of a name has been closed, or the last one of all if the name is empty. -/
def closeNamed (r : Reading) (name : String) : Except Fault Reading := do
  if name.isEmpty then
    match r.stack with
    | t :: rest => r.closeTag t rest
    | [] => .error .malformedMarkup
  else
    let normal ← normalName name
    match r.stack.find? fun t => t.name == normal with
    | some t => r.closeTag t (r.stack.erase t)
    | none => .error .malformedMarkup

/-- A tag has been read. -/
def addTag (r : Reading) (t : Tag) : Except Fault Reading :=
  match t.name.toList with
  | '/' :: name => r.closeNamed (Text.trim (String.ofList name))
  | _ => r.openTag t

/-- A part has been read. -/
def add (r : Reading) : Part → Except Fault Reading
  | .plain text => .ok (r.addText text)
  | .tag t => r.addTag t

/-- The span of a tag that is still open at the end. -/
def finalSpan (r : Reading) (t : OpenTag) : Span := ⟨t.start, r.chars.length, some t.style⟩

/-- The styled text that has been read. -/
def text (r : Reading) : StyledText where
  chars := r.chars.reverse
  spans := r.stack.map r.finalSpan ++ r.spans

end Reading

/-- The styled text of a marked text. -/
def read (s : String) : Except Fault StyledText := do
  let r ← (parts s).foldlM Reading.add {}
  return r.text

end PacketSmith.Markup
