import PacketSmith.Code.Emit
import PacketSmith.Target.Basic

/-!
# Code that writes and reads values

For every wire type, code that writes the value of an expression to the buffer and code that reads a
value back. A container is its size and then its elements, or its keys and values; the code of its
parameters stands one block deeper.

The code of a type is built from the code of its parameters, whatever they are. A parameter that is
missing, or a type without a serializer, is a fault only once the code asks for it, behind the lines
that come before.
-/

namespace PacketSmith.Code

/-- What code is emitted with: a target and its serializers. -/
structure Coder where
  /-- The target. -/
  target : Target
  /-- The serializers by tag. -/
  table : Table Serializer

namespace Coder

/-- The serializer of a type. A tag without one is a fault that names the type. -/
def serializer (c : Coder) (w : WireType) : Except Fault Serializer :=
  match c.table.lookup w.tag with
  | .ok s => .ok s
  | .error _ => do
    let type ← w.text
    .error (.unmappedType c.table.language w.tag.name type)

/-- The spelling of a type. -/
def spell (c : Coder) (w : WireType) : Except Fault String := c.target.spelling.spell w.name

/-- The spelling of a type where the target declares values with their types. -/
def annotation (c : Coder) (w : WireType) : Except Fault (Option String) :=
  if c.target.annotates then do
    let type ← c.spell w
    return some type
  else return none

/-- Emits the code that writes the value of an expression, at a depth of blocks. -/
abbrev Writing := Expr → Int → Emit Unit

/-- Emits the code that reads a value, at a depth of blocks, and gives the variable that holds it.
-/
abbrev Reading := Int → Emit Expr

/-- The code that writes a value, given the code that writes the parameters of its type. -/
def writeWith (c : Coder) (w : WireType) (params : List Writing) : Writing := fun source depth => do
  match ← Emit.ofExcept (c.serializer w) with
  | .scalar kind => Emit.line depth (.writeScalar kind source)
  | .sequence kind =>
    let n ← Emit.fresh
    Emit.line depth (.writeSize (.sequence kind) source)
    Emit.line depth (.forElements n source)
    let writeElement ← Emit.parameter params 0
    writeElement (.element n) (depth + 1)
    Emit.line depth .close
  | .map =>
    let n ← Emit.fresh
    Emit.line depth (.writeSize .map source)
    Emit.line depth (.forEntries n source)
    let writeKey ← Emit.parameter params 0
    writeKey (.key n) (depth + 1)
    let writeValue ← Emit.parameter params 1
    writeValue (.value n) (depth + 1)
    Emit.line depth .close
  | .message => Emit.line depth (.writeMessage source w.id)
  | .unspecified => Emit.ofExcept (.error .unspecifiedSerializer)

/-- The code that reads a value, given the code that reads the parameters of its type. -/
def readWith (c : Coder) (w : WireType) (params : List Reading) : Reading := fun depth => do
  match ← Emit.ofExcept (c.serializer w) with
  | .scalar kind =>
    let n ← Emit.fresh
    let type ← Emit.ofExcept (c.annotation w)
    Emit.line depth (.readScalar n kind type)
    return .result n
  | .sequence kind =>
    let n ← Emit.fresh
    let type ← Emit.ofExcept (c.spell w)
    Emit.line depth (.newContainer n type)
    Emit.line depth (.readSize n)
    Emit.line depth (.forCount n)
    let readElement ← Emit.parameter params 0
    let item ← readElement (depth + 1)
    Emit.line (depth + 1) (.addElement n kind item)
    Emit.line depth .close
    return .result n
  | .map =>
    let n ← Emit.fresh
    let type ← Emit.ofExcept (c.spell w)
    Emit.line depth (.newContainer n type)
    Emit.line depth (.readSize n)
    Emit.line depth (.forCount n)
    let readKey ← Emit.parameter params 0
    let key ← readKey (depth + 1)
    let readValue ← Emit.parameter params 1
    let value ← readValue (depth + 1)
    Emit.line (depth + 1) (.addEntry n key value)
    Emit.line depth .close
    return .result n
  | .message =>
    let n ← Emit.fresh
    let type ← Emit.ofExcept (c.annotation w)
    Emit.line depth (.readMessage n w.id type)
    return .result n
  | .unspecified => Emit.ofExcept (.error .unspecifiedSerializer)

mutual

/-- The code that writes a value of a type. -/
def write (c : Coder) : WireType → Writing
  | .mk tag name params id => writeWith c (.mk tag name params id) (writeAll c params)

/-- The code that writes values of each of some types. -/
def writeAll (c : Coder) : List WireType → List Writing
  | [] => []
  | w :: ws => write c w :: writeAll c ws

end

mutual

/-- The code that reads a value of a type. -/
def read (c : Coder) : WireType → Reading
  | .mk tag name params id => readWith c (.mk tag name params id) (readAll c params)

/-- The code that reads values of each of some types. -/
def readAll (c : Coder) : List WireType → List Reading
  | [] => []
  | w :: ws => read c w :: readAll c ws

end

/-- A field as it is declared: it needs a serializer, and its type a spelling. -/
def declare (c : Coder) (f : Field) : Except Fault DeclaredField := do
  let s ← c.serializer f.type
  let type ← c.target.fieldType s f.type
  return ⟨f, type, shown f.name⟩

end Coder
end PacketSmith.Code
