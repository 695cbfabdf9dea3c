import PacketSmith.Code.Statement
import PacketSmith.Path.Basic
import PacketSmith.Registry.Basic
import PacketSmith.Spelling
import PacketSmith.Template.Basic

/-!
# The TypeScript target

Each message becomes a module with a class that writes and reads itself. Arrays and lists are
arrays, fields have initial values, and a field that is a nested message may be null.
-/

namespace PacketSmith.TypeScript

open Code

/-- The directory of generated modules. -/
def rootDirectory : String := "tsProtocol"

/-- The ending of file names. -/
def extension : String := "ts"

/-- How TypeScript spells type names. -/
def spelling : Spelling where
  primitives := [
    ("boolean", "boolean"), ("Boolean", "boolean"),
    ("byte", "number"), ("Byte", "number"),
    ("short", "number"), ("Short", "number"),
    ("int", "number"), ("Integer", "number"),
    ("long", "number"), ("Long", "number"),
    ("float", "number"), ("Float", "number"),
    ("double", "number"), ("Double", "number"),
    ("char", "string"), ("Character", "string"),
    ("String", "string")]
  containers := [("List", "Array"), ("Set", "Set"), ("Map", "Map")]
  array := "Array<\x7b\x7d>"

/-- The template of a message and its slots. -/
def messageTemplate : TemplateContract where
  name := "typescript.ts.j2"
  slots := ["imports", "doc", "name", "fields", "protocol_id", "write_body", "read_body"]

/-- The template of the manager and its slots. -/
def managerTemplate : TemplateContract where
  name := "typescript-manager.ts.j2"
  slots := ["imports", "registrations"]

/-- How many blocks stand around the bodies of functions. -/
def bodyDepth : Int := 2

/-- The end of the buffer's function names for a scalar. -/
def suffix : Scalar → String
  | .bool => "Boolean"
  | .byte => "Byte"
  | .short => "Short"
  | .int => "Int"
  | .long => "Long"
  | .float => "Float"
  | .double => "Double"
  | .char => "Char"
  | .string => "String"

/-- The property that holds the size of a container. -/
def sizeOf : Container → String
  | .sequence .array => "length"
  | .sequence .list => "length"
  | .sequence .set => "size"
  | .map => "size"

/-- The function that adds an element. -/
def insertion : Sequence → String
  | .array => "push"
  | .list => "push"
  | .set => "add"

/-- The initial value of a field by its tag. -/
def initialValue : Tag → Except Fault String
  | .scalar .bool => .ok "false"
  | .scalar .char => .ok "''"
  | .scalar .string => .ok "''"
  | .scalar _ => .ok "0"
  | .sequence .set => .ok "new Set()"
  | .sequence _ => .ok "[]"
  | .map => .ok "new Map()"
  | .message => .ok "null"
  | .custom name => .error (.noInitialValue name)

/-- The field of the message that is being written. -/
def fieldOf (name : String) : String := "packet." ++ name

/-- The text of an expression. -/
def expression (e : Expr) : String := e.render fieldOf

/-- The text of a statement. -/
def statement : Statement → String
  | .text s => s
  | .writeScalar k e => "buffer.write" ++ suffix k ++ "(" ++ expression e ++ ");"
  | .writeSize c e => "buffer.writeInt(" ++ expression e ++ "." ++ sizeOf c ++ ");"
  | .forElements n e => "for (const element" ++ toString n ++ " of " ++ expression e ++ ") \x7b"
  | .forEntries n e =>
    "for (const [key" ++ toString n ++ ", value" ++ toString n ++ "] of " ++ expression e ++
      ") \x7b"
  | .writeMessage e id => "buffer.writePacket(" ++ expression e ++ ", " ++ id.text ++ ");"
  | .readScalar n k _ => "const result" ++ toString n ++ " = buffer.read" ++ suffix k ++ "();"
  | .newContainer n type => "const result" ++ toString n ++ " = new " ++ type ++ "();"
  | .readSize n => "const size" ++ toString n ++ " = buffer.readInt();"
  | .forCount n =>
    "for (let index" ++ toString n ++ " = 0; index" ++ toString n ++ " < size" ++ toString n ++
      "; index" ++ toString n ++ "++) \x7b"
  | .addElement n k e => "result" ++ toString n ++ "." ++ insertion k ++ "(" ++ expression e ++ ");"
  | .addEntry n k v =>
    "result" ++ toString n ++ ".set(" ++ expression k ++ ", " ++ expression v ++ ");"
  | .readMessage n id _ =>
    "const result" ++ toString n ++ " = buffer.readPacket(" ++ id.text ++ ");"
  | .close => "\x7d"
  | .endUnlessReadable => "if (!buffer.isReadable()) \x7b return packet; \x7d"
  | .ifNotReadable => "if (!buffer.isReadable()) \x7b"
  | .endReading => "return packet;"
  | .store field e => "packet." ++ field ++ " = " ++ expression e ++ ";"

/-- The check before a field that older messages lack: a block of three lines. -/
def guard (depth : Int) : List Line :=
  [⟨depth, .ifNotReadable⟩, ⟨depth + 1, .endReading⟩, ⟨depth, .close⟩]

/-- The declaration of a field with its initial value. -/
def declaration (f : DeclaredField) : Except Fault String := do
  let value ← initialValue f.field.type.tag
  return f.identifier ++ ": " ++ f.type ++ " = " ++ value ++ ";"

/-- The line by which a message's module makes a nested message known. In the path, a name that is
null is left out like an empty one. -/
def importLine (m dependency : Message) : Except Fault String := do
  let source ← m.directory
  let target ← dependency.directory
  return "import " ++ shown dependency.name ++ " from '" ++
    Path.join [Path.relative source target, dependency.name.getD ""] ++ "';"

/-- The line by which the manager's module makes a message known. In the path, a name that is null
is left out like an empty one. -/
def managerImport (m : Message) : Except Fault String := do
  let directory ← m.directory
  return "import " ++ shown m.name ++ " from '" ++
    Path.join [".", directory, m.name.getD ""] ++ "';"

/-- The values of the slots of a message's template. -/
def messageValues (p : MessageParts) : List String := [
  p.dependencies,
  p.documentation,
  shown p.message.name,
  p.declarations,
  p.message.id.text,
  p.writeBody,
  p.readBody]

/-- The statement that registers the class of a message. -/
def registration (m : Message) : String :=
  "protocols.set(" ++ m.id.text ++ ", " ++ shown m.name ++ ");"

/-- The values of the slots of the manager's template. -/
def managerValues (imports registrations : String) : List String := [imports, registrations]

end PacketSmith.TypeScript
