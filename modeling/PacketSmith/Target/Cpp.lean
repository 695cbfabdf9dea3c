import PacketSmith.Code.Serializer
import PacketSmith.Code.Statement
import PacketSmith.Registry.Basic
import PacketSmith.Spelling
import PacketSmith.Template.Basic
import PacketSmith.Text.Lines

/-!
# The C++ target

Each message becomes a header with a class and its coder. Sequences are vectors, lists and sets, and
nested messages are written by pointer and read back as values.
-/

namespace PacketSmith.Cpp

open Code

/-- The directory of generated headers, which includes are given from. -/
def rootDirectory : String := "cppProtocol"

/-- The ending of file names. -/
def extension : String := "h"

/-- How C++ spells type names. -/
def spelling : Spelling where
  primitives := [
    ("boolean", "bool"), ("Boolean", "bool"),
    ("byte", "int8_t"), ("Byte", "int8_t"),
    ("short", "int16_t"), ("Short", "int16_t"),
    ("int", "int32_t"), ("Integer", "int32_t"),
    ("long", "int64_t"), ("Long", "int64_t"),
    ("float", "float"), ("Float", "float"),
    ("double", "double"), ("Double", "double"),
    ("char", "char"), ("Character", "char"),
    ("String", "string")]
  containers := [("List", "list"), ("Set", "set"), ("Map", "map")]
  array := "vector<\x7b\x7d>"

/-- The template of a message and its slots. -/
def messageTemplate : TemplateContract where
  name := "cpp.h.j2"
  slots := ["guard", "root", "includes", "doc", "name", "fields", "value_of_params",
    "value_of_body", "protocol_id", "operator_body", "write_body", "read_body"]

/-- The template of the manager and its slots. -/
def managerTemplate : TemplateContract where
  name := "cpp-manager.h.j2"
  slots := ["root", "includes", "registrations"]

/-- How many blocks stand around the bodies of functions. -/
def bodyDepth : Int := 3

/-- The end of the buffer's function names for a scalar. -/
def suffix : Scalar → String
  | .bool => "Bool"
  | .byte => "Byte"
  | .short => "Short"
  | .int => "Int"
  | .long => "Long"
  | .float => "Float"
  | .double => "Double"
  | .char => "Char"
  | .string => "String"

/-- The function that adds an element. -/
def insertion : Sequence → String
  | .array => "emplace_back"
  | .list => "emplace_back"
  | .set => "emplace"

/-- The field of the message that is being written. -/
def fieldOf (name : String) : String := "message->" ++ name

/-- The text of an expression. -/
def expression (e : Expr) : String := e.render fieldOf

/-- The text of a statement. -/
def statement : Statement → String
  | .text s => s
  | .writeScalar k e => "buffer.write" ++ suffix k ++ "(" ++ expression e ++ ");"
  | .writeSize _ e => "buffer.writeInt(" ++ expression e ++ ".size());"
  | .forElements n e =>
    "for (const auto &element" ++ toString n ++ " : " ++ expression e ++ ") \x7b"
  | .forEntries n e =>
    "for (const auto &[key" ++ toString n ++ ", value" ++ toString n ++ "] : " ++ expression e ++
      ") \x7b"
  | .writeMessage e id => "buffer.writePacket(&" ++ expression e ++ ", " ++ id.text ++ ");"
  | .readScalar n k type =>
    type.getD "auto" ++ " result" ++ toString n ++ " = buffer.read" ++ suffix k ++ "();"
  | .newContainer n type => type ++ " result" ++ toString n ++ ";"
  | .readSize n => "auto size" ++ toString n ++ " = buffer.readInt();"
  | .forCount n =>
    "for (int index" ++ toString n ++ " = 0; index" ++ toString n ++ " < size" ++ toString n ++
      "; index" ++ toString n ++ "++) \x7b"
  | .addElement n k e => "result" ++ toString n ++ "." ++ insertion k ++ "(" ++ expression e ++ ");"
  | .addEntry n k v =>
    "result" ++ toString n ++ ".emplace(" ++ expression k ++ ", " ++ expression v ++ ");"
  | .readMessage n id type =>
    "auto result" ++ toString n ++ " = *((" ++ type.getD "auto" ++ " *) buffer.readPacket(" ++
      id.text ++ ").get());"
  | .close => "\x7d"
  | .endUnlessReadable => "if (!buffer.isReadable()) \x7b return packet; \x7d"
  | .ifNotReadable => "if (!buffer.isReadable()) \x7b"
  | .endReading => "return packet;"
  | .store field e => "packet->" ++ field ++ " = " ++ expression e ++ ";"

/-- The check before a field that older messages lack: one line. -/
def guard (depth : Int) : List Line := [⟨depth, .endUnlessReadable⟩]

/-- The declaration of a field. -/
def declaration (f : DeclaredField) : String := f.type ++ " " ++ f.identifier ++ ";"

/-- The line that makes a message known. A name that is null is left out like an empty one. -/
def includeLine (m : Message) : Except Fault String := do
  let directory ← m.directory
  return "#include \"" ++ Path.join [rootDirectory, directory, m.name.getD ""] ++ ".h\""

/-- The assignment of a parameter to the field of its name. -/
def assignment (f : DeclaredField) : String :=
  indent bodyDepth ++ "packet." ++ f.identifier ++ " = " ++ f.identifier ++ ";"

/-- The two comparisons of a field with that of the other message `_`. -/
def comparison (f : DeclaredField) : String :=
  indent bodyDepth ++ "if (" ++ f.identifier ++ " < _." ++ f.identifier ++
    ") \x7b return true; \x7d\n" ++
    indent bodyDepth ++ "if (_." ++ f.identifier ++ " < " ++ f.identifier ++
    ") \x7b return false; \x7d"

/-- The values of the slots of a message's template. The upper-case name guards against including
the header twice, so a name that is null is a fault. -/
def messageValues (p : MessageParts) : Except Fault (List String) :=
  match p.message.name with
  | none => .error .nullName
  | some name => .ok [
      Text.upper name,
      rootDirectory,
      p.dependencies,
      p.documentation,
      name,
      p.declarations,
      ", ".intercalate (p.fields.map fun f => f.type ++ " " ++ f.identifier),
      Text.trim ("\n".intercalate (p.fields.map assignment)),
      p.message.id.text,
      Text.trim ("\n".intercalate (p.fields.map comparison)),
      p.writeBody,
      p.readBody]

/-- The statement that registers the coder of a message. -/
def registration (m : Message) : String :=
  "protocols[" ++ m.id.text ++ "] = new " ++ shown m.name ++ "Registration();"

/-- The values of the slots of the manager's template. -/
def managerValues (imports registrations : String) : List String :=
  [rootDirectory, imports, registrations]

end PacketSmith.Cpp
