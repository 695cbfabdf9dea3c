import PacketSmith.Support.CppBuffer
import PacketSmith.Support.TypeScriptBuffer
import PacketSmith.Target.Cpp
import PacketSmith.Target.TypeScript
import PacketSmith.Template.Cpp
import PacketSmith.Template.TypeScript

/-!
# Targets

The languages that code is generated for, and what each of them brings along: names of files and
directories, spellings, templates, the text of statements and declarations, and support files.
-/

namespace PacketSmith

/-- A language that code is generated for. -/
inductive Target where
  | cpp
  | typescript
deriving DecidableEq, Repr

namespace Target

open Code

/-- All targets, in order. -/
def all : List Target := [cpp, typescript]

/-- The name of a target. -/
def name : Target → String
  | cpp => "cpp"
  | typescript => "typescript"

/-- The target of a name; a name without a target is a fault. -/
def ofName (name : String) : Except Fault Target :=
  match all.find? (·.name == name) with
  | some t => .ok t
  | none => .error (.unknownLanguage name)

/-- The ending of file names. -/
def extension : Target → String
  | cpp => Cpp.extension
  | typescript => TypeScript.extension

/-- The directory of generated files. -/
def rootDirectory : Target → String
  | cpp => Cpp.rootDirectory
  | typescript => TypeScript.rootDirectory

/-- How the target spells type names. -/
def spelling : Target → Spelling
  | cpp => Cpp.spelling
  | typescript => TypeScript.spelling

/-- The target declares scalars and nested messages that it reads with their types. -/
def annotates : Target → Bool
  | cpp => true
  | typescript => false

/-- The template of a message and its slots. -/
def messageTemplate : Target → TemplateContract
  | cpp => Cpp.messageTemplate
  | typescript => TypeScript.messageTemplate

/-- The template of the manager and its slots. -/
def managerTemplate : Target → TemplateContract
  | cpp => Cpp.managerTemplate
  | typescript => TypeScript.managerTemplate

/-- The templates there are. -/
def templates : List Template :=
  [Template.cppMessage, Template.cppManager, Template.typescriptMessage, Template.typescriptManager]

/-- The files that generated code needs: their paths below the root directory, and their texts. -/
def supportFiles : Target → List (String × String)
  | cpp => [("ByteBuffer.h", Support.cppBuffer)]
  | typescript => [("buffer/ByteBuffer.ts", Support.typescriptBuffer)]

/-- What stands before each line of documentation. -/
def commentMark : String := "// "

/-- How many blocks stand around a message's documentation. -/
def documentationDepth : Target → Int
  | cpp => 1
  | typescript => 0

/-- How many blocks stand around the declaration of a field. -/
def fieldDepth : Target → Int
  | cpp => 2
  | typescript => 1

/-- How many blocks stand around the code that writes or reads a field. -/
def bodyDepth : Target → Int
  | cpp => Cpp.bodyDepth
  | typescript => TypeScript.bodyDepth

/-- How many blocks stand around the registrations of the manager. -/
def managerDepth : Target → Int
  | cpp => 2
  | typescript => 0

/-- The text of an expression. -/
def expression : Target → Expr → String
  | cpp => Cpp.expression
  | typescript => TypeScript.expression

/-- The text of a statement. -/
def statement : Target → Statement → String
  | cpp => Cpp.statement
  | typescript => TypeScript.statement

/-- The text of a line. -/
def line (t : Target) (l : Line) : String := indent l.depth ++ t.statement l.statement

/-- The text of lines that go into a template: without the blanks around them, because the template
gives the first line its own. -/
def fragment (t : Target) (ls : List Line) : String :=
  Text.trim ("\n".intercalate (ls.map t.line))

/-- The check before a field that older messages lack. -/
def guard : Target → Int → List Line
  | cpp => Cpp.guard
  | typescript => TypeScript.guard

/-- The spelling of the type under which a field is declared. -/
def fieldType (t : Target) (s : Serializer) (w : WireType) : Except Fault String := do
  let type ← t.spelling.spell w.name
  match t, s with
  | typescript, .message => return type ++ " | null"
  | _, _ => return type

/-- The declaration of a field. -/
def declaration : Target → DeclaredField → Except Fault String
  | cpp, f => .ok (Cpp.declaration f)
  | typescript, f => TypeScript.declaration f

/-- The line by which a message's file makes a nested message known. -/
def dependencyLine : Target → Message → Message → Except Fault String
  | cpp, _, dependency => Cpp.includeLine dependency
  | typescript, m, dependency => TypeScript.importLine m dependency

/-- The line by which the manager's file makes a message known. -/
def managerImport : Target → Message → Except Fault String
  | cpp => Cpp.includeLine
  | typescript => TypeScript.managerImport

/-- The values of the slots of a message's template. -/
def messageValues : Target → MessageParts → Except Fault (List String)
  | cpp, p => Cpp.messageValues p
  | typescript, p => .ok (TypeScript.messageValues p)

/-- The statement by which the manager registers a message. -/
def registration : Target → Message → String
  | cpp => Cpp.registration
  | typescript => TypeScript.registration

/-- The values of the slots of the manager's template. -/
def managerValues : Target → String → String → List String
  | cpp => Cpp.managerValues
  | typescript => TypeScript.managerValues

end Target
end PacketSmith
