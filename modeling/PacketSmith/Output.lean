import PacketSmith.Code.Coder
import PacketSmith.Path.File
import PacketSmith.Registry.Dependency

/-!
# Output files

A generated file is a path and a text. The file of a message makes the messages known that it
depends on, documents and declares the message, and has the code that writes its fields and the code
that reads them back. Both pieces of code take their numbers from one counter, which starts at zero
for every message. When fields are read, a check stands before each field that older messages may
lack: the first compatible field and all fields behind it.

A registry becomes one file per message, the file of the manager, which registers all messages, and
the support files of the target. All files are laid out before any is written.
-/

namespace PacketSmith

/-- A file that has been laid out and can be written. -/
structure OutputFile where
  /-- Where the file belongs. -/
  path : FilePath
  /-- Its text. -/
  content : String
deriving DecidableEq, Repr

/-- What files are generated with: the directory they go to, a target and its serializers. -/
structure OutputContext where
  /-- The directory of generated files. -/
  root : FilePath
  /-- The target and its serializers. -/
  coder : Code.Coder
  /-- Every message is logged, with its number, once its file is laid out. -/
  logs : Bool := false

/-- The target of a context. -/
def OutputContext.target (x : OutputContext) : Target := x.coder.target

end PacketSmith

namespace PacketSmith.Code.Coder

/-- The code that writes fields in their order. -/
def writeFields (c : Coder) : List Field → Emit Unit
  | [] => pure ()
  | f :: fs => do
    c.write f.type (.field (shown f.name)) c.target.bodyDepth
    writeFields c fs

/-- The code that reads fields in their order. `tail` says that a compatible field came before. -/
def readFields (c : Coder) (tail : Bool) : List Field → Emit Unit
  | [] => pure ()
  | f :: fs => do
    let tail := tail || f.isCompatible
    if tail then Emit.lines (c.target.guard c.target.bodyDepth)
    let item ← c.read f.type c.target.bodyDepth
    Emit.line c.target.bodyDepth (.store (shown f.name) item)
    readFields c tail fs

/-- The lines that document and declare a field, and the field as it is declared. -/
def declarationLines (c : Coder) (f : Field) : Except Fault (DeclaredField × List String) := do
  let declared ← c.declare f
  let declaration ← c.target.declaration declared
  let depth := c.target.fieldDepth
  return (declared,
    documentation f.comment depth Target.commentMark ++ [indent depth ++ declaration])

end PacketSmith.Code.Coder

namespace PacketSmith.OutputContext

open Code

/-- The lines that make the messages known that a message depends on, each once. -/
def dependencyLines (x : OutputContext) (r : Registry) (m : Message) :
    Except Fault (List String) := do
  let ids ← r.dependencies m.id
  let lines ← ids.mapM fun id => do
    let dependency ← r.get id
    x.target.dependencyLine m dependency
  return lines.eraseDups

/-- The path of a message's file. -/
def messagePath (x : OutputContext) (m : Message) : Except Fault FilePath := do
  let directory ← m.directory
  return (x.root.child directory).child (shown m.name ++ "." ++ x.target.extension)

/-- The pieces of a message's file. -/
def messageParts (x : OutputContext) (r : Registry) (m : Message) :
    Except Fault MessageParts := do
  let dependencies ← x.dependencyLines r m
  let declared ← m.fields.mapM x.coder.declarationLines
  let written := x.coder.writeFields m.fields 0
  written.result
  let read := x.coder.readFields false m.fields written.next
  read.result
  return {
    message := m
    dependencies := "\n".intercalate dependencies
    documentation := Text.trim ("\n".intercalate
      (documentation m.comment x.target.documentationDepth Target.commentMark))
    fields := declared.map (·.1)
    declarations := Text.trim ("\n".intercalate (declared.flatMap (·.2)))
    writeBody := x.target.fragment written.lines
    readBody := x.target.fragment read.lines }

/-- A message that is logged needs a number; an id that is null is none. -/
def log (x : OutputContext) (m : Message) : Except Fault Unit :=
  if x.logs && m.id == .null then .error .notNumeric else .ok ()

/-- The file of a message. -/
def messageFile (x : OutputContext) (r : Registry) (m : Message) : Except Fault OutputFile := do
  let parts ← x.messageParts r m
  let values ← x.target.messageValues parts
  let content ← x.target.messageTemplate.render Target.templates values
  x.log m
  let path ← x.messagePath m
  return ⟨path, content⟩

/-- The name of the manager. -/
def managerName : String := "ProtocolManager"

/-- The file of the manager. -/
def managerFile (x : OutputContext) (r : Registry) : Except Fault OutputFile := do
  let imports ← r.messages.mapM x.target.managerImport
  let registrations := r.messages.map fun m =>
    indent x.target.managerDepth ++ x.target.registration m
  let content ← x.target.managerTemplate.render Target.templates
    (x.target.managerValues ("\n".intercalate imports.eraseDups)
      (Text.trim ("\n".intercalate registrations)))
  return ⟨x.root.child (managerName ++ "." ++ x.target.extension), content⟩

/-- The support files. -/
def supportFiles (x : OutputContext) : List OutputFile :=
  x.target.supportFiles.map fun (path, content) => ⟨x.root.child path, content⟩

/-- All files of a registry: the messages in order, the manager, and the support files. -/
def files (x : OutputContext) (r : Registry) : Except Fault (List OutputFile) := do
  let messages ← r.messages.mapM (x.messageFile r)
  let manager ← x.managerFile r
  return messages ++ [manager] ++ x.supportFiles

end PacketSmith.OutputContext
