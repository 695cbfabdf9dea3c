import PacketSmith.FileTree
import PacketSmith.Output

/-!
# Generators

A generator writes the files of registries for one target. It is started with an output directory,
which it empties first if asked to, and can be cleared again; a generator that is not started
generates nothing. Every file is laid out before the first one is written, so a fault in one message
leaves the tree as it was.
-/

namespace PacketSmith

/-- A generator for a target, with its output context once it has been started. -/
structure Generator where
  /-- The target. -/
  target : Target
  /-- What files are generated with. -/
  context : Option OutputContext := none
  /-- What is generated is logged. -/
  logs : Bool := false

namespace Generator

/-- A generator that has not been started. -/
def new (target : Target) : Generator := { target := target }

/-- The context of a generator; one that has not been started has none. -/
def getContext (g : Generator) : Except Fault OutputContext :=
  match g.context with
  | some x => .ok x
  | none => .error (.notInitialized g.target.name)

/-- The serializers of the target, with its templates checked. -/
def prepare (target : Target) : Except Fault Code.Coder := do
  let table ← Code.Table.complete target.name Code.Serializer.standard
  target.messageTemplate.verify Target.templates
  target.managerTemplate.verify Target.templates
  return ⟨target, table⟩

/-- The generator started with an output directory. Its root directory in there is made, and emptied
before if `clean` is set. -/
def start (g : Generator) (directory : String) (clean : Bool) : FileAction Generator := do
  let coder ← prepare g.target
  let root := (FilePath.ofText directory).child g.target.rootDirectory
  if clean then
    let there ← FileAction.isThere root (← get)
    if there then FileAction.removeTree root
  FileAction.makeDirectories root
  return { g with context := some ⟨root, coder, g.logs⟩ }

/-- The generator before it was started. -/
def clear (g : Generator) : Generator := { g with context := none }

/-- The files of a registry. -/
def files (g : Generator) (r : Registry) : Except Fault (List OutputFile) := do
  let x ← g.getContext
  x.files r

/-- Writes files with the directories they need, and gives their paths. -/
def writeFiles : List OutputFile → FileAction (List FilePath)
  | [] => return []
  | f :: fs => do
    FileAction.makeDirectories f.path.parent
    FileAction.writeFile f.path f.content.toUTF8
    let rest ← writeFiles fs
    return f.path :: rest

/-- Lays out the files of a registry and writes them. -/
def generate (g : Generator) (r : Registry) : FileAction (List FilePath) := do
  let files ← g.files r
  writeFiles files

end Generator
end PacketSmith
