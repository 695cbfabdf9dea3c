import PacketSmith.Generator

/-!
# Sessions

Generators that share one tree of files and are called one after the other, in any order. A call that
fails leaves its generator as it was; what it has done to the tree by then stays.
-/

namespace PacketSmith

namespace Generator

/-- What a generator can be asked for. -/
inductive Call where
  /-- To start with an output directory, and to empty its root there if `clean` is set. -/
  | start (directory : String) (clean : Bool)
  /-- To be as before it was started. -/
  | clear
  /-- To lay out the files of a registry. -/
  | files (r : Registry)
  /-- To write the files of a registry. -/
  | generate (r : Registry)

/-- What a call gives. -/
inductive Reply where
  /-- The generator has been started or cleared. -/
  | done
  /-- The files that were laid out. -/
  | files (fs : List OutputFile)
  /-- The paths of the files that were written. -/
  | paths (ps : List FilePath)

/-- Answers a call, with the generator as it is from then on. -/
def call (g : Generator) : Call → FileAction (Reply × Generator)
  | .start directory clean => do
    let started ← g.start directory clean
    return (.done, started)
  | .clear => return (.done, g.clear)
  | .files r => do
    let fs ← g.files r
    return (.files fs, g)
  | .generate r => do
    let ps ← g.generate r
    return (.paths ps, g)

end Generator

/-- Generators, told apart by keys, and the tree of files that they share. -/
structure Session (κ : Type) where
  /-- The generators. -/
  generators : κ → Generator
  /-- The tree of files. -/
  tree : FileTree

namespace Session

variable {κ : Type} [DecidableEq κ]

/-- The session with a generator in place of that of a key. -/
def hold (s : Session κ) (k : κ) (g : Generator) : Session κ :=
  { s with generators := fun j => if j = k then g else s.generators j }

/-- Calls the generator of a key. -/
def call (s : Session κ) (k : κ) (c : Generator.Call) :
    Except Fault Generator.Reply × Session κ :=
  match ((s.generators k).call c).run s.tree with
  | (.ok (reply, g), t) => (.ok reply, { s with tree := t }.hold k g)
  | (.error f, t) => (.error f, { s with tree := t })

/-- A call in a session, and what came of it. -/
structure Event (κ : Type) where
  /-- The key of the generator. -/
  key : κ
  /-- The call. -/
  call : Generator.Call
  /-- What the call gave. -/
  result : Except Fault Generator.Reply

/-- Calls generators one after the other. -/
def run (s : Session κ) : List (κ × Generator.Call) → List (Event κ) × Session κ
  | [] => ([], s)
  | (k, c) :: calls =>
    let (result, s) := s.call k c
    let (events, s) := run s calls
    (⟨k, c, result⟩ :: events, s)

end Session
end PacketSmith
