import PacketSmith.Command.Request
import PacketSmith.Generator
import PacketSmith.Registry.Build
import PacketSmith.Registry.Overview
import PacketSmith.Text.Terminal

/-!
# Outcomes

What a run of the program does: it prints, changes the tree of files, and ends with a status. A
fault that is one of the program's own, or one of the file system, is reported in one line and ends
the run with status one. Any other fault is not handled: it escapes, with status one too, and what
was printed before it stays. Arguments that are refused end it with status two.
-/

namespace PacketSmith

/-- How a run of the program ends. -/
structure Outcome where
  /-- The status that the program ends with. -/
  status : Nat := 0
  /-- The lines that are printed. -/
  output : List String := []
  /-- The lines that tell how the program is used. -/
  complaint : List String := []
  /-- The fault that is not handled. -/
  escaped : Option Fault := none

namespace Outcome

/-- A run that ends well. -/
def printed (lines : List String) : Outcome := { output := lines }

/-- A run that ends at a fault that is not handled, with what was printed before. -/
def broken (lines : List String) (f : Fault) : Outcome :=
  { status := 1, output := lines, escaped := some f }

/-- A run that a fault ends. -/
def failed (f : Fault) : Outcome :=
  if f.isReported then { status := 1, output := ["Error: " ++ f.message] }
  else broken [] f

/-- A run that ends before it starts. What it repeats of the arguments has no control sequences. -/
def refused (r : Refusal) : Outcome :=
  { status := 2, complaint := (r.problem.lines r.usage).map Text.dropSequences }

/-- The outcome of an action, which a fault may end. -/
def ofAction (action : FileAction Outcome) : StateM FileTree Outcome := do
  match ← action.run with
  | .ok outcome => return outcome
  | .error f => return failed f

/-- The text of some lines. -/
def text (lines : List String) : String := String.join (lines.map (· ++ "\n"))

/-- The text of some lines as a record of a run keeps it: a carriage return before a line feed
belongs to the end of the line, and is left out. -/
def transcript (lines : List String) : String := Text.dropReturns (text lines)

end Outcome

/-- The registry in a file. Line ends of every kind count as line feeds. -/
def Registry.load (path : String) : FileAction Registry := do
  let text ← FileAction.readText path
  let r ← Registry.ofText (Text.unifyLineEnds text)
  return r

namespace Request

/-- Generates the files of the registry in a file, and tells how many there are. The registry is
read before the output directory is touched. -/
def generateFrom (target : Target) (input output : String) (clean logs : Bool) :
    FileAction Outcome := do
  let r ← Registry.load input
  let g ← Generator.start { target := target, logs := logs } output clean
  let x ← g.getContext
  let paths ← g.generate r
  return .printed ["Generated " ++ toString paths.length ++ " files in " ++ x.root.text]

/-- Shows the rows of an overview. The heading of a table is printed before its cells are laid out.
-/
def showRows (rows : List MessageRow) (json : Bool) : Outcome :=
  if json then .printed [overviewJson rows]
  else
    match overviewLines rows with
    | .ok lines => .printed (overviewHeading :: lines)
    | .error f => .broken [overviewHeading] f

/-- Shows what the registry in a file holds. -/
def overviewOf (input : String) (json : Bool) : FileAction Outcome := do
  let r ← Registry.load input
  let rows ← r.overview
  return showRows rows json

/-- Carries a request out. -/
def run : Request → StateM FileTree Outcome
  | .help usage => return .printed usage.helpLines
  | .generate language input output clean logs =>
    match Target.ofName language with
    | .error f => return { status := 1, output := [f.message] }
    | .ok target => Outcome.ofAction (generateFrom target input output clean logs)
  | .overview input json => Outcome.ofAction (overviewOf input json)

end Request

/-- Runs the program with some arguments. -/
def runProgram (arguments : List String) : StateM FileTree Outcome :=
  match Request.ofArguments arguments with
  | .error r => return .refused r
  | .ok request => request.run

end PacketSmith
