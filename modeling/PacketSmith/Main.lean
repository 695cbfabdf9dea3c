import PacketSmith.Command.Outcome

/-!
# The program

The outer layer of the command line. It takes a picture of the files and directories that a request
is about, carries the request out on the picture, and brings the changes to the file system. All
decisions are made by `Request.run`.
-/

namespace PacketSmith

/-- The paths that a request is about: the file it reads and the directory it writes to. -/
def Request.paths : Request → List FilePath
  | .help _ => []
  | .generate language input output _ _ =>
    match Target.ofName language with
    | .ok target => [FilePath.ofText input, (FilePath.ofText output).child target.rootDirectory]
    | .error _ => []
  | .overview input _ => [FilePath.ofText input]

/-- The place that each segment of a path leads to. -/
def Location.along (l : Location) : List String → List Location
  | [] => []
  | segment :: segments =>
    let next := if segment == ".." then l.dropLast else l ++ [segment]
    next :: Location.along next segments

/-- The text of a place. -/
def Location.text (l : Location) : String := "/" ++ Path.joined l

/-- The working directory. -/
def workingDirectory : IO Location := do
  let path ← IO.currentDir
  return Path.segments Path.isSlash path.toString

/-- What stands at a place of the file system. -/
def entryAt (l : Location) : IO (Option Entry) := do
  let path := (← IO.currentDir) / l.text
  if ← path.isDir then return some .directory
  else if ← path.pathExists then
    let content ← IO.FS.readBinFile path
    return some (.file content)
  else return none

/-- The tree with what stands at some places of the file system. -/
def withPlaces (t : FileTree) : List Location → IO FileTree
  | [] => return t
  | l :: ls => do
    match ← entryAt l with
    | some e => withPlaces (if l.isEmpty then t else t.set l e) ls
    | none => withPlaces t ls

/-- The tree with everything below a place of the file system, down to a depth. -/
def withBelow : (depth : Nat) → Location → FileTree → IO FileTree
  | 0, _, t => return t
  | depth + 1, l, t => do
    let path := (← IO.currentDir) / l.text
    if ← path.isDir then
      let names := (← path.readDir).toList.map (·.fileName)
      let t ← withPlaces t (names.map fun n => l ++ [n])
      names.foldlM (fun t n => withBelow depth (l ++ [n]) t) t
    else return t

/-- The picture of the file system that a request is carried out on. No path is deeper than it has
characters, so the whole of an output directory is in it. -/
def picture (here : Location) (request : Request) : IO FileTree := do
  let start := FileTree.start here
  request.paths.foldlM (fun t p => do
    let places := Location.along (t.startOf p) p.segments
    let t ← withPlaces t places
    match request, places.getLast? with
    | .generate .., some l => withBelow FileTree.pathLimit l t
    | _, _ => return t) start

/-- Takes away what is not in the later tree, the deepest places first. -/
def takeAway (before after : FileTree) : IO Unit := do
  let gone := before.entries.filter fun (l, _) => (after.find? l).isNone
  let deepest := gone.mergeSort fun a b => decide (b.1.length ≤ a.1.length)
  for (l, e) in deepest do
    match e with
    | .directory => IO.FS.removeDir l.text
    | .file _ => IO.FS.removeFile l.text

/-- The entry stands in the tree already. -/
def FileTree.keeps (t : FileTree) (l : Location) (e : Entry) : Bool :=
  match t.find? l, e with
  | some .directory, .directory => true
  | some (.file a), .file b => a.toList == b.toList
  | _, _ => false

/-- Brings in what is new in the later tree, the highest places first. -/
def bringIn (before after : FileTree) : IO Unit := do
  let fresh := after.entries.filter fun (l, e) => !before.keeps l e
  let highest := fresh.mergeSort fun a b => decide (a.1.length ≤ b.1.length)
  for (l, e) in highest do
    match e with
    | .directory => IO.FS.createDir l.text
    | .file content => IO.FS.writeBinFile l.text content

/-- Carries a request out on the file system. -/
def Request.perform (request : Request) : IO Outcome := do
  let here ← workingDirectory
  let before ← picture here request
  let (outcome, after) := request.run.run before
  takeAway before after
  bringIn before after
  return outcome

/-- Prints an outcome and gives its status. -/
def Outcome.report (o : Outcome) : IO UInt32 := do
  IO.print (Outcome.text o.output)
  IO.eprint (Outcome.text o.complaint)
  match o.escaped with
  | some f => IO.eprintln f.message
  | none => pure ()
  return o.status.toUInt32

end PacketSmith

open PacketSmith in
/-- Runs the program. -/
def main (arguments : List String) : IO UInt32 := do
  match Request.ofArguments arguments with
  | .error r => (Outcome.refused r).report
  | .ok request =>
    let outcome ← request.perform
    outcome.report
