import PacketSmith.Fault
import PacketSmith.Path.File

/-!
# File trees

The files and directories that generated files are written among, as a value. A path is followed
segment by segment: every segment but the last must lead to a directory, and two dots lead up. The
operations fail as those of a file system do, and tell the first reason they meet.

The working directory may be removed. It is then still a directory for paths that start in it, and
two dots lead out of it, but it has nothing in it and takes nothing new.

Operations on a tree are run in `FileAction`. An operation that fails leaves what was done before
it.
-/

namespace PacketSmith

/-- A place in a tree, as the names that lead to it from the top. -/
abbrev Location := List String

/-- What stands at a place. -/
inductive Entry where
  | directory
  | file (content : ByteArray)

/-- The entry is a directory. -/
def Entry.isDirectory : Entry → Bool
  | directory => true
  | file _ => false

/-- Files and directories, and the directory that relative paths start at. -/
structure FileTree where
  /-- What stands at each place below the top. -/
  entries : List (Location × Entry)
  /-- The working directory. -/
  here : Location

/-- An operation on a tree. -/
abbrev FileAction := ExceptT Fault (StateM FileTree)

namespace FileTree

/-- The tree that has the working directory and nothing else. -/
def start (here : Location) : FileTree where
  entries := (List.range here.length).map fun n => (here.take (n + 1), .directory)
  here := here

/-- What stands at a place; at the top stands a directory. -/
def find? (t : FileTree) (l : Location) : Option Entry :=
  if l.isEmpty then some .directory else t.entries.lookup l

/-- The entries with a place taken by an entry. -/
def place (l : Location) (e : Entry) : List (Location × Entry) → List (Location × Entry)
  | [] => [(l, e)]
  | (k, f) :: rest => if k == l then (l, e) :: rest else (k, f) :: place l e rest

/-- The tree with a place taken by an entry. -/
def set (t : FileTree) (l : Location) (e : Entry) : FileTree :=
  { t with entries := place l e t.entries }

/-- The tree without a place and all places below it. -/
def remove (t : FileTree) (l : Location) : FileTree :=
  { t with entries := t.entries.filter fun (k, _) => !l.isPrefixOf k }

/-- The tree without the places below a place. -/
def clear (t : FileTree) (l : Location) : FileTree :=
  { t with entries := t.entries.filter fun (k, _) => !l.isPrefixOf k || k == l }

/-- How many bytes the name of a file may have. -/
def nameLimit : Nat := 255

/-- How many bytes a whole path may have. -/
def pathLimit : Nat := 4095

/-- A place must be a directory. -/
def inDirectory (t : FileTree) (l : Location) : Except FileProblem Unit :=
  match t.find? l with
  | some .directory => .ok ()
  | some (.file _) => .error .notDirectory
  | none => .error .notFound

/-- The place above a place, where no file may stand. -/
def above (t : FileTree) (l : Location) : Except FileProblem Location :=
  match t.find? l with
  | some (.file _) => .error .notDirectory
  | _ => .ok l.dropLast

/-- The place that a segment leads to. -/
def step (t : FileTree) (l : Location) (segment : String) : Except FileProblem Location := do
  if segment == ".." then t.above l
  else
    t.inDirectory l
    if segment.utf8ByteSize > nameLimit then .error .nameTooLong
    else if (t.find? (l ++ [segment])).isNone then .error .notFound
    else return l ++ [segment]

/-- The place that segments lead to. -/
def walk (t : FileTree) (l : Location) (segments : List String) : Except FileProblem Location :=
  segments.foldlM t.step l

/-- The place that a path starts at. -/
def startOf (t : FileTree) (p : FilePath) : Location :=
  match p.start with
  | .here => t.here
  | _ => []

/-- What a path leads to. Where nothing stands any more, there was a directory. -/
def entry (t : FileTree) (p : FilePath) : Except FileProblem Entry := do
  let l ← t.walk (t.startOf p) p.segments
  return (t.find? l).getD .directory

/-- The place of the last name of a path in a directory that exists: `none` if the path ends at a
directory that has a name elsewhere. -/
def newPlace (t : FileTree) (p : FilePath) : Except FileProblem (Option Location) := do
  match p.segments.getLast? with
  | none => return none
  | some name =>
    let l ← t.walk (t.startOf p) p.segments.dropLast
    if name == ".." then
      let _ ← t.above l
      return none
    else
      t.inDirectory l
      if name.utf8ByteSize > nameLimit then .error .nameTooLong
      else return some (l ++ [name])

/-- The place of the last name of a path for something new. An entry there that is in the way is a
problem, and so is a path that ends at a directory that has a name elsewhere. -/
def freePlace (t : FileTree) (p : FilePath) (inTheWay : Entry → Bool) (problem : FileProblem) :
    Except FileProblem Location := do
  match ← t.newPlace p with
  | none => .error problem
  | some l => if (t.find? l).any inTheWay then .error problem else return l

/-- The tree with one more directory, whose parent must be there. -/
def addDirectory (t : FileTree) (p : FilePath) : Except FileProblem FileTree := do
  let l ← t.freePlace p (fun _ => true) .alreadyExists
  return t.set l .directory

/-- The tree with a file written, whose directory must be there. -/
def addFile (t : FileTree) (p : FilePath) (content : ByteArray) : Except FileProblem FileTree := do
  let l ← t.freePlace p Entry.isDirectory .isDirectory
  return t.set l (.file content)

/-- The paths of everything below the working directory, in the order of their characters;
directories end with a slash. -/
def listing (t : FileTree) : List String :=
  let below := t.entries.filterMap fun (l, e) =>
    if t.here.isPrefixOf l && t.here.length < l.length then
      let path := Path.joined (l.drop t.here.length)
      some (match e with
        | .directory => path ++ "/"
        | .file _ => path)
    else none
  below.mergeSort fun a b => decide (a ≤ b)

end FileTree

namespace FileAction

/-- The fault of a problem with a path. -/
def problemAt (p : FilePath) (problem : FileProblem) : Fault := .file problem (Text.quoted p.text)

/-- The text of a path can be given to a file system. -/
def checkText (s : String) : Except Fault Unit :=
  if s.toList.contains (Char.ofNat 0) then .error .nulInPath
  else if s.utf8ByteSize > FileTree.pathLimit then .error (.file .nameTooLong (Text.quoted s))
  else .ok ()

/-- The tree after a change at a path. -/
def change (p : FilePath) (f : FileTree → Except FileProblem FileTree) (t : FileTree) :
    Except Fault FileTree := do
  checkText p.text
  (f t).mapError (problemAt p)

/-- What a path leads to. -/
def look (p : FilePath) (t : FileTree) : Except Fault Entry := do
  checkText p.text
  (t.entry p).mapError (problemAt p)

/-- A path leads to a directory. -/
def isDirectory (p : FilePath) (t : FileTree) : Bool :=
  match look p t with
  | .ok .directory => true
  | _ => false

/-- A path leads to something. A name that is too long is a fault. -/
def isThere (p : FilePath) (t : FileTree) : Except Fault Bool :=
  match look p t with
  | .ok _ => .ok true
  | .error (.file .nameTooLong place) => .error (.file .nameTooLong place)
  | .error _ => .ok false

/-- Makes a directory unless it is there. The directory above it must be there. -/
def makeDirectory (p : FilePath) : FileAction Unit := do
  let t ← get
  match change p (·.addDirectory p) t with
  | .ok u => set u
  | .error f => if isDirectory p t then return () else throw f

/-- Makes the directory of some segments, last one first, and those above it, unless they are there.
A path is followed as it is given, so a directory before two dots is made as well. -/
def makeDirectoriesFrom (start : PathStart) : (segments : List String) → FileAction Unit
  | [] => return ()
  | name :: above => do
    let t ← get
    let p : FilePath := ⟨start, (name :: above).reverse⟩
    match change p (·.addDirectory p) t with
    | .ok u => set u
    | .error (.file .notFound _) =>
      makeDirectoriesFrom start above
      makeDirectory p
    | .error f => if isDirectory p t then return () else throw f

/-- Makes a directory and those above it, unless they are there. -/
def makeDirectories (p : FilePath) : FileAction Unit :=
  makeDirectoriesFrom p.start p.segments.reverse

/-- Removes a directory and everything below it. What is below it goes first. Then the path is
followed once more to the directory itself: if it led through a directory that is gone by then, an
empty directory stays. -/
def removeTree (p : FilePath) : FileAction Unit := do
  let t ← get
  match t.walk (t.startOf p) p.segments with
  | .error problem => throw (problemAt p problem)
  | .ok l =>
    match t.find? l with
    | some (.file _) => throw (.file .notDirectory ("PosixPath(" ++ Text.quoted p.text ++ ")"))
    | _ =>
      let u := t.clear l
      set u
      match u.walk (u.startOf p) p.segments with
      | .error problem => throw (problemAt p problem)
      | .ok k => set (u.remove k)

/-- Writes a file, whose directory must be there. -/
def writeFile (p : FilePath) (content : ByteArray) : FileAction Unit := do
  let u ← change p (·.addFile p content) (← get)
  set u

/-- The last segment of the text of a path is empty or a single dot, so it asks for a directory. -/
def asksDirectory (s : String) : Bool :=
  match s.toList.reverse with
  | '/' :: _ => true
  | '.' :: '/' :: _ => true
  | ['.'] => true
  | _ => false

/-- The text of a file whose path is given as text. -/
def readText (path : String) : FileAction String := do
  let t ← get
  let p := FilePath.ofText path
  let failure (problem : FileProblem) : Fault := .file problem (Text.quoted path)
  match checkText path with
  | .error f => throw f
  | .ok _ =>
    if path.isEmpty then throw (failure .notFound)
    else
      match t.entry p with
      | .error problem => throw (failure problem)
      | .ok .directory => throw (failure .isDirectory)
      | .ok (.file content) =>
        if asksDirectory path then throw (failure .notDirectory)
        else
          match String.fromUTF8? content with
          | some s => return s
          | none => throw .notText

end FileAction
end PacketSmith
