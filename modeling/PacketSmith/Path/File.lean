import PacketSmith.Path.Basic

/-!
# File paths

A file path is a start and a list of segments. Empty segments and single dots are dropped when a
path is made, two dots are kept. A path that is joined to another one goes on from it, unless it has
a start of its own. Exactly two leading slashes are a start different from one.
-/

namespace PacketSmith

/-- Where a file path starts. -/
inductive PathStart where
  /-- At the working directory. -/
  | here
  /-- At the root. -/
  | root
  /-- At the place that two leading slashes denote. -/
  | doubleRoot
deriving DecidableEq, Repr

/-- A file path. -/
structure FilePath where
  /-- Where the path starts. -/
  start : PathStart
  /-- The segments: none is empty or a single dot. -/
  segments : List String
deriving DecidableEq, Repr

namespace FilePath

/-- The start of a text that is read as a path. -/
def startOf : List Char → PathStart
  | '/' :: '/' :: '/' :: _ => .root
  | '/' :: '/' :: _ => .doubleRoot
  | '/' :: _ => .root
  | _ => .here

/-- The path that a text denotes. -/
def ofText (s : String) : FilePath where
  start := startOf s.toList
  segments := (Path.segments Path.isSlash s).filter (· != ".")

/-- The path that goes on from `p` by the path of a text. -/
def child (p : FilePath) (s : String) : FilePath :=
  let q := ofText s
  match q.start with
  | .here => ⟨p.start, p.segments ++ q.segments⟩
  | _ => q

/-- The path without its last segment. -/
def parent (p : FilePath) : FilePath := ⟨p.start, p.segments.dropLast⟩

/-- The path as a text; the working directory is a single dot. -/
def text (p : FilePath) : String :=
  match p.start with
  | .here => if p.segments.isEmpty then "." else Path.joined p.segments
  | .root => "/" ++ Path.joined p.segments
  | .doubleRoot => "//" ++ Path.joined p.segments

end FilePath
end PacketSmith
