import PacketSmith.Text.Upper

/-!
# Paths

Paths are split into segments and joined again. Splitting keeps the runs of characters between
separators that are not empty.

The module of a message is a text whose segments are divided by dots, slashes or backslashes. Its
path has slashes between the segments (`Path.ofModule`); the directory of the message is that path
with the first character of every segment in upper case (`Path.directory`).

The way from one directory to another (`Path.relative`) goes as many steps up as it takes to reach a
common directory, then down. Both directories are seen from the root, so an empty text is the root
itself.
-/

namespace PacketSmith.Path

/-- The run so far, last character first, before other runs; an empty run is left out. -/
def closeRun (run : List Char) (runs : List (List Char)) : List (List Char) :=
  if run.isEmpty then runs else run.reverse :: runs

/-- The runs of characters between separators, where `run` is the one begun so far, last character
first. -/
def runsFrom (isSeparator : Char → Bool) (run : List Char) : List Char → List (List Char)
  | [] => closeRun run []
  | c :: cs =>
    if isSeparator c then closeRun run (runsFrom isSeparator [] cs)
    else runsFrom isSeparator (c :: run) cs

/-- The segments of a text: its runs of characters between separators that are not empty. -/
def segments (isSeparator : Char → Bool) (s : String) : List String :=
  (runsFrom isSeparator [] s.toList).map String.ofList

/-- The separator of file paths. -/
def isSlash (c : Char) : Bool := c == '/'

/-- The segments with slashes between them. -/
def joined (segments : List String) : String := "/".intercalate segments

/-- The characters with each run of slashes turned into one. -/
def squeezeSlashes : List Char → List Char
  | [] => []
  | c :: cs =>
    if c == '/' && cs.head? == some '/' then squeezeSlashes cs else c :: squeezeSlashes cs

/-- The parts that are not empty with single slashes between them. -/
def join (parts : List String) : String :=
  String.ofList (squeezeSlashes (joined (parts.filter (!·.isEmpty))).toList)

/-- The character divides the segments of a module. -/
def isModuleSeparator (c : Char) : Bool := c == '.' || c == '/' || c == '\\'

/-- The segments of a module. -/
def moduleSegments (module : String) : List String := segments isModuleSeparator module

/-- The path of a module; the empty module has the empty path. -/
def ofModule (module : String) : String := joined (moduleSegments module)

/-- The path of a module with every segment capitalized. -/
def directory (module : String) : String := joined ((moduleSegments module).map Text.capitalize)

/-- The segments of a directory seen from the root after one more segment: a single dot stays, two
dots go up and stay at the root. -/
def descend (above : List String) (segment : String) : List String :=
  if segment == "." then above
  else if segment == ".." then above.dropLast
  else above ++ [segment]

/-- The segments of a directory seen from the root. -/
def fromRoot (directory : String) : List String :=
  (segments isSlash directory).foldl descend []

/-- How many segments two directories have in common at their start. -/
def commonLength : List String → List String → Nat
  | a :: as, b :: bs => if a == b then commonLength as bs + 1 else 0
  | _, _ => 0

/-- The steps from one directory to another. -/
def stepsBetween (source target : List String) : List String :=
  let common := commonLength source target
  List.replicate (source.length - common) ".." ++ target.drop common

/-- The way from one directory to another as a text that starts with a dot: a single dot for the
directory itself, `./` before a way down, and a way up as it is. -/
def relative (source target : String) : String :=
  let steps := stepsBetween (fromRoot source) (fromRoot target)
  let way := joined steps
  if steps.isEmpty then "."
  else if "..".toList.isPrefixOf way.toList then way
  else "./" ++ way

end PacketSmith.Path
