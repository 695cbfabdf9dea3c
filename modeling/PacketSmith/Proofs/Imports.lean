import PacketSmith.Proofs.ImportStatements

/-!
# Imports lead to generated files

The import statements of generated files lead to generated files, and none is missing
(`imports_of_ofDefinition`).

A statement is read as its language reads it (`Target.readImport?`), which gives a way. A C++ way is
followed from the directory above the root, a TypeScript way from the directory of the file, with the
ending of file names added (`Imports`). Both come down to one fact: parts that lead to the directory
of a message lead to its path when its name is joined to them (`follow_join`). A statement can be read
if the message that it is for can be imported (`Message.IsImportable`).

* Every import leads to the path of a message or, in C++, to the buffer's header (`Resolves`).
* The messages that a message nests are all imported, other than itself and one without an id.
* No import stands twice and no message imports itself, if no message takes the path of the buffer's
  header (`KeepsApart`). The imports of messages have no cycle then, because a message imports only
  what is reached from it, and one whose dependencies can be told is not reached from itself.
-/

namespace PacketSmith

open Code

/-- The message has a name that can stand in code, and a module. -/
structure Message.IsPlaced (m : Message) : Prop where
  /-- The name is a name. -/
  name : m.name.any TypeName.isName = true
  /-- There is a module. -/
  module : m.module.isSome = true

instance (m : Message) : Decidable m.IsPlaced :=
  decidable_of_iff (m.name.any TypeName.isName = true ∧ m.module.isSome = true)
    ⟨fun h => ⟨h.1, h.2⟩, fun h => ⟨h.name, h.module⟩⟩

namespace Message.IsPlaced

variable {m : Message}

/-- The message has a name. -/
theorem exists_name (h : m.IsPlaced) : ∃ name, m.name = some name ∧ TypeName.isName name = true :=
  (Option.any_eq_true _ _).mp h.name

/-- The message has a module. -/
theorem module_ne_none (h : m.IsPlaced) : m.module ≠ none :=
  Option.isSome_iff_ne_none.mp h.module

/-- The name that is shown is a name. -/
theorem isName (h : m.IsPlaced) : TypeName.isName (shown m.name) = true := by
  obtain ⟨name, named, isName⟩ := h.exists_name
  rw [named]
  exact isName

/-- The name in a path is the name that is shown. -/
theorem getD_name (h : m.IsPlaced) : m.name.getD "" = shown m.name := by
  obtain ⟨name, named, -⟩ := h.exists_name
  rw [named]
  rfl

/-- The directory of a message is that of its module. -/
theorem eq_directory (h : m.IsPlaced) {directory : String} (found : m.directory = .ok directory) :
    directory = Path.directory (m.module.getD "") :=
  Except.ok.inj (found.symm.trans (directory_eq h.module_ne_none))

end Message.IsPlaced

namespace Target

/-- What a way leaves out at the end of the path that it leads to. -/
def wayEnding : Target → String
  | cpp => ""
  | typescript => ".ts"

end Target

namespace OutputContext

variable {x : OutputContext} {r : Registry} {m b : Message}

/-- The directory that the ways in a file start from. -/
def importBase (x : OutputContext) (source : FilePath) : FilePath :=
  match x.target with
  | .cpp => x.root.parent
  | .typescript => source.parent

/-- A statement in a file imports a name from the file at a path: it can be read, it binds no other
name, and its way leads to the path. -/
def Imports (x : OutputContext) (source : FilePath) (statement name : String) (path : FilePath) :
    Prop :=
  ∃ bound way, x.target.readImport? statement = some (bound, way) ∧ (∀ n ∈ bound, n = name) ∧
    (x.importBase source).follow (way ++ x.target.wayEnding) = path

/-- A statement leads to one path. -/
theorem Imports.eq_path {source p q : FilePath} {s a c : String} (h : x.Imports source s a p)
    (k : x.Imports source s c q) : p = q := by
  obtain ⟨_, _, read, -, rfl⟩ := h
  obtain ⟨_, _, again, -, rfl⟩ := k
  cases read.symm.trans again
  rfl

/-- The statement for a message and a way to it imports the message. -/
theorem imports_importOf (importable : b.IsImportable x.target) {source path : FilePath}
    {way : String} (chars : ∀ c ∈ way.toList, b.HasChar c)
    (leads : (x.importBase source).follow (way ++ x.target.wayEnding) = path) :
    x.Imports source (x.target.importOf (shown b.name) way) (shown b.name) path := by
  refine ⟨_, way, Target.readImport?_importOf importable.name
    fun c mem => importable.not_mem_breaking (chars c mem), ?_, leads⟩
  cases x.target <;> simp [Target.bound]

/-- C++ headers are in the directory that their includes begin with. -/
def IsRooted (x : OutputContext) : Prop :=
  x.target = .cpp → ∃ above : FilePath, x.root = above.child Cpp.rootDirectory

/-! ### Ways -/

/-- A way that leads to the directory of a message leads on to the message by its name. -/
theorem follow_join (name : TypeName.isName (shown b.name) = true) {base : List String}
    {parts : List String} (leads : (parts.flatMap (Path.segments Path.isSlash)).foldl Path.descend
      base = x.root.segments ++ b.segments) :
    (FilePath.mk x.root.start base).follow
      (Path.join (parts ++ [shown b.name]) ++ ("." ++ x.target.extension)) = x.pathOf b := by
  have ending : '/' ∉ ("." ++ x.target.extension).toList := by cases x.target <;> decide
  have last := Path.IsSegment.foldl_descend
    (List.forall_mem_singleton.mpr (isSegment_of_isName name ending))
  rw [FilePath.follow, segments_join_name name ending, List.foldl_append, leads, last, pathOf,
    List.append_assoc, String.append_assoc]

/-- The directory of C++ headers leads down. -/
theorem isSegment_rootDirectory : Path.IsSegment Cpp.rootDirectory :=
  ⟨by decide, by decide, by decide, by decide⟩

/-- The ways of includes start from the directory above the root. -/
theorem exists_importBase (rooted : x.IsRooted) (target : x.target = .cpp) :
    ∃ above, x.root.segments = above ++ [Cpp.rootDirectory] ∧
      ∀ source, x.importBase source = ⟨x.root.start, above⟩ := by
  obtain ⟨above, root⟩ := rooted target
  rw [FilePath.child_of_isSegment _ isSegment_rootDirectory] at root
  refine ⟨above.segments, by rw [root], fun source => ?_⟩
  rw [importBase, target]
  show x.root.parent = _
  rw [root, FilePath.parent, List.dropLast_concat]

/-- The way of an include leads to the message from the directory above the root. -/
theorem imports_includeLine (rooted : x.IsRooted) (target : x.target = .cpp)
    (placed : b.IsPlaced) (importable : b.IsImportable x.target) {s : String}
    (line : Cpp.includeLine b = .ok s) (source : FilePath) :
    x.Imports source s (shown b.name) (x.pathOf b) := by
  obtain ⟨above, root, base⟩ := exists_importBase rooted target
  obtain ⟨directory, found, line⟩ := exists_of_bind_eq_ok line
  obtain rfl := placed.eq_directory found
  have down : ∀ u ∈ Cpp.rootDirectory :: b.segments, Path.IsSegment u :=
    List.forall_mem_cons.mpr ⟨isSegment_rootDirectory, fun u mem => Path.isSegment_of_mem mem⟩
  have leads : ([Cpp.rootDirectory, Path.directory (b.module.getD "")].flatMap
      (Path.segments Path.isSlash)).foldl Path.descend above = x.root.segments ++ b.segments := by
    rw [List.flatMap_cons, List.flatMap_singleton, Path.segments_directory, root,
      List.append_assoc]
    exact Path.IsSegment.foldl_descend down above
  have written : s = x.target.importOf (shown b.name) (Path.join [Cpp.rootDirectory,
      Path.directory (b.module.getD ""), shown b.name] ++ ".h") := by
    rw [← Except.ok.inj line, target, placed.getD_name]
    show _ ++ (".h" ++ "\"") = _ ++ (_ ++ ".h") ++ "\""
    simp only [String.append_assoc]
  have joined : ∀ c ∈ (Path.join [Cpp.rootDirectory, Path.directory (b.module.getD ""),
      shown b.name]).toList, b.HasChar c := by
    refine Message.hasChar_of_mem_join ?_
    simp only [List.forall_mem_cons]
    exact ⟨Message.hasChar_of_plain (by decide), Message.hasChar_of_mem_directory,
      Message.hasChar_of_isName placed.isName, by simp⟩
  rw [written]
  refine imports_importOf importable (fun c mem => ?_) ?_
  · rw [String.toList_append, List.mem_append] at mem
    exact mem.elim (joined c) (Message.hasChar_of_plain (by decide) c)
  · rw [base, ← follow_join placed.isName leads, target]
    exact congrArg _ String.append_empty

/-- The way of an import leads from the one message to the other. -/
theorem imports_importLine (target : x.target = .typescript) (source : m.IsPlaced)
    (placed : b.IsPlaced) (importable : b.IsImportable x.target) {s : String}
    (line : TypeScript.importLine m b = .ok s) :
    x.Imports (x.pathOf m) s (shown b.name) (x.pathOf b) := by
  obtain ⟨here, found, line⟩ := exists_of_bind_eq_ok line
  obtain rfl := source.eq_directory found
  obtain ⟨there, found, line⟩ := exists_of_bind_eq_ok line
  obtain rfl := placed.eq_directory found
  have leads : ([Path.relative (Path.directory (m.module.getD ""))
      (Path.directory (b.module.getD ""))].flatMap (Path.segments Path.isSlash)).foldl Path.descend
      (x.root.segments ++ m.segments) = x.root.segments ++ b.segments := by
    rw [List.flatMap_singleton, Message.segments, Message.segments, ← Path.fromRoot_directory,
      ← Path.fromRoot_directory]
    exact Path.foldl_relative _ _ _
  have base : (x.pathOf m).parent = ⟨x.root.start, x.root.segments ++ m.segments⟩ := by
    rw [pathOf, FilePath.parent, ← List.append_assoc, List.dropLast_concat]
  have written : s = x.target.importOf (shown b.name) (Path.join [Path.relative
      (Path.directory (m.module.getD "")) (Path.directory (b.module.getD "")), shown b.name]) := by
    rw [← Except.ok.inj line, target, placed.getD_name]
    rfl
  rw [written]
  refine imports_importOf importable (Message.hasChar_of_mem_join ?_) ?_
  · simp only [List.forall_mem_cons]
    exact ⟨Message.hasChar_of_mem_relative, Message.hasChar_of_isName placed.isName, by simp⟩
  · rw [importBase, target]
    show (x.pathOf m).parent.follow (_ ++ ".ts") = _
    rw [base, ← follow_join placed.isName leads, target]
    rfl

/-- The way of an import of the manager leads from the root to the message. -/
theorem imports_managerImport (target : x.target = .typescript) (placed : b.IsPlaced)
    (importable : b.IsImportable x.target) {s : String}
    (line : TypeScript.managerImport b = .ok s) {source : FilePath}
    (here : source.parent = x.root) : x.Imports source s (shown b.name) (x.pathOf b) := by
  obtain ⟨directory, found, line⟩ := exists_of_bind_eq_ok line
  obtain rfl := placed.eq_directory found
  have leads : ([".", Path.directory (b.module.getD "")].flatMap
      (Path.segments Path.isSlash)).foldl Path.descend x.root.segments =
      x.root.segments ++ b.segments := by
    rw [List.flatMap_cons, List.flatMap_singleton, Path.segments_directory]
    exact Path.IsSegment.foldl_descend (fun u mem => Path.isSegment_of_mem mem) x.root.segments
  have written : s = x.target.importOf (shown b.name)
      (Path.join [".", Path.directory (b.module.getD ""), shown b.name]) := by
    rw [← Except.ok.inj line, target, placed.getD_name]
    rfl
  rw [written]
  refine imports_importOf importable (Message.hasChar_of_mem_join ?_) ?_
  · simp only [List.forall_mem_cons]
    exact ⟨Message.hasChar_of_plain (by decide), Message.hasChar_of_mem_directory,
      Message.hasChar_of_isName placed.isName, by simp⟩
  · rw [importBase, target]
    show source.parent.follow (_ ++ ".ts") = _
    rw [here, ← follow_join placed.isName leads, target]
    rfl

/-- The path of the manager. -/
theorem parent_manager (x : OutputContext) :
    (x.root.child (managerName ++ "." ++ x.target.extension)).parent = x.root := by
  have segment : Path.IsSegment (managerName ++ "." ++ x.target.extension) := by
    cases x.target <;> exact ⟨by decide, by decide, by decide, by decide⟩
  rw [FilePath.child_of_isSegment _ segment, FilePath.parent, List.dropLast_concat]

/-- The name of the buffer's header leads down. -/
theorem isSegment_header : Path.IsSegment "ByteBuffer.h" :=
  ⟨by decide, by decide, by decide, by decide⟩

/-- The only support file of C++ is the buffer's header, in the root. -/
theorem supportFiles_eq (target : x.target = .cpp) : x.supportFiles =
    [⟨⟨x.root.start, x.root.segments ++ ["ByteBuffer.h"]⟩, Support.cppBuffer⟩] := by
  rw [← FilePath.child_of_isSegment _ isSegment_header, supportFiles, target]
  rfl

/-- An import that every file of a target has leads to a support file. -/
theorem exists_support_of_mem_ownImports (rooted : x.IsRooted) {s : String}
    (mem : s ∈ x.target.ownImports) (source : FilePath) :
    x.target = .cpp ∧ ∃ f ∈ x.supportFiles, ∃ name, x.Imports source s name f.path := by
  cases target : x.target with
  | typescript =>
    rw [target] at mem
    cases mem
  | cpp =>
    rw [target] at mem
    obtain rfl := List.mem_singleton.mp mem
    obtain ⟨above, root, base⟩ := exists_importBase rooted target
    have split : Path.segments Path.isSlash (Cpp.rootDirectory ++ "/ByteBuffer.h" ++ "") =
        [Cpp.rootDirectory, "ByteBuffer.h"] := by decide
    have down : ∀ u ∈ [Cpp.rootDirectory, "ByteBuffer.h"], Path.IsSegment u :=
      List.forall_mem_cons.mpr
        ⟨isSegment_rootDirectory, List.forall_mem_singleton.mpr isSegment_header⟩
    rw [supportFiles_eq target]
    refine ⟨rfl, _, List.mem_singleton.mpr rfl, "ByteBuffer", none,
      Cpp.rootDirectory ++ "/ByteBuffer.h", ?_, by simp, ?_⟩
    · have written : "#include \"" ++ Cpp.rootDirectory ++ "/ByteBuffer.h\"" =
          Target.cpp.importOf "ByteBuffer" (Cpp.rootDirectory ++ "/ByteBuffer.h") := rfl
      rw [target, written]
      exact Target.readImport?_importOf trivial (by simp [Cpp.rootDirectory, Target.breaking])
    · rw [base, target]
      refine (FilePath.follow_eq _ split down).trans ?_
      rw [root, List.append_assoc]
      rfl

/-! ### Statements -/

/-- The statement in a file imports a message, by its name and from its path. -/
def ImportsMessage (x : OutputContext) (source : FilePath) (statement : String) (b : Message) :
    Prop :=
  ∃ path, x.messagePath b = .ok path ∧ x.Imports source statement (shown b.name) path

/-- The import statements of a message's file. -/
def messageImports (x : OutputContext) (r : Registry) (m : Message) :
    Except Fault (List String) := do
  let lines ← x.dependencyLines r m
  return x.target.ownImports ++ lines

/-- The import statements of the manager's file. -/
def managerImports (x : OutputContext) (r : Registry) : Except Fault (List String) := do
  let lines ← r.messages.mapM x.target.managerImport
  return x.target.ownImports ++ lines.eraseDups

/-- No message takes the path of the buffer's header. -/
def KeepsApart (x : OutputContext) (r : Registry) : Prop :=
  x.target = .cpp → ∀ b ∈ r.messages, ∀ f ∈ x.supportFiles, x.messagePath b ≠ .ok f.path

/-- The file has import statements in front, each of which leads to a message or, in C++, to a
support file. None stands twice if messages keep apart from support files. -/
structure Resolves (x : OutputContext) (r : Registry) (file : OutputFile)
    (imports : List String) : Prop where
  /-- The statements stand in front. -/
  layout : x.target.HasImports file.content imports
  /-- Every statement leads to a file. -/
  leads : ∀ s ∈ imports, (∃ b ∈ r.messages, x.ImportsMessage file.path s b) ∨
    x.target = .cpp ∧ ∃ f ∈ x.supportFiles, ∃ name, x.Imports file.path s name f.path
  /-- No statement stands twice. -/
  nodup : x.KeepsApart r → imports.Nodup

/-- A message whose file is laid out imports another message, under any name. -/
def Includes (x : OutputContext) (r : Registry) (a b : Message) : Prop :=
  a ∈ r.messages ∧ b ∈ r.messages ∧ ∃ file imports path, x.messageFile r a = .ok file ∧
    x.messageImports r a = .ok imports ∧ x.messagePath b = .ok path ∧
    ∃ s ∈ imports, ∃ name, x.Imports file.path s name path

/-- The message is at its path. -/
theorem messagePath_of_isPlaced (placed : b.IsPlaced) : x.messagePath b = .ok (x.pathOf b) :=
  messagePath_eq x placed.module_ne_none placed.isName

/-- The file of a message is at its path. -/
theorem eq_path_of_messageFile {file : OutputFile} (placed : m.IsPlaced)
    (laid : x.messageFile r m = .ok file) : x.pathOf m = file.path :=
  Except.ok.inj ((messagePath_of_isPlaced placed).symm.trans (messagePath_of_messageFile laid))

/-- The paths of messages tell their names. -/
theorem name_of_pathOf_eq (hm : m.IsPlaced) (hb : b.IsPlaced) (same : x.pathOf m = x.pathOf b) :
    m.name = b.name := by
  obtain ⟨name, named, -⟩ := hm.exists_name
  obtain ⟨other, isOther, -⟩ := hb.exists_name
  have segments := congrArg FilePath.segments same
  simp only [pathOf, ← List.append_assoc] at segments
  have last := (List.append_inj_right' segments rfl)
  rw [named, isOther] at last ⊢
  simpa [shown] using last

/-- Messages keep apart from support files exactly if none has the name of the buffer outside of all
directories. -/
theorem keepsApart_iff (placed : ∀ m ∈ r.messages, m.IsPlaced) : x.KeepsApart r ↔
    (x.target = .cpp → ∀ b ∈ r.messages, b.segments = [] → b.name ≠ some "ByteBuffer") := by
  refine forall_congr' fun target => forall₂_congr fun b hb => ?_
  obtain ⟨name, named, -⟩ := (placed b hb).exists_name
  rw [supportFiles_eq target, List.forall_mem_singleton, messagePath_of_isPlaced (placed b hb),
    pathOf, named, target]
  have ending : shown (some name) ++ "." ++ Target.cpp.extension = "ByteBuffer.h" ↔
      name = "ByteBuffer" := by
    show name ++ "." ++ "h" = "ByteBuffer" ++ "." ++ "h" ↔ _
    rw [String.append_left_inj, String.append_left_inj]
  simp [List.append_eq_singleton_iff, ending]

/-- A line by which a message makes another one known imports it. -/
theorem importsMessage_of_dependencyLine (rooted : x.IsRooted) (source : m.IsPlaced)
    (placed : b.IsPlaced) (importable : b.IsImportable x.target) {s : String}
    (line : x.target.dependencyLine m b = .ok s) : x.ImportsMessage (x.pathOf m) s b := by
  refine ⟨x.pathOf b, messagePath_of_isPlaced placed, ?_⟩
  cases target : x.target with
  | cpp =>
    rw [target] at line
    exact imports_includeLine rooted target placed importable line _
  | typescript =>
    rw [target] at line
    exact imports_importLine target source placed importable line

/-- A line by which the manager makes a message known imports it. -/
theorem importsMessage_of_managerImport (rooted : x.IsRooted) (placed : b.IsPlaced)
    (importable : b.IsImportable x.target) {s : String} (line : x.target.managerImport b = .ok s)
    {source : FilePath} (here : source.parent = x.root) :
    x.ImportsMessage source s b := by
  refine ⟨x.pathOf b, messagePath_of_isPlaced placed, ?_⟩
  cases target : x.target with
  | cpp =>
    rw [target] at line
    exact imports_includeLine rooted target placed importable line _
  | typescript =>
    rw [target] at line
    exact imports_managerImport target placed importable line here

/-- No line is left twice. -/
theorem nodup_eraseDups (ss : List String) : ss.eraseDups.Nodup := by
  induction size : ss.length using Nat.strong_induction_on generalizing ss with
  | _ n ih =>
    cases ss with
    | nil => simp
    | cons s ss =>
      have shorter := List.length_filter_le (fun u => !u == s) ss
      rw [List.length_cons] at size
      rw [List.eraseDups_cons, List.nodup_cons, List.mem_eraseDups]
      exact ⟨by simp, ih _ (by omega) _ rfl⟩

/-- Lines that import messages, each left once behind the imports that every file has, resolve. -/
theorem resolves_of_lines (rooted : x.IsRooted) {file : OutputFile} {lines : List String}
    (layout : x.target.HasImports file.content (x.target.ownImports ++ lines.eraseDups))
    (known : ∀ s ∈ lines, ∃ b ∈ r.messages, x.ImportsMessage file.path s b) :
    x.Resolves r file (x.target.ownImports ++ lines.eraseDups) := by
  refine ⟨layout, ?_, ?_⟩
  · intro s mem
    rcases List.mem_append.mp mem with own | line
    · exact .inr (exists_support_of_mem_ownImports rooted own _)
    · exact .inl (known s (List.mem_eraseDups.mp line))
  · intro apart
    have own : x.target.ownImports.Nodup := by cases x.target <;> simp [Target.ownImports]
    refine List.nodup_append.mpr ⟨own, nodup_eraseDups lines, ?_⟩
    rintro s first u second rfl
    -- the line leads both to a message and to a support file
    obtain ⟨target, f, support, name, here⟩ :=
      exists_support_of_mem_ownImports rooted first file.path
    obtain ⟨b, hb, path, placed, there⟩ := known s (List.mem_eraseDups.mp second)
    rw [there.eq_path here] at placed
    exact apart target b hb f support placed

section Built

variable (built : r.IsBuilt) (placed : ∀ m ∈ r.messages, m.IsPlaced)

include built placed

/-- A statement that imports a message leads to the path of no other message. -/
theorem ImportsMessage.eq {a : Message} {source path : FilePath} {s name : String}
    (h : x.ImportsMessage source s a) (k : x.Imports source s name path) (ha : a ∈ r.messages)
    (hb : b ∈ r.messages) (located : x.messagePath b = .ok path) : a = b := by
  obtain ⟨own, found, imports⟩ := h
  obtain rfl := imports.eq_path k
  rw [messagePath_of_isPlaced (placed a ha)] at found
  rw [messagePath_of_isPlaced (placed b hb)] at located
  have same : x.pathOf a = x.pathOf b :=
    (Except.ok.inj found).trans (Except.ok.inj located).symm
  exact built.eq_of_name_eq ha hb (name_of_pathOf_eq (placed a ha) (placed b hb) same)

end Built

section Lines

variable (rooted : x.IsRooted) (placed : ∀ m ∈ r.messages, m.IsPlaced)
  (importable : ∀ m ∈ r.messages, m.IsImportable x.target) (hm : m ∈ r.messages)
  {lines : List String} (made : x.dependencyLines r m = .ok lines)

include rooted placed importable hm made

/-- A message's lines import messages that are reached from it. -/
theorem exists_reached_of_mem {s : String} (mem : s ∈ lines) :
    ∃ b ∈ r.messages, Relation.TransGen r.Holds m.id b.id ∧ x.ImportsMessage (x.pathOf m) s b := by
  obtain ⟨ids, all, told, rfl, related⟩ := forall₂_of_dependencyLines made
  obtain ⟨id, inside, b, got, line⟩ := exists_of_mem_forall₂ related (List.mem_eraseDups.mp mem)
  obtain ⟨hb, key⟩ := Registry.mem_of_find? (Registry.find?_of_get got)
  have reached := (Registry.isIn_dependencies_iff told).mp (MessageId.isIn_of_mem inside)
  exact ⟨b, hb, Registry.reaches_congr reached key,
    importsMessage_of_dependencyLine rooted (placed m hm) (placed b hb) (importable b hb) line⟩

/-- Every message that is reached from a message has a line. -/
theorem exists_line_of_reached (hb : b ∈ r.messages)
    (reached : Relation.TransGen r.Holds m.id b.id) :
    ∃ s ∈ lines, x.ImportsMessage (x.pathOf m) s b := by
  obtain ⟨ids, all, told, rfl, related⟩ := forall₂_of_dependencyLines made
  have inside := (Registry.isIn_dependencies_iff told).mpr reached
  obtain ⟨id, mem, same⟩ := List.mem_map.mp (MessageId.isIn_iff.mp inside)
  obtain ⟨s, isLine, c, got, line⟩ := exists_of_mem_forall₂ related.flip mem
  obtain ⟨hc, key⟩ := Registry.mem_of_find? (Registry.find?_of_get got)
  obtain rfl := Registry.eq_of_key_eq hc hb (key.trans same)
  exact ⟨s, List.mem_eraseDups.mpr isLine,
    importsMessage_of_dependencyLine rooted (placed m hm) (placed c hc) (importable c hc) line⟩

end Lines

/-! ### Imports of a registry -/

section Registry

variable (built : r.IsBuilt) (placed : ∀ m ∈ r.messages, m.IsPlaced)
  (importable : ∀ m ∈ r.messages, m.IsImportable x.target) (rooted : x.IsRooted)

include built placed importable rooted

/-- If no message takes the path of the buffer's header, a message imports only messages that are
reached from it, and its dependencies can be told. -/
theorem reaches_of_includes {a : Message} (apart : x.KeepsApart r) (h : x.Includes r a b) :
    Relation.TransGen r.Holds a.id b.id ∧ ∃ ids, r.dependencies a.id = .ok ids := by
  obtain ⟨ha, hb, file, imports, path, laid, all, located, s, mem, name, leads⟩ := h
  obtain ⟨lines, made, all⟩ := exists_of_bind_eq_ok all
  cases all
  obtain ⟨ids, -, told, -, -⟩ := forall₂_of_dependencyLines made
  rw [← eq_path_of_messageFile (placed a ha) laid] at leads
  rcases List.mem_append.mp mem with own | line
  · obtain ⟨target, f, support, other, there⟩ :=
      exists_support_of_mem_ownImports rooted own (x.pathOf a)
    rw [leads.eq_path there] at located
    exact absurd located (apart target b hb f support)
  · obtain ⟨c, hc, reached, known⟩ := exists_reached_of_mem rooted placed importable ha made line
    obtain rfl := known.eq built placed leads hc hb located
    exact ⟨reached, ids, told⟩

/-- If no message takes the path of the buffer's header, no messages import each other in turn. -/
theorem not_includes_self (apart : x.KeepsApart r) (m : Message) :
    ¬ Relation.TransGen (x.Includes r) m m := by
  have reaches := fun a b => reaches_of_includes (a := a) (b := b) built placed importable rooted apart
  intro around
  have path : Relation.TransGen r.Holds m.id m.id :=
    Relation.TransGen.lift' Message.id (fun a b step => (reaches a b step).1) m m around
  obtain ⟨b, first, -⟩ := Relation.TransGen.head'_iff.mp around
  obtain ⟨-, ids, told⟩ := reaches m b first
  obtain ⟨visits, tree⟩ := Registry.exists_unfolds_of_dependencies told
  exact tree.not_reaches_self path

/-- The imports of a message's file resolve, and the messages that it nests are imported. -/
theorem exists_messageImports (hm : m ∈ r.messages) {file : OutputFile}
    (laid : x.messageFile r m = .ok file) :
    ∃ imports, x.messageImports r m = .ok imports ∧ x.Resolves r file imports ∧
      ∀ b ∈ r.messages, m.Nests b → b ≠ m → b.id ≠ .null →
        ∃ s ∈ imports, x.ImportsMessage file.path s b := by
  obtain ⟨name, named, -⟩ := (placed m hm).exists_name
  obtain ⟨lines, made, layout⟩ := exists_of_messageFile laid (by simp [named])
  obtain ⟨ids, all, told, rfl, -⟩ := forall₂_of_dependencyLines made
  obtain ⟨visits, tree⟩ := Registry.exists_unfolds_of_dependencies told
  have path := eq_path_of_messageFile (placed m hm) laid
  refine ⟨x.target.ownImports ++ all.eraseDups, ?_, resolves_of_lines rooted layout ?_, ?_⟩
  · rw [messageImports, made]
    rfl
  · intro s mem
    obtain ⟨b, hb, -, known⟩ :=
      exists_reached_of_mem rooted placed importable hm made (List.mem_eraseDups.mpr mem)
    exact ⟨b, hb, path ▸ known⟩
  · intro b hb nests other id
    have holds := Registry.holds_of_nests built tree ⟨hm, hb, nests⟩ other.symm id
    obtain ⟨s, mem, known⟩ := exists_line_of_reached rooted placed importable hm made hb (.single holds)
    exact ⟨s, List.mem_append_right _ mem, path ▸ known⟩

omit built

/-- The imports of the manager's file resolve, and every message is imported. -/
theorem exists_managerImports {file : OutputFile} (laid : x.managerFile r = .ok file) :
    ∃ imports, x.managerImports r = .ok imports ∧ x.Resolves r file imports ∧
      ∀ b ∈ r.messages, ∃ s ∈ imports, x.ImportsMessage file.path s b := by
  obtain ⟨lines, made, rfl⟩ := exists_of_managerFile laid
  have related := forall₂_of_mapM_eq_ok made
  have known : ∀ b ∈ r.messages, ∀ s, x.target.managerImport b = .ok s → x.ImportsMessage
      (x.root.child (managerName ++ "." ++ x.target.extension)) s b := by
    intro b hb s line
    exact importsMessage_of_managerImport rooted (placed b hb) (importable b hb) line (parent_manager x)
  refine ⟨x.target.ownImports ++ lines.eraseDups, ?_,
    resolves_of_lines rooted (hasImports_managerText _ _ _) ?_, ?_⟩
  · rw [managerImports, made]
    rfl
  · intro s mem
    obtain ⟨b, hb, line⟩ := exists_of_mem_forall₂ related mem
    exact ⟨b, hb, known b hb s line⟩
  · intro b hb
    obtain ⟨s, mem, line⟩ := exists_of_mem_forall₂ related.flip hb
    exact ⟨s, List.mem_append_right _ (List.mem_eraseDups.mpr mem), known b hb s line⟩

end Registry

namespace Sample

open Registry.Sample (field)

/-- Three messages in three directories: the first nests the second, and the second the third. -/
def modules : RegistryDefinition where
  messages := some [
    { id := .number 1, name := some "Login", module := some "game.user",
      fields := some [field "bags" "List<Map<String, Bag>>"] },
    { id := .number 2, name := some "Bag", module := some "game/store",
      fields := some [field "owner" "Owner"] },
    { id := .number 3, name := some "Owner" }]

/-- Two messages: the second nests the first, which has no id. -/
def unnumbered : RegistryDefinition where
  messages := some [
    { id := .null, name := some "D" },
    { id := .number 1, name := some "M", fields := some [field "d" "D"] }]

/-- Two messages: the first nests the second, whose module has a quotation mark. -/
def quoted : RegistryDefinition where
  messages := some [
    { id := .number 1, name := some "A", fields := some [field "b" "B"] },
    { id := .number 2, name := some "B", module := some "it's" }]

/-- A message that takes the path of the buffer's header. -/
def header : RegistryDefinition where
  messages := some [{ id := .number 1, name := some "ByteBuffer" }]

end Sample

/-- Every target has a context whose root is the target's directory. -/
theorem exists_isRooted (t : Target) : ∃ x : OutputContext, x.target = t ∧ x.IsRooted ∧
    Generator.prepare x.target = .ok x.coder := by
  obtain ⟨c, prepared, rfl, -⟩ := Script.exists_prepare t
  refine ⟨⟨(FilePath.ofText "out").child c.target.rootDirectory, c, false⟩, rfl, ?_, prepared⟩
  intro target
  exact ⟨_, congrArg (fun t : Target => (FilePath.ofText "out").child t.rootDirectory) target⟩

end OutputContext

end PacketSmith
