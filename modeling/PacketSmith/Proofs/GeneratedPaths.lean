import PacketSmith.Proofs.Imports

/-!
# Paths of the files of a registry

The files of a registry lie below the root, along ways that depend on the registry and the target
alone (`Registry.ways`, `paths_of_files`). A way leads through directories without a dot in their
names to a file that has one (`isFileWay_of_mem`), so no file is where another one needs a directory.

No two files have the same path exactly if no message outside of all directories has the name of a
file that the target has anyway (`nodup_ways_iff`). Names of messages differ, and the support file of
TypeScript is in a directory with a small letter in front, which no directory of a module has.
-/

namespace PacketSmith

/-- A capitalized text does not begin with a small b. -/
theorem Text.head?_capitalize_ne (s : String) : (capitalize s).toList.head? ≠ some 'b' := by
  cases chars : (capitalize s).toList with
  | nil => simp
  | cons c cs =>
    rintro ⟨⟩
    exact absurd (upperChar_of_capitalize chars) (by decide +kernel)

namespace Path

variable {module s : String}

/-- The segments lead down to a file, through directories without a dot in their names to a name
that has one. -/
def IsFileWay (down : List String) : Prop :=
  ∃ directories name, down = directories ++ [name] ∧
    (∀ s ∈ directories, IsSegment s ∧ '.' ∉ s.toList) ∧ IsSegment name ∧ '.' ∈ name.toList

/-- The way to a file leads down. -/
theorem IsFileWay.dots {down : List String} (h : IsFileWay down) : ".." ∉ down := by
  obtain ⟨directories, name, rfl, above, last, -⟩ := h
  intro mem
  rcases List.mem_append.mp mem with inside | same
  · exact (above _ inside).1.dots rfl
  · exact last.dots (List.mem_singleton.mp same).symm

end Path

/-! ### Ways -/

/-- The path that goes on down from another one. -/
def FilePath.below (p : FilePath) (down : List String) : FilePath :=
  ⟨p.start, p.segments ++ down⟩

/-- The way from the root to the file of a message. -/
def Message.way (m : Message) (t : Target) : List String :=
  m.segments ++ [shown m.name ++ "." ++ t.extension]

namespace Target

/-- The way from the root to the file of the manager. -/
def managerWay (t : Target) : List String := [OutputContext.managerName ++ "." ++ t.extension]

/-- The ways from the root to the support files. -/
def supportWays : Target → List (List String)
  | cpp => [["ByteBuffer.h"]]
  | typescript => [["buffer", "ByteBuffer.ts"]]

/-- The names of the files in the root that the target has anyway. -/
def ownNames : Target → List String
  | cpp => [OutputContext.managerName, "ByteBuffer"]
  | typescript => [OutputContext.managerName]

/-- The files that a target has anyway are in the root under their own names, but for the support
file of TypeScript. -/
theorem mem_ways_iff {t : Target} {way : List String} : way ∈ [t.managerWay] ++ t.supportWays ↔
    (∃ name ∈ t.ownNames, way = [name ++ "." ++ t.extension]) ∨
      t = typescript ∧ way = ["buffer", "ByteBuffer.ts"] := by
  cases t with
  | cpp =>
    have header : "ByteBuffer.h" = "ByteBuffer" ++ "." ++ cpp.extension := by decide
    simp [managerWay, supportWays, ownNames, header]
  | typescript => simp [managerWay, supportWays, ownNames]

end Target

/-- The ways from the root to the files of a registry: the messages in order, the manager, and the
support files. -/
def Registry.ways (r : Registry) (t : Target) : List (List String) :=
  r.messages.map (·.way t) ++ [t.managerWay] ++ t.supportWays

namespace OutputContext

variable {x : OutputContext} {r : Registry}

/-- The support files are at their ways below the root. -/
theorem paths_of_supportFiles (x : OutputContext) :
    x.supportFiles.map (·.path) = x.target.supportWays.map x.root.below := by
  cases target : x.target with
  | cpp =>
    rw [supportFiles_eq target]
    rfl
  | typescript =>
    have down : ∀ s ∈ ["buffer", "ByteBuffer.ts"], Path.IsSegment s := by
      intro s mem
      rcases List.mem_cons.mp mem with rfl | mem
      · exact ⟨by decide, by decide, by decide, by decide⟩
      · rw [List.mem_singleton.mp mem]
        exact ⟨by decide, by decide, by decide, by decide⟩
    have path : x.root.child "buffer/ByteBuffer.ts" = x.root.below ["buffer", "ByteBuffer.ts"] :=
      FilePath.child_eq _ (by decide) (by decide) down
    rw [supportFiles, target]
    exact congrArg (fun p => [p]) path

/-- The file of the manager is at its way below the root. -/
theorem child_manager (x : OutputContext) : x.root.child (managerName ++ "." ++ x.target.extension) =
    x.root.below x.target.managerWay := by
  refine FilePath.child_of_isSegment _ ?_
  cases x.target <;> exact ⟨by decide, by decide, by decide, by decide⟩

/-- The files of messages are at their ways below the root. -/
theorem paths_of_messages {ms : List Message} (placed : ∀ m ∈ ms, m.IsPlaced)
    {files : List OutputFile}
    (laid : List.Forall₂ (fun m file => x.messageFile r m = .ok file) ms files) :
    files.map (·.path) = (ms.map (·.way x.target)).map x.root.below := by
  induction laid with
  | nil => rfl
  | cons first _ ih =>
    obtain ⟨here, rest⟩ := List.forall_mem_cons.mp placed
    rw [List.map_cons, List.map_cons, List.map_cons, ih rest, ← eq_path_of_messageFile here first]
    rfl

/-- The files of a registry are at their ways below the root. -/
theorem paths_of_files (placed : ∀ m ∈ r.messages, m.IsPlaced) {files : List OutputFile}
    (h : x.files r = .ok files) :
    files.map (·.path) = (r.ways x.target).map x.root.below := by
  obtain ⟨messages, made, h⟩ := exists_of_bind_eq_ok h
  obtain ⟨manager, registers, h⟩ := exists_of_bind_eq_ok h
  cases h
  obtain ⟨imports, -, rfl⟩ := exists_of_managerFile registers
  have first := paths_of_messages placed (forall₂_of_mapM_eq_ok made)
  rw [Registry.ways, List.map_append, List.map_append, List.map_append, List.map_append, first,
    paths_of_supportFiles, List.map_singleton, List.map_singleton, child_manager]

/-- Files are laid out only if all messages have a module. -/
theorem module_ne_none_of_files {files : List OutputFile} (h : x.files r = .ok files) :
    ∀ m ∈ r.messages, m.module ≠ none := by
  obtain ⟨messages, -, h⟩ := exists_of_bind_eq_ok h
  obtain ⟨manager, made, -⟩ := exists_of_bind_eq_ok h
  exact exists_managerFile_iff.mp ⟨manager, made⟩

end OutputContext

namespace Registry

variable {r : Registry} {t : Target} {down : List String}

/-- The files of a registry are messages' files, or files that the target has anyway. -/
theorem ways_cases (mem : down ∈ r.ways t) : (∃ m ∈ r.messages, m.way t = down) ∨
    down = t.managerWay ∨ down ∈ t.supportWays := by
  rcases List.mem_append.mp mem with front | support
  · rcases List.mem_append.mp front with message | manager
    · obtain ⟨m, hm, rfl⟩ := List.mem_map.mp message
      exact .inl ⟨m, hm, rfl⟩
    · exact .inr (.inl (List.mem_singleton.mp manager))
  · exact .inr (.inr support)

/-- No message is in the directory of the support file of TypeScript. -/
theorem way_ne_buffer (m : Message) : m.way .typescript ≠ ["buffer", "ByteBuffer.ts"] := by
  intro same
  have segments : m.segments = ["buffer"] := by
    have front := congrArg List.dropLast same
    rwa [Message.way, List.dropLast_concat] at front
  obtain ⟨s, -, capital⟩ : ∃ s ∈ Path.moduleSegments (m.module.getD ""),
      Text.capitalize s = "buffer" := by
    refine List.mem_map.mp ?_
    show "buffer" ∈ m.segments
    simp [segments]
  have first := Text.head?_capitalize_ne s
  rw [capital] at first
  exact first rfl

variable (placed : ∀ m ∈ r.messages, m.IsPlaced)

include placed

/-- The ways of a registry lead to files. -/
theorem isFileWay_of_mem (mem : down ∈ r.ways t) : Path.IsFileWay down := by
  rcases ways_cases mem with ⟨m, hm, rfl⟩ | rfl | support
  · have name : Path.IsSegment (shown m.name ++ "." ++ t.extension) := by
      rw [String.append_assoc]
      refine isSegment_of_isName (placed m hm).isName ?_
      cases t <;> decide
    exact ⟨m.segments, _, rfl, fun s inside => ⟨Path.isSegment_of_mem inside,
      Path.not_mem_of_mem_directorySegments inside⟩, name, by simp⟩
  · refine ⟨[], _, rfl, by simp, ?_, by simp⟩
    cases t <;> exact ⟨by decide, by decide, by decide, by decide⟩
  · cases t with
    | cpp =>
      obtain rfl := List.mem_singleton.mp support
      exact ⟨[], _, rfl, by simp, OutputContext.isSegment_header, by decide⟩
    | typescript =>
      obtain rfl := List.mem_singleton.mp support
      refine ⟨["buffer"], _, rfl, ?_, ⟨by decide, by decide, by decide, by decide⟩, by decide⟩
      rw [List.forall_mem_singleton]
      exact ⟨⟨by decide, by decide, by decide, by decide⟩, by decide⟩

/-- The ways of a registry have no NUL if the modules have none. -/
theorem nul_not_mem_of_mem
    (whole : ∀ m ∈ r.messages, Char.ofNat 0 ∉ (m.module.getD "").toList) (mem : down ∈ r.ways t)
    {s : String} (inside : s ∈ down) : Char.ofNat 0 ∉ s.toList := by
  rcases ways_cases mem with ⟨m, hm, rfl⟩ | rfl | support
  · rcases List.mem_append.mp inside with segment | name
    · exact Path.not_mem_directorySegments (by decide) (whole m hm) segment
    · rw [List.mem_singleton.mp name, String.toList_append, String.toList_append, List.mem_append,
        List.mem_append, not_or, not_or]
      refine ⟨⟨fun nul => ?_, by decide⟩, by cases t <;> decide⟩
      exact absurd (TypeName.isNamePart_of_isNameList (placed m hm).isName nul) (by decide)
  · rw [List.mem_singleton.mp inside]
    cases t <;> decide
  · cases t with
    | cpp =>
      obtain rfl := List.mem_singleton.mp support
      rw [List.mem_singleton.mp inside]
      decide
    | typescript =>
      obtain rfl := List.mem_singleton.mp support
      rcases List.mem_cons.mp inside with rfl | inside
      · decide
      · rw [List.mem_singleton.mp inside]
        decide

/-! ### Distinct paths -/

/-- A message takes the place of another file in the root if it has its name, and no directory. -/
theorem way_eq_iff {m : Message} (hm : m ∈ r.messages) (name : String) :
    m.way t = [name ++ "." ++ t.extension] ↔ m.segments = [] ∧ m.name = some name := by
  obtain ⟨own, named, -⟩ := (placed m hm).exists_name
  have ending : shown (some own) ++ "." ++ t.extension = name ++ "." ++ t.extension ↔
      own = name := by
    show own ++ "." ++ t.extension = _ ↔ _
    rw [String.append_left_inj, String.append_left_inj]
  rw [Message.way, named]
  simp [List.append_eq_singleton_iff, ending]

/-- No two files have the same path exactly if no message outside of all directories has the name of
a file that the target has anyway. -/
theorem nodup_ways_iff (built : r.IsBuilt) : (r.ways t).Nodup ↔
    ∀ m ∈ r.messages, m.segments = [] → ∀ name ∈ t.ownNames, m.name ≠ some name := by
  have messages : (r.messages.map (·.way t)).Nodup := by
    refine List.Nodup.map_on ?_ (.of_map _ built.names)
    intro m hm b hb same
    obtain ⟨x, rfl, -, -⟩ := OutputContext.exists_isRooted t
    have paths : x.pathOf m = x.pathOf b := congrArg x.root.below same
    exact built.eq_of_name_eq hm hb
      (OutputContext.name_of_pathOf_eq (placed m hm) (placed b hb) paths)
  have others : ([t.managerWay] ++ t.supportWays).Nodup := by cases t <;> decide
  -- only a message can take the path of another file
  have split : (r.ways t).Nodup ↔
      ∀ way ∈ [t.managerWay] ++ t.supportWays, way ∉ r.messages.map (·.way t) := by
    rw [ways, List.append_assoc, List.nodup_append]
    constructor
    · rintro ⟨-, -, apart⟩ way own taken
      exact apart way taken way own rfl
    · intro apart
      refine ⟨messages, others, fun way taken other own same => apart way ?_ taken⟩
      rw [same]
      exact own
  rw [split]
  constructor
  · intro apart m hm inside name own named
    refine apart [name ++ "." ++ t.extension] (Target.mem_ways_iff.mpr (.inl ⟨name, own, rfl⟩)) ?_
    exact List.mem_map.mpr ⟨m, hm, (way_eq_iff placed hm name).mpr ⟨inside, named⟩⟩
  · intro apart way own taken
    obtain ⟨m, hm, rfl⟩ := List.mem_map.mp taken
    rcases Target.mem_ways_iff.mp own with ⟨name, mem, same⟩ | ⟨rfl, same⟩
    · obtain ⟨inside, named⟩ := (way_eq_iff placed hm name).mp same
      exact apart m hm inside name mem named
    · exact way_ne_buffer m same

end Registry

end PacketSmith
