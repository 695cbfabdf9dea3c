import PacketSmith.Proofs.GeneratedTree

/-!
# Files that take each other's place

Two files of a registry have one path exactly if a message outside of all directories has the name of
the manager or, in C++, of the buffer's header (`nodup_paths_iff_of_ofDefinition`). Nothing keeps a
message from such a name. The file that is laid out last is there in the end, so the file of the
message is lost.
-/

namespace PacketSmith

open FileTree

namespace OutputContext

variable {x : OutputContext} {r : Registry}

/-- The manager of messages begins with an import in TypeScript. -/
theorem import_of_managerFile (target : x.target = .typescript) {m : Message} (hm : m ∈ r.messages)
    {manager : OutputFile} (registers : x.managerFile r = .ok manager) :
    "import ".toList <+: manager.content.toList := by
  obtain ⟨imports, every, rfl⟩ := exists_of_managerFile registers
  have related := forall₂_of_mapM_eq_ok every
  obtain ⟨line, isLine, -⟩ := exists_of_mem_forall₂ related.flip hm
  rw [target] at related ⊢
  show _ <+: (Target.managerText _ imports.eraseDups _).toList
  cases lines : imports.eraseDups with
  | nil =>
    have mem := List.mem_eraseDups.mpr isLine
    rw [lines] at mem
    cases mem
  | cons s rest =>
    have first : s ∈ imports := List.mem_eraseDups.mp (by simp [lines])
    obtain ⟨b, -, made⟩ := exists_of_mem_forall₂ related first
    obtain ⟨directory, -, made⟩ := exists_of_bind_eq_ok made
    cases made
    unfold Target.managerText endSection endLines
    simp only [String.append_assoc, List.map_cons, String.join_cons, String.toList_append]
    exact List.prefix_append _ _

/-- The file of a message that has no dependencies does not begin with an import in TypeScript, unlike
the manager. -/
theorem content_ne_of_typescript (target : x.target = .typescript) {m : Message}
    {file manager : OutputFile} (laid : x.messageFile r m = .ok file) (hm : m ∈ r.messages)
    (name : m.name ≠ none) (free : r.dependencies m.id = .ok [])
    (registers : x.managerFile r = .ok manager) : file.content ≠ manager.content := by
  obtain ⟨lines, made, front⟩ := exists_of_messageFile laid name
  obtain rfl : lines = [] := by
    unfold dependencyLines at made
    rw [free] at made
    exact (Except.ok.inj made).symm
  rw [target] at front
  obtain ⟨text, content, plain⟩ := front
  intro same
  refine plain ?_
  have whole : text = manager.content := by
    rw [← String.empty_append (s := text)]
    exact content.symm.trans same
  rw [whole]
  exact import_of_managerFile target hm registers

end OutputContext

namespace Generator

variable {t t₁ : FileTree} {g g' : Generator} {directory : String} {clean : Bool} {r : Registry}

section Started

variable (started : (g.start directory clean).run t = (.ok g', t₁))
  (placed : ∀ m ∈ r.messages, m.IsPlaced) {files : List OutputFile}
  (laid : g'.files r = .ok files)

include started placed laid

/-- The paths of the files differ exactly if the ways of the registry do. -/
theorem nodup_paths_iff : (files.map (·.path)).Nodup ↔ (r.ways g.target).Nodup := by
  rw [paths_of_start started placed laid]
  refine List.nodup_map_iff ?_
  intro a b same
  exact List.append_cancel_left (congrArg FilePath.segments same)

/-- If the paths differ, every file that is written stays. -/
theorem find?_of_nodup (distinct : (files.map (·.path)).Nodup) {paths : List FilePath}
    {u : FileTree} (run : (g'.generate r).run t₁ = (.ok paths, u)) {f : OutputFile}
    (mem : f ∈ files) : u.find? (t₁.placeOf f.path) = some (.file f.bytes) := by
  rw [run_generate laid] at run
  obtain ⟨last, found⟩ := exists_lastAt mem t₁
  obtain ⟨inside, place⟩ := of_lastAt found
  -- files at one place have one path
  have same : last.path = f.path := by
    rw [placeOf_congr (here_of_start started), placeOf_congr (here_of_start started)] at place
    obtain ⟨a, -, pathA, placeA⟩ := exists_way_of_start started placed laid inside
    obtain ⟨b, -, pathB, placeB⟩ := exists_way_of_start started placed laid mem
    rw [placeA, placeB] at place
    rw [pathA, pathB, List.append_cancel_left place]
  obtain rfl := List.inj_on_of_nodup_map distinct inside mem same
  rw [← content?_eq_some_iff, (content?_of_writeFiles run).2, found]
  rfl

end Started

/-- Of two files with one path and different contents, one is lost. -/
theorem exists_lost {files : List OutputFile} {a b : OutputFile} (ha : a ∈ files) (hb : b ∈ files)
    (clash : a.path = b.path) (other : a.content ≠ b.content) (u : FileTree) :
    ∃ file ∈ files, u.find? (t.placeOf file.path) ≠ some (.file file.bytes) := by
  by_cases there : u.find? (t.placeOf a.path) = some (.file a.bytes)
  · refine ⟨b, hb, fun own => other ?_⟩
    rw [← clash, there] at own
    exact String.toByteArray_inj.mp (Entry.file.inj (Option.some.inj own))
  · exact ⟨a, ha, there⟩

/-- No two files of a registry have one path exactly if no message outside of all directories has the
name of a file that the target has anyway. Then every file that is written is there in the end, with
its own content. -/
theorem nodup_paths_iff_of_ofDefinition {d : RegistryDefinition}
    (h : Registry.ofDefinition d = .ok r) (placed : ∀ m ∈ r.messages, m.IsPlaced)
    (started : (g.start directory clean).run t = (.ok g', t₁)) {files : List OutputFile}
    (laid : g'.files r = .ok files) :
    ((files.map (·.path)).Nodup ↔
      ∀ m ∈ r.messages, m.segments = [] → ∀ name ∈ g.target.ownNames, m.name ≠ some name) ∧
    ((files.map (·.path)).Nodup → ∀ paths u, (g'.generate r).run t₁ = (.ok paths, u) →
      ∀ f ∈ files, u.find? (t₁.placeOf f.path) = some (.file f.bytes)) := by
  have built := Registry.isBuilt_of_ofDefinition h
  constructor
  · rw [nodup_paths_iff started placed laid, Registry.nodup_ways_iff placed built]
  · intro distinct paths u run f mem
    exact find?_of_nodup started placed laid distinct run mem

/-- The five files of the sample are all there in the end. -/
theorem nodup_paths_iff_of_ofDefinition_modules : ∃ r g' t₁ files u,
    Registry.ofDefinition OutputContext.Sample.modules = .ok r ∧
    (∀ m ∈ r.messages, m.IsPlaced) ∧
    ((new .cpp).start "out" true).run Sample.stale = (.ok g', t₁) ∧ g'.files r = .ok files ∧
    (files.map (·.path)).Nodup ∧ (g'.generate r).run t₁ = (.ok (files.map (·.path)), u) ∧
    files.length = 5 ∧ ∀ f ∈ files, u.find? (t₁.placeOf f.path) = some (.file f.bytes) := by
  obtain ⟨r, made, placed, whole, ways, laid⟩ := Sample.exists_files
  obtain ⟨g', t₁, started⟩ : ∃ g' t₁, ((new .cpp).start "out" true).run Sample.stale =
      (.ok g', t₁) := Sample.exists_start_stale
  obtain ⟨files, laid⟩ := laid started
  have own : (r.ways (new .cpp).target).length = 5 ∧ (r.ways (new .cpp).target).Nodup := by
    rw [show (new .cpp).target = .cpp from rfl, ways]
    decide
  have length := congrArg List.length (paths_of_start started placed laid)
  rw [List.length_map, List.length_map, own.1] at length
  have distinct := (nodup_paths_iff started placed laid).mpr own.2
  obtain ⟨u, run⟩ := exists_generate_of_down Sample.startsOutside_stale started placed laid
    (by decide) whole (by
      refine forall_path_of_start started placed laid ?_
      rw [show (new .cpp).target = .cpp from rfl, ways]
      decide)
  exact ⟨r, g', t₁, files, u, made, placed, started, laid, distinct, run, length,
    (nodup_paths_iff_of_ofDefinition made placed started laid).2 distinct _ u run⟩

namespace Sample

/-- A message with the name of the manager. -/
def manager : RegistryDefinition where
  messages := some [{ id := .number 1, name := some "ProtocolManager" }]

end Sample

/-- A message with the name of the manager has its path, and its own file is not there in the end. -/
theorem message_lost_to_manager : ∃ r g' t₁ files u,
    Registry.ofDefinition Sample.manager = .ok r ∧ (∀ m ∈ r.messages, m.IsPlaced) ∧
    ((new .typescript).start "out" true).run (FileTree.start []) = (.ok g', t₁) ∧
    g'.files r = .ok files ∧ ¬ (files.map (·.path)).Nodup ∧
    (g'.generate r).run t₁ = (.ok (files.map (·.path)), u) ∧
    ∃ file ∈ files, u.find? (t₁.placeOf file.path) ≠ some (.file file.bytes) := by
  have facts : ∀ r, Registry.ofDefinition Sample.manager = .ok r →
      (∀ m ∈ r.messages, m.IsPlaced) ∧
      (∀ m ∈ r.messages, Char.ofNat 0 ∉ (m.module.getD "").toList) ∧
      (∀ m ∈ r.messages, m.id ≠ .null ∧ m.name ≠ none ∧ m.module ≠ none) ∧
      r.ways .typescript =
        [["ProtocolManager.ts"], ["ProtocolManager.ts"], ["buffer", "ByteBuffer.ts"]] ∧
      (∃ found, r.messages.mapM (fun m => r.dependencies m.id) = .ok found) ∧
      ∃ m ∈ r.messages, m.way .typescript = Target.typescript.managerWay ∧
        r.dependencies m.id = .ok [] := by
    intro r made
    obtain rfl := Except.ok.inj (made.symm.trans (by cbv))
    exact ⟨by decide, by decide, by decide, by decide, ⟨_, by cbv⟩, _, .head _, by decide, by cbv⟩
  obtain ⟨r, made⟩ : ∃ r, Registry.ofDefinition Sample.manager = .ok r := ⟨_, by cbv⟩
  obtain ⟨placed, whole, given, ways, ⟨found, told⟩, m, hm, way, free⟩ := facts r made
  obtain ⟨g', t₁, started⟩ : ∃ g' t₁, ((new .typescript).start "out" true).run
      (FileTree.start []) = (.ok g', t₁) := exists_start rfl rfl
  obtain ⟨files, laid⟩ :=
    exists_files_of_dependencies started (Registry.isBuilt_of_ofDefinition made) given told
  obtain ⟨u, run⟩ := exists_generate_of_down (Sample.startsOutside_start _ _) started placed laid
    (by decide) whole (by
      refine forall_path_of_start started placed laid ?_
      rw [show (new .typescript).target = .typescript from rfl, ways]
      decide)
  have twice : ¬ (files.map (·.path)).Nodup := by
    rw [nodup_paths_iff started placed laid, show (new .typescript).target = .typescript from rfl,
      ways]
    decide
  refine ⟨r, g', t₁, files, u, made, placed, started, laid, twice, run, ?_⟩
  obtain ⟨x, same, target, -, -⟩ := exists_files_of_start started
  rw [same] at laid
  obtain ⟨messages, manager, there, registers⟩ := OutputContext.mem_files laid
  obtain ⟨file, mem, message⟩ := messages m hm
  refine exists_lost mem there ?_ (OutputContext.content_ne_of_typescript target message hm
    (given m hm).2.1 free registers) u
  obtain ⟨imports, -, rfl⟩ := OutputContext.exists_of_managerFile registers
  have target : x.target = .typescript := target
  rw [← OutputContext.eq_path_of_messageFile (placed m hm) message, OutputContext.child_manager,
    target, ← way, ← target]
  rfl

end Generator

end PacketSmith
