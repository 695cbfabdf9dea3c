import PacketSmith.Proofs.GeneratedPaths
import PacketSmith.Proofs.GeneratorStart

/-!
# The tree that a generator leaves

A generator that has emptied its root leaves exactly the files of a registry there, and changes
nothing outside of it.

* Once a generator is started, nothing is below its root but directories that the path of the output
  directory passes (`below_of_start`).
* Files of a registry have a dot in their names and directories have none, so nothing is in the way
  of the files, unless one of them has the place of a directory that the path passes
  (`clear_of_start`).
* The last file that is written to a path is there in the end (`content?_of_writeFiles`).
-/

namespace PacketSmith

open FileTree

/-! ### Paths below a root -/

namespace FilePath

/-- The path is not too long for a file system, and none of its names is. -/
structure Fits (p : FilePath) : Prop where
  /-- The whole path is not too long. -/
  path : p.text.utf8ByteSize ≤ pathLimit
  /-- No name is too long. -/
  names : ∀ s ∈ p.segments, IsShort s

instance (p : FilePath) : Decidable p.Fits :=
  decidable_of_iff (p.text.utf8ByteSize ≤ pathLimit ∧ ∀ s ∈ p.segments, IsShort s)
    ⟨fun h => ⟨h.1, h.2⟩, fun h => ⟨h.path, h.names⟩⟩

/-- The text of a path has the characters of its segments, slashes and dots. -/
theorem mem_text_iff {c : Char} (slash : c ≠ '/') (dot : c ≠ '.') (p : FilePath) :
    c ∈ p.text.toList ↔ ∃ s ∈ p.segments, c ∈ s.toList := by
  obtain ⟨start, segments⟩ := p
  cases start with
  | here =>
    show c ∈ (if segments.isEmpty then "." else Path.joined segments).toList ↔ _
    cases segments with
    | nil => simp [dot]
    | cons s rest => exact Path.mem_joined_iff slash _
  | root =>
    rw [text, String.toList_append, List.mem_append, Path.mem_joined_iff slash]
    simp [slash]
  | doubleRoot =>
    rw [text, String.toList_append, List.mem_append, Path.mem_joined_iff slash]
    simp [slash]

end FilePath

namespace FileTree

/-- The way along two lists of segments passes the places of both. -/
theorem passes_append_iff {l k : Location} {a b : List String} :
    Passes l (a ++ b) k ↔ Passes l a k ∨ Passes (along l a) b k := by
  constructor
  · rintro ⟨q, before, rfl⟩
    rcases List.prefix_or_prefix_of_prefix before (List.prefix_append a b) with front | ⟨rest, rfl⟩
    · exact .inl ⟨q, front, rfl⟩
    · exact .inr ⟨rest, (List.prefix_append_right_inj a).mp before, along_append _ _ _⟩
  · rintro (⟨q, before, rfl⟩ | ⟨q, before, rfl⟩)
    · exact ⟨q, before.trans (List.prefix_append _ _), rfl⟩
    · exact ⟨a ++ q, (List.prefix_append_right_inj a).mpr before, (along_append _ _ _).symm⟩

/-- Paths below another one lead to places below its place. -/
theorem placeOf_below (t : FileTree) (p : FilePath) {down : List String} (h : ".." ∉ down) :
    t.placeOf (p.below down) = t.placeOf p ++ down := by
  unfold placeOf
  show along (t.startOf p) (p.segments ++ down) = _
  rw [along_append, along_of_down h]

/-- The way down passes places below. -/
theorem Passes.exists_of_down {l k : Location} {down : List String} (h : ".." ∉ down)
    (passes : Passes l down k) : ∃ q, q <+: down ∧ k = l ++ q := by
  obtain ⟨q, before, rfl⟩ := passes
  exact ⟨q, before, along_of_down (fun mem => h (before.subset mem)) l⟩

/-- The way to a path below another one passes the places of the other's way, and then places below
it. -/
theorem Passes.of_below {l k : Location} {p : FilePath} {down : List String} (h : ".." ∉ down)
    (passes : Passes l (p.below down).segments k) :
    Passes l p.segments k ∨ along l p.segments <+: k := by
  rcases passes_append_iff.mp passes with above | inside
  · exact .inl above
  · obtain ⟨q, -, rfl⟩ := inside.exists_of_down h
    exact .inr (List.prefix_append _ _)

end FileTree

namespace Generator

variable {t t₁ : FileTree} {g g' : Generator} {directory : String} {r : Registry}

/-! ### The files of a started generator -/

/-- The files of a generator that is started are those of its context, below its root. -/
theorem exists_files_of_start {clean : Bool}
    (started : (g.start directory clean).run t = (.ok g', t₁)) :
    ∃ x : OutputContext, (∀ r, g'.files r = x.files r) ∧ x.target = g.target ∧
      x.root = rootIn g.target directory ∧ prepare x.target = .ok x.coder := by
  obtain ⟨x, context, target, prepared, root⟩ := exists_context started
  refine ⟨x, fun r => ?_, target, target ▸ root, prepared⟩
  rw [files, getContext, context]
  rfl

/-- A generator that is started lays out the files if all dependencies can be told. -/
theorem exists_files_of_dependencies {clean : Bool}
    (started : (g.start directory clean).run t = (.ok g', t₁)) (built : r.IsBuilt)
    (given : ∀ m ∈ r.messages, m.id ≠ .null ∧ m.name ≠ none ∧ m.module ≠ none)
    {found : List (List MessageId)}
    (told : r.messages.mapM (fun m => r.dependencies m.id) = .ok found) :
    ∃ files, g'.files r = .ok files := by
  obtain ⟨x, same, -, -, prepared⟩ := exists_files_of_start started
  rw [same]
  exact OutputContext.exists_files_of_dependencies built (fun m hm => (given m hm).2.2) prepared
    (fun m hm => (given m hm).1) (fun m hm => (given m hm).2.1) told

section Laid

variable {clean : Bool} (started : (g.start directory clean).run t = (.ok g', t₁))
  (placed : ∀ m ∈ r.messages, m.IsPlaced) {files : List OutputFile}
  (laid : g'.files r = .ok files)

include started

/-- The working directory stays when a generator is started. -/
theorem here_of_start : t₁.here = t.here := by
  have grown := g.grows_start directory clean t
  rw [started] at grown
  exact grown.here.trans emptied_here

include placed laid

/-- The files of a generator that is started are at the ways of the registry below the root. -/
theorem paths_of_start :
    files.map (·.path) = (r.ways g.target).map (rootIn g.target directory).below := by
  obtain ⟨x, same, target, root, -⟩ := exists_files_of_start started
  rw [same] at laid
  rw [OutputContext.paths_of_files placed laid, target, root]

/-- What holds of all ways below the root holds of the paths of the files. -/
theorem forall_path_of_start {P : FilePath → Prop}
    (h : ∀ way ∈ r.ways g.target, P ((rootIn g.target directory).below way)) :
    ∀ f ∈ files, P f.path := by
  rw [← List.forall_mem_map, paths_of_start started placed laid, List.forall_mem_map]
  exact h

variable {f : OutputFile} (mem : f ∈ files)

include mem

/-- Every file of a generator that is started is at a way of the registry below the root. -/
theorem exists_way_of_start :
    ∃ down ∈ r.ways g.target, f.path = (rootIn g.target directory).below down ∧
      t.placeOf f.path = t.placeOf (rootIn g.target directory) ++ down := by
  have path := List.mem_map_of_mem (f := OutputFile.path) mem
  rw [paths_of_start started placed laid] at path
  obtain ⟨down, isWay, same⟩ := List.mem_map.mp path
  refine ⟨down, isWay, same.symm, ?_⟩
  rw [← same, placeOf_below _ _ (Registry.isFileWay_of_mem placed isWay).dots]

/-- The path of a file starts where that of the root does. -/
theorem startOf_path_of_start :
    t₁.startOf f.path = t.startOf (rootIn g.target directory) := by
  obtain ⟨down, -, path, -⟩ := exists_way_of_start started placed laid mem
  rw [startOf_eq, here_of_start started, path]
  rfl

/-- The way to the directory of a file leads to the root, and then through names without a dot. -/
theorem passes_parent_of_start {k : Location}
    (passes : Passes (t₁.startOf f.path) f.path.parent.segments k) :
    Passes (t.startOf (rootIn g.target directory)) (rootIn g.target directory).segments k ∨
      ∃ q, k = t.placeOf (rootIn g.target directory) ++ q ∧ ∀ s ∈ q, '.' ∉ s.toList := by
  obtain ⟨down, isWay, path, -⟩ := exists_way_of_start started placed laid mem
  obtain ⟨directories, name, rfl, plain, -, -⟩ := Registry.isFileWay_of_mem placed isWay
  have parent : f.path.parent.segments = (rootIn g.target directory).segments ++ directories := by
    rw [path, FilePath.parent, FilePath.below, ← List.append_assoc, List.dropLast_concat]
  rw [startOf_path_of_start started placed laid mem, parent, passes_append_iff] at passes
  rcases passes with root | inside
  · exact .inl root
  · obtain ⟨q, before, rfl⟩ := inside.exists_of_down fun mem => (plain _ mem).1.dots rfl
    exact .inr ⟨q, rfl, fun s mem => (plain s (before.subset mem)).2⟩

/-- The path of a file can be given to a file system, if it is not too long. -/
theorem checkText_path_of_start (ready : t.StartsOutside (rootIn g.target directory))
    (whole : ∀ m ∈ r.messages, Char.ofNat 0 ∉ (m.module.getD "").toList) (fits : f.path.Fits) :
    FileAction.checkText f.path.text = .ok () := by
  obtain ⟨down, isWay, path, -⟩ := exists_way_of_start started placed laid mem
  have text := (opens_of_start ready started).1
  rw [FileAction.checkText_eq_ok_iff] at text ⊢
  refine ⟨?_, fits.path⟩
  rw [FilePath.mem_text_iff (by decide) (by decide), not_exists] at text ⊢
  rintro s ⟨inside, nul⟩
  rw [path] at inside
  rcases List.mem_append.mp inside with above | behind
  · exact text.1 s ⟨above, nul⟩
  · exact Registry.nul_not_mem_of_mem placed whole isWay behind nul

end Laid

/-- Files that are written below a root that can be followed to change nothing outside of it. -/
theorem keeps_writeFiles_below {root : FilePath} {files : List OutputFile}
    (below : ∀ f ∈ files, ∃ down, ".." ∉ down ∧ f.path = root.below down)
    (opens : t.Opens (t.startOf root) root.segments) :
    Keeps t ((writeFiles files).run t).2 fun k => t.placeOf root <+: k := by
  have kept := keeps_writeFiles files t
  refine ⟨kept.here, kept.closed, kept.directory, fun k out => ?_⟩
  by_cases passed : ∃ f ∈ files, Passes (t.startOf f.path) f.path.segments k
  · -- on the way to the root there are directories, which stay
    obtain ⟨f, mem, passes⟩ := passed
    obtain ⟨down, dots, path⟩ := below f mem
    rw [path] at passes
    rcases passes.of_below dots with ⟨q, before, rfl⟩ | inside
    · have directory := opens.directories q before
      exact (kept.directory _ directory).trans directory.symm
    · exact absurd inside out
  · exact kept.other k passed

/-- The directory of a path is seen along it if something stands there. -/
def Sees (t : FileTree) (p : FilePath) : Prop :=
  t.find? (t.placeOf p) ≠ none → FileAction.isDirectory p t = true

/-- The way of the one path passes the place of the other. -/
def Crosses (t : FileTree) (p q : FilePath) : Prop :=
  Passes (t.startOf p) p.segments (t.placeOf q)

section Afresh

variable (ready : t.StartsOutside (rootIn g.target directory))
  (started : (g.start directory true).run t = (.ok g', t₁))
  (seen : Sees t (rootIn g.target directory))

include ready started seen

/-- Nothing is below the root but directories that the path passes. -/
theorem below_of_start {k : Location} (below : t.placeOf (rootIn g.target directory) <+: k) :
    t₁.find? k = none ∨ t₁.find? k = some .directory ∧
      Passes (t.startOf (rootIn g.target directory)) (rootIn g.target directory).segments k := by
  have grown := g.grows_start directory true t
  rw [started] at grown
  rcases grown.grown k with same | ⟨-, directory, passes⟩
  · rw [same]
    exact .inl (find?_emptied_below (placeOf_rootIn_ne_nil _ _ _) ready.closed seen below)
  · exact .inr ⟨directory, passes⟩

/-- Nothing is in the way of the files of a registry, unless one of them has the place of a directory
that the path passes. -/
theorem clear_of_start (placed : ∀ m ∈ r.messages, m.IsPlaced)
    (whole : ∀ m ∈ r.messages, Char.ofNat 0 ∉ (m.module.getD "").toList)
    {files : List OutputFile} (laid : g'.files r = .ok files) (fits : ∀ f ∈ files, f.path.Fits)
    (apart : ∀ f ∈ files, ¬ Crosses t (rootIn g.target directory) f.path) :
    Clear t₁ files := by
  have opens := (opens_of_start ready started).2
  have below := fun k => below_of_start (k := k) ready started seen
  have here := here_of_start started
  have leads := fun f mem => exists_way_of_start (f := f) started placed laid mem
  refine ⟨?_, ?_, ?_, fun f mem => (fits f mem).names, ?_, ?_, ?_⟩
  · intro f mem
    rw [startOf_path_of_start started placed laid mem]
    exact opens.directories [] List.nil_prefix
  · intro f mem
    obtain ⟨down, isWay, path, -⟩ := leads f mem
    obtain ⟨directories, name, rfl, -, last, -⟩ := Registry.isFileWay_of_mem placed isWay
    refine ⟨(rootIn g.target directory).segments ++ directories, name, ?_, last.dots⟩
    rw [path, FilePath.below, List.append_assoc]
  · exact fun f mem => checkText_path_of_start started placed laid mem ready whole (fits f mem)
  · intro f mem k passes c
    rcases passes_parent_of_start started placed laid mem passes with ⟨q, before, rfl⟩ | ⟨q, rfl, -⟩
    · rw [opens.directories q before]
      simp
    · rcases below _ (List.prefix_append _ q) with none | ⟨directory, -⟩
      · simp [none]
      · simp [directory]
  · intro f mem
    obtain ⟨down, -, path, place⟩ := leads f mem
    rw [placeOf_congr here]
    rcases below _ (place ▸ List.prefix_append _ _) with none | ⟨-, passes⟩
    · simp [none]
    · exact absurd passes (apart f mem)
  · intro f mem other inside passes
    obtain ⟨down, isWay, path, place⟩ := leads f mem
    obtain ⟨directories, name, rfl, -, -, dot⟩ := Registry.isFileWay_of_mem placed isWay
    rw [placeOf_congr here] at passes
    rcases passes_parent_of_start started placed laid inside passes with root | ⟨q, same, plain⟩
    · exact apart f mem root
    · -- the name of a file has a dot, so it is none of the directories
      rw [place] at same
      obtain rfl := List.append_cancel_left same
      exact plain name (by simp) dot

end Afresh

/-! ### Output directories without two dots -/

section Down

variable (down : ".." ∉ (FilePath.ofText directory).segments)

include down

/-- The path of a root leads down if that of the output directory does. -/
theorem dots_not_mem_rootIn (target : Target) : ".." ∉ (rootIn target directory).segments := by
  rw [rootIn_eq, List.mem_append, not_or]
  exact ⟨down, fun mem => target.isSegment_rootDirectory.dots (List.mem_singleton.mp mem).symm⟩

/-- A path that leads down passes nothing below the root. -/
theorem eq_of_below_of_down (t : FileTree) (target : Target) {k : Location}
    (passes : Passes (t.startOf (rootIn target directory)) (rootIn target directory).segments k)
    (below : t.placeOf (rootIn target directory) <+: k) :
    k = t.placeOf (rootIn target directory) := by
  have root := dots_not_mem_rootIn down target
  obtain ⟨q, before, rfl⟩ := passes.exists_of_down root
  rw [placeOf, along_of_down root] at below ⊢
  exact ((List.prefix_append_right_inj _).mpr before).eq_of_length_le below.length_le

/-- A path that leads down passes no place below. -/
theorem not_crosses_of_down (t : FileTree) (target : Target) {p : FilePath} {way : List String}
    (some : way ≠ []) (place : t.placeOf p = t.placeOf (rootIn target directory) ++ way) :
    ¬ Crosses t (rootIn target directory) p := by
  have root := dots_not_mem_rootIn down target
  intro crosses
  obtain ⟨q, before, same⟩ := crosses.exists_of_down root
  rw [place, placeOf, along_of_down root, List.append_assoc] at same
  have length := before.length_le
  rw [← List.append_cancel_left same, List.length_append] at length
  exact some (List.eq_nil_of_length_eq_zero (by omega))

/-- A path that leads down passes no place of a file. -/
theorem not_crosses_of_start {clean : Bool}
    (started : (g.start directory clean).run t = (.ok g', t₁))
    (placed : ∀ m ∈ r.messages, m.IsPlaced) {files : List OutputFile}
    (laid : g'.files r = .ok files) {f : OutputFile} (mem : f ∈ files) :
    ¬ Crosses t (rootIn g.target directory) f.path := by
  obtain ⟨way, isWay, -, place⟩ := exists_way_of_start started placed laid mem
  obtain ⟨directories, name, rfl, -⟩ := Registry.isFileWay_of_mem placed isWay
  exact not_crosses_of_down down t g.target (by simp) place

/-- A path that leads down sees its directory. -/
theorem sees_of_down (ready : t.StartsOutside (rootIn g.target directory))
    (started : (g.start directory true).run t = (.ok g', t₁)) :
    Sees t (rootIn g.target directory) := by
  have root := dots_not_mem_rootIn down g.target
  obtain ⟨text, opens⟩ := opens_of_start ready started
  have grown := g.grows_start directory true t
  rw [started] at grown
  intro there
  by_contra missing
  have same : emptied (rootIn g.target directory) true t = t := by
    rw [emptied, if_neg (by simpa using missing)]
  -- the root is a directory, because it still is one when the generator is started
  have isRoot : t.find? (t.placeOf (rootIn g.target directory)) = some .directory := by
    rw [same] at grown
    cases found : t.find? (t.placeOf (rootIn g.target directory)) with
    | none => exact absurd found there
    | some e =>
      cases e with
      | directory => rfl
      | file c => cases (grown.file_iff.mpr found).symm.trans opens.directory
  refine missing (FileAction.isDirectory_of_opens text ⟨fun q before => ?_, opens.short⟩)
  rw [placeOf, along_of_down root] at isRoot
  rw [along_of_down fun mem => root (before.subset mem)]
  by_cases last : q = (rootIn g.target directory).segments
  · rw [last, isRoot]
  · refine ready.closed.directory_of_prefix ((List.prefix_append_right_inj _).mpr before) ?_
      (by simp [isRoot])
    simpa using last

end Down

/-! ### The tree in the end -/

section Written

variable {clean : Bool} (ready : t.StartsOutside (rootIn g.target directory))
  (started : (g.start directory clean).run t = (.ok g', t₁))
  (placed : ∀ m ∈ r.messages, m.IsPlaced) {files : List OutputFile}
  (laid : g'.files r = .ok files)

include ready started placed laid

/-- Files that are written change nothing outside of the root, and the root can still be followed to.
-/
theorem keeps_generate : Keeps t₁ ((g'.generate r).run t₁).2
    fun k => t.placeOf (rootIn g.target directory) <+: k := by
  have here := here_of_start started
  have opens : t₁.Opens (t₁.startOf (rootIn g.target directory))
      (rootIn g.target directory).segments := by
    rw [startOf_eq, here]
    exact (opens_of_start ready started).2
  rw [run_generate laid, ← placeOf_congr here]
  refine keeps_writeFiles_below (fun f mem => ?_) opens
  obtain ⟨down, isWay, path, -⟩ := exists_way_of_start started placed laid mem
  exact ⟨down, (Registry.isFileWay_of_mem placed isWay).dots, path⟩

omit ready

/-- Files are told apart by their paths as by their places. -/
theorem lastAt_of_start (down : List String) :
    lastAt t₁ files (t.placeOf (rootIn g.target directory) ++ down) =
      files.reverse.find? (·.path == (rootIn g.target directory).below down) := by
  have alike : ∀ f ∈ files.reverse,
      (t₁.placeOf f.path == t.placeOf (rootIn g.target directory) ++ down) =
        (f.path == (rootIn g.target directory).below down) := by
    intro f mem
    obtain ⟨own, -, path, place⟩ :=
      exists_way_of_start started placed laid (List.mem_reverse.mp mem)
    rw [placeOf_congr (here_of_start started), place, path, Bool.eq_iff_iff, beq_iff_eq, beq_iff_eq,
      List.append_cancel_left_eq, FilePath.below, FilePath.below, FilePath.mk.injEq,
      List.append_cancel_left_eq]
    simp
  exact List.find?_congr alike

include ready

/-- A generator fails if one of its files has the place of a directory that the path passes. -/
theorem exists_generate_eq_error {f : OutputFile} (mem : f ∈ files)
    (passes : Crosses t (rootIn g.target directory) f.path) :
    ∃ e u, (g'.generate r).run t₁ = (.error e, u) := by
  obtain ⟨-, opens⟩ := opens_of_start ready started
  have kept := keeps_generate ready started placed laid
  obtain ⟨q, before, place⟩ := passes
  cases run : (g'.generate r).run t₁ with
  | mk result u =>
    cases result with
    | error e => exact ⟨e, u, rfl⟩
    | ok paths =>
      have directory : u.find? (t.placeOf f.path) = some .directory := by
        rw [run] at kept
        rw [place]
        exact kept.directory _ (opens.directories q before)
      rw [run_generate laid] at run
      have content := (content?_of_writeFiles run).2 (t.placeOf f.path)
      obtain ⟨last, found⟩ : ∃ last, lastAt t₁ files (t.placeOf f.path) = some last := by
        rw [← placeOf_congr (here_of_start started)]
        exact exists_lastAt mem t₁
      rw [found, content?, directory] at content
      cases content

/-- The root can be followed to when files have been written. -/
theorem isDirectory_of_generate {result : Except Fault (List FilePath)} {u : FileTree}
    (run : (g'.generate r).run t₁ = (result, u)) :
    FileAction.isDirectory (rootIn g.target directory) u = true := by
  obtain ⟨text, opens⟩ := opens_of_start ready started
  have kept := keeps_generate ready started placed laid
  rw [run] at kept
  refine FileAction.isDirectory_of_opens text ?_
  rw [startOf_eq, kept.here, here_of_start started]
  exact kept.opens opens

/-- Outside of the root the tree is as it was when the generator was started, and all files are as
they were before that. -/
theorem find?_of_generate {k : Location}
    (out : ¬ t.placeOf (rootIn g.target directory) <+: k) :
    ((g'.generate r).run t₁).2.find? k = t₁.find? k ∧
      ((g'.generate r).run t₁).2.content? k = t.content? k := by
  have same := (keeps_generate ready started placed laid).other k out
  have grown := g.grows_start directory clean t
  rw [started] at grown
  have before : t₁.content? k = t.content? k := by
    rw [grown.content?_eq, content?, find?_emptied (placeOf_rootIn_ne_nil _ _ _) out, ← content?]
  refine ⟨same, ?_⟩
  rw [← before, content?, same, ← content?]

omit ready placed laid

/-- A file that is not written stays, unless the root is emptied. -/
theorem find?_of_generate_of_keep
    (keep : emptied (rootIn g.target directory) clean t = t) {paths : List FilePath} {u : FileTree}
    (run : (g'.generate r).run t₁ = (.ok paths, u)) {k : Location} {c : ByteArray}
    (there : t.find? k = some (.file c)) (other : ∀ p ∈ paths, t.placeOf p ≠ k) :
    u.find? k = some (.file c) := by
  have grown := g.grows_start directory clean t
  rw [started, keep] at grown
  cases laid : g'.files r with
  | error e => cases run.symm.trans (run_generate_of_error laid t₁)
  | ok files =>
    rw [run_generate laid] at run
    obtain ⟨rfl, contents⟩ := content?_of_writeFiles run
    have free : lastAt t₁ files k = none := by
      rw [Option.eq_none_iff_forall_not_mem]
      intro f last
      obtain ⟨mem, place⟩ := of_lastAt last
      rw [placeOf_congr (here_of_start started)] at place
      exact other f.path (List.mem_map_of_mem mem) place
    have same : t₁.content? k = some c :=
      (grown.content?_eq k).trans (content?_eq_some_iff.mpr there)
    rw [← content?_eq_some_iff, contents, free, same]
    rfl

end Written

section Afresh

variable (ready : t.StartsOutside (rootIn g.target directory))
  (started : (g.start directory true).run t = (.ok g', t₁))
  (seen : Sees t (rootIn g.target directory)) (placed : ∀ m ∈ r.messages, m.IsPlaced)
  {files : List OutputFile} (laid : g'.files r = .ok files)

include ready started seen placed laid

/-- A generator that is started afresh writes its files, unless one of them has the place of a
directory that the path passes. -/
theorem exists_generate
    (whole : ∀ m ∈ r.messages, Char.ofNat 0 ∉ (m.module.getD "").toList)
    (fits : ∀ f ∈ files, f.path.Fits)
    (apart : ∀ f ∈ files, ¬ Crosses t (rootIn g.target directory) f.path) :
    ∃ u, (g'.generate r).run t₁ = (.ok (files.map (·.path)), u) := by
  have grown := g.grows_start directory true t
  rw [started] at grown
  have clear := clear_of_start ready started seen placed whole laid fits apart
  rw [run_generate laid]
  exact exists_writeFiles
    (grown.closed (isClosed_emptied (placeOf_rootIn_ne_nil _ _ _) ready.closed)) clear

omit seen

/-- A generator that is started afresh writes its files if the path of the output directory has no
two dots. -/
theorem exists_generate_of_down (down : ".." ∉ (FilePath.ofText directory).segments)
    (whole : ∀ m ∈ r.messages, Char.ofNat 0 ∉ (m.module.getD "").toList)
    (fits : ∀ f ∈ files, f.path.Fits) :
    ∃ u, (g'.generate r).run t₁ = (.ok (files.map (·.path)), u) := by
  refine exists_generate ready started (sees_of_down down ready started) placed laid whole fits ?_
  intro f mem
  exact not_crosses_of_start down started placed laid mem

include seen

/-- In the root of a generator that was started afresh are the files that were written last to their
paths. -/
theorem content?_of_generate {paths : List FilePath} {u : FileTree}
    (run : (g'.generate r).run t₁ = (.ok paths, u)) (down : List String) :
    u.content? (t.placeOf (rootIn g.target directory) ++ down) =
      (files.reverse.find? (·.path == (rootIn g.target directory).below down)).map (·.bytes) := by
  have below := below_of_start ready started seen (List.prefix_append _ down)
  have none : t₁.content? (t.placeOf (rootIn g.target directory) ++ down) = none := by
    unfold content?
    rcases below with none | ⟨directory, -⟩
    · rw [none]
    · rw [directory]
  rw [run_generate laid] at run
  rw [(content?_of_writeFiles run).2, lastAt_of_start started placed laid, none, Option.or_none]

end Afresh

namespace Sample

/-- A tree with a file of an earlier run in the root of C++. -/
def stale : FileTree where
  entries := [(["out"], .directory), (["out", "cppProtocol"], .directory),
    (["out", "cppProtocol", "Old.h"], .file .empty)]
  here := []

theorem isClosed_stale : stale.IsClosed := by
  refine isClosed_of_forall ?_
  simp only [stale, List.forall_mem_cons]
  exact ⟨rfl, rfl, rfl, by simp⟩

theorem startsOutside_start (target : Target) (directory : String) :
    (FileTree.start []).StartsOutside (rootIn target directory) := by
  have top : (FileTree.start []).startOf (rootIn target directory) = [] := by
    unfold startOf
    split <;> rfl
  refine ⟨isClosed_of_forall (by simp [FileTree.start]), by rw [top]; rfl, ?_⟩
  rw [top, List.prefix_nil]
  exact placeOf_rootIn_ne_nil _ _ _

theorem startsOutside_stale : stale.StartsOutside (rootIn .cpp "out") :=
  ⟨isClosed_stale, rfl, by decide⟩

/-- The generator of C++ starts there. -/
theorem exists_start_stale :
    ∃ g' t₁, ((new .cpp).start "out" true).run stale = (.ok g', t₁) :=
  exists_start_of_isDirectory startsOutside_stale (by decide)
    fun _ passes => eq_of_below_of_down (by decide) stale .cpp passes

/-- The files of the sample can be laid out, and go to five places in C++. -/
theorem exists_files : ∃ r, Registry.ofDefinition OutputContext.Sample.modules = .ok r ∧
    (∀ m ∈ r.messages, m.IsPlaced) ∧
    (∀ m ∈ r.messages, Char.ofNat 0 ∉ (m.module.getD "").toList) ∧
    r.ways .cpp = [["Game", "User", "Login.h"], ["Game", "Store", "Bag.h"], ["Owner.h"],
      ["ProtocolManager.h"], ["ByteBuffer.h"]] ∧
    ∀ {g g' : Generator} {directory : String} {clean : Bool} {t t₁ : FileTree},
      (g.start directory clean).run t = (.ok g', t₁) → ∃ files, g'.files r = .ok files := by
  have facts : ∀ r, Registry.ofDefinition OutputContext.Sample.modules = .ok r →
      (∀ m ∈ r.messages, m.IsPlaced) ∧
      (∀ m ∈ r.messages, Char.ofNat 0 ∉ (m.module.getD "").toList) ∧
      (∀ m ∈ r.messages, m.id ≠ .null ∧ m.name ≠ none ∧ m.module ≠ none) ∧
      r.ways .cpp = [["Game", "User", "Login.h"], ["Game", "Store", "Bag.h"], ["Owner.h"],
        ["ProtocolManager.h"], ["ByteBuffer.h"]] ∧
      ∃ found, r.messages.mapM (fun m => r.dependencies m.id) = .ok found := by
    intro r made
    obtain rfl := Except.ok.inj (made.symm.trans (by cbv))
    exact ⟨by decide, by decide, by decide, by decide, _, by cbv⟩
  obtain ⟨r, made⟩ : ∃ r, Registry.ofDefinition OutputContext.Sample.modules = .ok r :=
    ⟨_, by cbv⟩
  obtain ⟨placed, whole, given, ways, found, told⟩ := facts r made
  refine ⟨r, made, placed, whole, ways, fun started => ?_⟩
  exact exists_files_of_dependencies started (Registry.isBuilt_of_ofDefinition made) given told

end Sample

end Generator

end PacketSmith
