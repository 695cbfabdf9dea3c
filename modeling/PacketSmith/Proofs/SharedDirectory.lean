import PacketSmith.Proofs.GeneratedTree
import PacketSmith.Session

/-!
# Roots that share an output directory

Generators of different targets have their roots in one output directory. What one of them does to the
tree is of two kinds (`tends_call`): either its root can be followed to before and afterwards, and
nothing changes but below it, or directories are made on the way to it, and nothing else changes.

The only places that matter to two generators are those that the path of the output directory passes
(`Concerns`). If one generator makes such a directory, it was missing, so nothing can have been in the
root of the other one, and the other one starts as if the directory was still missing
(`vacant_of_grows`, `call_of_vacant`). So what the one does makes no difference to the other
(`Indifferent.of_tends`, `Indifferent.call`). Only if a name in the path is too long, it may be told
about another part of the path, as more or fewer directories have been made there (`SameResult`).

That needs a path that can be followed anew at any time (`Steady`). A directory that the path leaves
again by two dots is made by the first generator that starts. So it has to be there before, or the
path leads to the output directory for the second generator only. And no directory on the way may be
below a root, where it is removed with the root.
-/

namespace PacketSmith

open FileTree Generator

/-! ### Paths that leave directories again -/

namespace FileTree

variable {t u : FileTree} {k l : Location}

/-- The way from below a place ends below it, or it leaves the place by two dots. -/
theorem prefix_along_or_leaves (h : k <+: l) (segments : List String) :
    k <+: along l segments ∨ ∃ q, q ++ [".."] <+: segments ∧ along l q = k := by
  induction segments generalizing l with
  | nil => exact .inl h
  | cons s segments ih =>
    have further : k <+: next l s →
        k <+: along l (s :: segments) ∨ ∃ q, q ++ [".."] <+: s :: segments ∧ along l q = k := by
      intro below
      rcases ih below with inside | ⟨q, leaves, place⟩
      · exact .inl inside
      · exact .inr ⟨s :: q, (List.prefix_cons_inj s).mpr leaves, place⟩
    by_cases up : s = ".."
    · by_cases here : k = l
      · exact .inr ⟨[], by simp [up], here.symm⟩
      · refine further ?_
        rw [next, if_pos up]
        exact List.prefix_of_prefix_length_le h (List.dropLast_prefix l) (by
          have shorter := h.length_le
          have other : k.length ≠ l.length := fun same => here (h.eq_of_length same)
          rw [List.length_dropLast]
          omega)
    · refine further ?_
      rw [next, if_neg up]
      exact h.trans (List.prefix_append _ _)

/-- The path of an output directory can be followed anew at any time, while roots in there come and
go. -/
structure Steady (t : FileTree) (directory : String) : Prop where
  /-- Everything is in a directory. -/
  closed : t.IsClosed
  /-- The path starts at a directory. -/
  begun : t.find? (t.startOf (.ofText directory)) = some .directory
  /-- The directories that the path leaves again are there. -/
  left : ∀ q, q ++ [".."] <+: (FilePath.ofText directory).segments →
    t.find? (along (t.startOf (.ofText directory)) q) = some .directory
  /-- The path does not start in a root. -/
  outside : ∀ target : Target,
    ¬ t.placeOf (rootIn target directory) <+: t.startOf (.ofText directory)
  /-- The path passes nothing below a root. -/
  last : ∀ (target : Target) (k : Location),
    Passes (t.startOf (.ofText directory)) (FilePath.ofText directory).segments k →
    t.placeOf (rootIn target directory) <+: k → k = t.placeOf (rootIn target directory)

namespace Steady

variable {directory : String}

/-- A path without two dots is steady in a closed tree if it starts at a directory. -/
theorem of_down (closed : t.IsClosed)
    (begun : t.find? (t.startOf (.ofText directory)) = some .directory)
    (down : ".." ∉ (FilePath.ofText directory).segments) : t.Steady directory := by
  -- the root is longer than all places on the way
  have above : ∀ (target : Target) k,
      Passes (t.startOf (.ofText directory)) (FilePath.ofText directory).segments k →
      ¬ t.placeOf (rootIn target directory) <+: k := by
    rintro target k ⟨q, before, rfl⟩ below
    have longer := below.length_le
    have shorter := before.length_le
    rw [placeOf_rootIn, placeOf, along_of_down down,
      along_of_down fun up => down (before.subset up)] at longer
    simp only [List.length_append, List.length_singleton] at longer
    omega
  refine ⟨closed, begun, fun q leaves => ?_, fun target => ?_, fun target k passes below => ?_⟩
  · exact absurd (leaves.subset (by simp)) down
  · exact above target _ ⟨[], List.nil_prefix, rfl⟩
  · exact absurd below (above target k passes)

/-- The path stays steady while the directories on its way stay. -/
theorem of_directories (steady : t.Steady directory) (here : u.here = t.here)
    (closed : u.IsClosed)
    (stay : ∀ q, Passes (t.startOf (.ofText directory)) (FilePath.ofText directory).segments q →
      t.find? q = some .directory → u.find? q = some .directory) : u.Steady directory := by
  have start : u.startOf (.ofText directory) = t.startOf (.ofText directory) := by
    rw [startOf_eq, here, ← startOf_eq]
  refine ⟨closed, ?_, ?_, ?_, ?_⟩
  · rw [start]
    exact stay _ ⟨[], List.nil_prefix, rfl⟩ steady.begun
  · intro q leaves
    rw [start]
    exact stay _ ⟨q, (List.prefix_append _ _).trans leaves, rfl⟩ (steady.left q leaves)
  · intro target
    rw [start, placeOf_congr here]
    exact steady.outside target
  · intro target
    rw [start, placeOf_congr here]
    exact steady.last target

/-- The path passes places above the output directory, and directories. -/
theorem prefix_or_directory (steady : t.Steady directory)
    (passes : Passes (t.startOf (.ofText directory)) (FilePath.ofText directory).segments k) :
    k <+: t.placeOf (.ofText directory) ∨ t.find? k = some .directory := by
  obtain ⟨q, ⟨rest, split⟩, rfl⟩ := passes
  rcases prefix_along_or_leaves (List.prefix_refl (along (t.startOf (.ofText directory)) q)) rest
    with inside | ⟨more, leaves, place⟩
  · rw [← along_append, split] at inside
    exact .inl inside
  · have there := steady.left (q ++ more) (by
      rw [← split, List.append_assoc]
      exact (List.prefix_append_right_inj q).mpr leaves)
    rw [along_append, place] at there
    exact .inr there

end Steady

end FileTree

/-! ### Two roots -/

namespace Generator

variable {t u : FileTree} {directory : String} {target other : Target} {q : Location}

theorem startOf_rootIn (t : FileTree) (target : Target) (directory : String) :
    t.startOf (rootIn target directory) = t.startOf (.ofText directory) := by
  rw [rootIn_eq]
  rfl

theorem segments_rootIn (target : Target) (directory : String) :
    (rootIn target directory).segments =
      (FilePath.ofText directory).segments ++ [target.rootDirectory] := by
  rw [rootIn_eq]

/-- The path of a root starts outside of it if that of the output directory is steady. -/
theorem startsOutside_of_steady (steady : t.Steady directory) (target : Target) :
    t.StartsOutside (rootIn target directory) :=
  ⟨steady.closed, by rw [startOf_rootIn, steady.begun],
    by rw [startOf_rootIn]; exact steady.outside target⟩

/-- The way to a root passes the way to the output directory, and then the root. -/
theorem passes_rootIn_iff :
    Passes (t.startOf (rootIn target directory)) (rootIn target directory).segments q ↔
      Passes (t.startOf (.ofText directory)) (FilePath.ofText directory).segments q ∨
      q = t.placeOf (rootIn target directory) := by
  rw [startOf_rootIn, segments_rootIn]
  constructor
  · rintro ⟨a, before, rfl⟩
    rcases List.prefix_concat_iff.mp before with rfl | front
    · rw [← segments_rootIn, ← startOf_rootIn t target]
      exact .inr rfl
    · exact .inl ⟨a, front, rfl⟩
  · rintro (passes | rfl)
    · exact passes.of_prefix (List.prefix_append _ _)
    · rw [placeOf, startOf_rootIn, segments_rootIn]
      exact passes_along _ _

/-- A root below another one is the same. -/
theorem placeOf_rootIn_eq_of_below
    (h : t.placeOf (rootIn other directory) <+: t.placeOf (rootIn target directory)) :
    t.placeOf (rootIn other directory) = t.placeOf (rootIn target directory) := by
  refine h.eq_of_length ?_
  rw [placeOf_rootIn, placeOf_rootIn, List.length_append, List.length_append]
  rfl

/-- Targets have different roots. -/
theorem placeOf_rootIn_ne (apart : target ≠ other) :
    t.placeOf (rootIn target directory) ≠ t.placeOf (rootIn other directory) := by
  rw [placeOf_rootIn, placeOf_rootIn]
  intro same
  have name := List.append_cancel_left same
  revert apart name
  cases target <;> cases other <;> decide

/-- Nothing is in the roots of two targets. -/
theorem not_prefix_of_ne (apart : target ≠ other)
    (below : t.placeOf (rootIn target directory) <+: q) :
    ¬ t.placeOf (rootIn other directory) <+: q := by
  intro inside
  rcases List.prefix_or_prefix_of_prefix below inside with h | h
  · exact placeOf_rootIn_ne apart (placeOf_rootIn_eq_of_below h)
  · exact placeOf_rootIn_ne apart (placeOf_rootIn_eq_of_below h).symm

/-- A generator depends on the way to the output directory and on what is in its root. -/
def Concerns (here : Location) (target : Target) (directory : String) (q : Location) : Prop :=
  Passes (beginning here (.ofText directory)) (FilePath.ofText directory).segments q ∨
  along (beginning here (rootIn target directory)) (rootIn target directory).segments <+: q

/-- The way to the root is a concern. -/
theorem concerns_of_passes
    (passes : Passes (t.startOf (rootIn target directory)) (rootIn target directory).segments q) :
    Concerns t.here target directory q := by
  rcases passes_rootIn_iff.mp passes with way | rfl
  · exact .inl way
  · exact .inr (List.prefix_refl _)

/-- The root can be followed to in both trees, and nothing is different but below it. -/
structure OnlyBelow (t u : FileTree) (root : FilePath) : Prop where
  /-- The working directory is the same. -/
  here : u.here = t.here
  /-- The tree stays closed. -/
  closed : t.IsClosed → u.IsClosed
  /-- The root can be followed to in the one tree. -/
  before : t.Opens (t.startOf root) root.segments
  /-- The root can be followed to in the other tree. -/
  after : u.Opens (t.startOf root) root.segments
  /-- Nothing is different outside of the root. -/
  other : ∀ q, ¬ t.placeOf root <+: q → u.find? q = t.find? q

namespace OnlyBelow

/-- Nothing is different on the way to the root. -/
theorem find?_of_passes {root : FilePath} (h : OnlyBelow t u root)
    (passes : Passes (t.startOf root) root.segments q) : u.find? q = t.find? q := by
  obtain ⟨a, before, rfl⟩ := passes
  rw [h.before.directories a before, h.after.directories a before]

variable (h : OnlyBelow t u (rootIn other directory))

include h

/-- Nothing is different on the way to the output directory. -/
theorem find?_of_way
    (passes : Passes (t.startOf (.ofText directory)) (FilePath.ofText directory).segments q) :
    u.find? q = t.find? q :=
  h.find?_of_passes (passes_rootIn_iff.mpr (.inl passes))

/-- Nothing is different that concerns another target. -/
theorem find?_of_concerns (apart : target ≠ other) (concerns : Concerns t.here target directory q) :
    u.find? q = t.find? q := by
  rcases concerns with passes | below
  · exact h.find?_of_way passes
  · exact h.other q (not_prefix_of_ne apart below)

/-- The roots of all targets can be followed to as before. -/
theorem opens
    (opens : t.Opens (t.startOf (rootIn target directory)) (rootIn target directory).segments) :
    u.Opens (t.startOf (rootIn target directory)) (rootIn target directory).segments := by
  refine ⟨fun a before => ?_, opens.short⟩
  have there := opens.directories a before
  rw [← there]
  rcases passes_rootIn_iff.mp ⟨a, before, rfl⟩ with passes | root
  · exact h.find?_of_way passes
  · rw [root]
    by_cases inside : t.placeOf (rootIn other directory) <+: t.placeOf (rootIn target directory)
    · rw [← placeOf_rootIn_eq_of_below inside]
      exact h.find?_of_passes (passes_along _ _)
    · exact h.other _ inside

theorem steady (steady : t.Steady directory) : u.Steady directory :=
  steady.of_directories h.here (h.closed steady.closed) fun _ passes there =>
    (h.find?_of_way passes).trans there

end OnlyBelow

/-- Nothing is at the root, and no file is on the way there. -/
structure Vacant (t : FileTree) (root : FilePath) : Prop where
  /-- Nothing is at the root. -/
  free : t.find? (t.placeOf root) = none
  /-- No file is on the way. -/
  clear : ∀ q, Passes (t.startOf root) root.segments q → ∀ c, t.find? q ≠ some (.file c)

namespace Vacant

/-- A root is as vacant as in a tree where all is the same that concerns its target. -/
theorem congr (h : Vacant t (rootIn target directory)) (here : u.here = t.here)
    (same : ∀ q, Concerns t.here target directory q → u.find? q = t.find? q) :
    Vacant u (rootIn target directory) := by
  refine ⟨?_, fun q passes => ?_⟩
  · rw [placeOf_congr here]
    exact (same _ (.inr (List.prefix_refl _))).trans h.free
  · rw [startOf_eq, here, ← startOf_eq] at passes
    rw [same q (concerns_of_passes passes)]
    exact h.clear q passes

/-- Nothing is in a root that is vacant. -/
theorem find?_below {root : FilePath} (h : Vacant t root) (closed : t.IsClosed)
    (below : t.placeOf root <+: q) : t.find? q = none :=
  closed.find?_eq_none_of_prefix below h.free

/-- The way to the output directory does not pass a root that is vacant. -/
theorem not_passes (steady : t.Steady directory) (h : Vacant t (rootIn target directory)) :
    ¬ Passes (t.startOf (.ofText directory)) (FilePath.ofText directory).segments
      (t.placeOf (rootIn target directory)) := by
  intro passes
  rcases steady.prefix_or_directory passes with above | there
  · have length := above.length_le
    rw [placeOf_rootIn, List.length_append, List.length_singleton] at length
    omega
  · cases h.free.symm.trans there

/-- A root stays vacant while directories are made elsewhere. -/
theorem grows {root : FilePath} {made : Location → Prop} (h : Vacant t root) (grown : Grows t u made)
    (elsewhere : ¬ made (t.placeOf root)) : Vacant u root := by
  refine ⟨?_, fun q passes c => ?_⟩
  · rw [placeOf_congr grown.here, grown.find?_eq elsewhere, h.free]
  · rw [grown.startOf] at passes
    rw [ne_eq, grown.file_iff]
    exact h.clear q passes c

end Vacant

/-- A root is vacant if a directory above the output directory is missing, and can be made. -/
theorem vacant_of_missing (steady : t.Steady directory) (closed : u.IsClosed)
    (above : q <+: t.placeOf (.ofText directory)) (missing : t.find? q = none)
    (made : u.find? q = some .directory)
    (kept : ∀ k c, t.find? k = some (.file c) → u.find? k = some (.file c)) (target : Target) :
    Vacant t (rootIn target directory) := by
  have free : t.find? (t.placeOf (rootIn target directory)) = none := by
    refine steady.closed.find?_eq_none_of_prefix (above.trans ?_) missing
    rw [placeOf_rootIn]
    exact List.prefix_append _ _
  refine ⟨free, fun k passes c file => ?_⟩
  rcases passes_rootIn_iff.mp passes with way | rfl
  · rcases steady.prefix_or_directory way with front | there
    · rcases List.prefix_or_prefix_of_prefix above front with below | before
      · cases file.symm.trans (steady.closed.find?_eq_none_of_prefix below missing)
      · -- what is above a directory is none of the files
        by_cases same : k = q
        · cases file.symm.trans (same ▸ missing)
        · cases (kept k c file).symm.trans
            (closed.directory_of_prefix before same (by simp [made]))
    · cases file.symm.trans there
  · cases file.symm.trans free

/-- A directory that is made on the way to one root, and concerns another one, was missing above the
output directory, so that the other root was vacant. -/
theorem vacant_of_grows (steady : t.Steady directory) (apart : target ≠ other)
    (grown : Grows t u
      (Passes (t.startOf (rootIn other directory)) (rootIn other directory).segments))
    (concerns : Concerns t.here target directory q) (changed : u.find? q ≠ t.find? q) :
    Passes (t.startOf (.ofText directory)) (FilePath.ofText directory).segments q ∧
    t.find? q = none ∧ Vacant t (rootIn target directory) := by
  obtain ⟨missing, made, passes⟩ := (grown.grown q).resolve_left changed
  have way : Passes (t.startOf (.ofText directory)) (FilePath.ofText directory).segments q := by
    rcases passes_rootIn_iff.mp passes with way | rfl
    · exact way
    · exact concerns.resolve_right fun below => not_prefix_of_ne apart below (List.prefix_refl _)
  have above : q <+: t.placeOf (.ofText directory) := by
    rcases steady.prefix_or_directory way with above | there
    · exact above
    · cases missing.symm.trans there
  exact ⟨way, missing, vacant_of_missing steady (grown.closed steady.closed) above missing made
    (fun _ _ => grown.file_iff.mpr) target⟩

/-! ### What one call does -/

section Run

variable (g : Generator) (t : FileTree)

theorem run_call_start (directory : String) (clean : Bool) :
    (g.call (.start directory clean)).run t =
      (((g.start directory clean).run t).1.map fun g' => (.done, g'),
        ((g.start directory clean).run t).2) :=
  FileAction.run_bind_pure _ _ t

theorem run_call_files (r : Registry) : (g.call (.files r)).run t =
    ((g.files r).map fun fs => (.files fs, g), t) :=
  FileAction.run_bind_pure _ _ t

theorem run_call_generate (r : Registry) : (g.call (.generate r)).run t =
    (((g.generate r).run t).1.map fun ps => (.paths ps, g), ((g.generate r).run t).2) :=
  FileAction.run_bind_pure _ _ t

end Run

/-- The generator behind a call: one that fails leaves it as it is. -/
def keep (g : Generator) : Except Fault (Reply × Generator) → Generator
  | .ok (_, g') => g'
  | .error _ => g

/-- The results are the same, or both say that a name is too long, and one in the path of the output
directory is: each of them says it about a part of that path. -/
def SameResult {α : Type} (directory : String) (a b : Except Fault α) : Prop :=
  a = b ∨ (∃ s ∈ (FilePath.ofText directory).segments, ¬ IsShort s) ∧
    ∃ p q, a = .error (.file .nameTooLong p) ∧ b = .error (.file .nameTooLong q)

theorem SameResult.map {α β : Type} {a b : Except Fault α} (h : SameResult directory a b)
    (f : α → β) : SameResult directory (a.map f) (b.map f) := by
  rcases h with rfl | ⟨long, p, q, rfl, rfl⟩
  · exact .inl rfl
  · exact .inr ⟨long, p, q, rfl, rfl⟩

theorem SameResult.keep {a b : Except Fault (Reply × Generator)} (h : SameResult directory a b)
    (g : Generator) : g.keep a = g.keep b := by
  rcases h with rfl | ⟨-, p, q, rfl, rfl⟩
  · rfl
  · rfl

/-- A generator keeps its target. -/
theorem target_keep (g : Generator) (c : Call) (t : FileTree) :
    (g.keep ((g.call c).run t).1).target = g.target := by
  cases c with
  | start directory clean =>
    obtain ⟨started, -, target, -, -, run⟩ := g.exists_started directory
    rw [run_call_start, run]
    cases ((remake (rootIn g.target directory) clean).run t).1 with
    | error e => rfl
    | ok _ => exact target
  | clear => rfl
  | files r =>
    rw [run_call_files]
    cases g.files r <;> rfl
  | generate r =>
    rw [run_call_generate]
    cases ((g.generate r).run t).1 <;> rfl

/-- The call starts with the output directory, or it is about messages whose names are names. -/
def Call.IsIn (directory : String) : Call → Prop
  | .start d _ => d = directory
  | .generate r => ∀ m ∈ r.messages, m.name.any TypeName.isName = true
  | _ => True

/-- A generator that has been started has its root in the output directory, and it can be followed
to. -/
def Holds (t : FileTree) (directory : String) (g : Generator) : Prop :=
  ∀ x, g.context = some x → x.root = rootIn g.target directory ∧
    t.Opens (t.startOf (rootIn g.target directory)) (rootIn g.target directory).segments

/-- What generators do to a tree: they change it below their root alone, or make directories on the
way there. -/
def Tends (t u : FileTree) (root : FilePath) : Prop :=
  OnlyBelow t u root ∨ Grows t u (Passes (t.startOf root) root.segments)

namespace Tends

theorem refl (t : FileTree) (root : FilePath) : Tends t t root := .inr (.refl _ _)

variable (h : Tends t u (rootIn other directory))

include h

theorem here : u.here = t.here := by
  rcases h with below | grown
  · exact below.here
  · exact grown.here

theorem steady (steady : t.Steady directory) : u.Steady directory := by
  rcases h with below | grown
  · exact below.steady steady
  · exact steady.of_directories grown.here (grown.closed steady.closed) fun _ _ => grown.directory

/-- The roots of all generators can be followed to as before. -/
theorem holds {g : Generator} (holds : Holds t directory g) : Holds u directory g := by
  intro x context
  obtain ⟨root, opens⟩ := holds x context
  rw [startOf_eq, h.here, ← startOf_eq]
  rcases h with below | grown
  · exact ⟨root, below.opens opens⟩
  · exact ⟨root, grown.opens opens⟩

end Tends

variable {g : Generator} {c : Call}

/-- A start makes the root anew where it was, or the tree grows on the way there. -/
theorem tends_start (steady : t.Steady directory) (g : Generator) (clean : Bool) :
    Tends t ((g.start directory clean).run t).2 (rootIn g.target directory) := by
  have grown := g.grows_start directory clean t
  by_cases emptied : (clean && FileAction.isDirectory (rootIn g.target directory) t) = true
  · have there := (Bool.and_eq_true_iff.mp emptied).2
    have ready := startsOutside_of_steady steady g.target
    have opens := (FileAction.opens_of_isDirectory ready.closed ready.begun there).2
    obtain ⟨g', u, started⟩ : ∃ g' u, (g.start directory clean).run t = (.ok g', u) :=
      exists_start_of_isDirectory ready there fun k passes below =>
        (passes_rootIn_iff.mp passes).elim (steady.last g.target k · below) id
    have some := placeOf_rootIn_ne_nil t g.target directory
    rw [started] at grown ⊢
    refine .inl ⟨grown.here.trans emptied_here, ?_, opens, (opens_of_start ready started).2, ?_⟩
    · exact fun closed => grown.closed (isClosed_emptied some closed)
    · intro q out
      rw [← find?_emptied some out]
      rcases grown.grown q with same | ⟨none, -, a, before, rfl⟩
      · exact same
      · rw [find?_emptied some out, opens.directories a before] at none
        cases none
  · rw [Generator.emptied, if_neg emptied] at grown
    exact .inr grown

/-- A generator without a context lays out nothing. -/
theorem files_of_context_eq_none (fresh : g.context = none) (r : Registry) :
    g.files r = .error (.notInitialized g.target.name) := by
  rw [Generator.files, getContext, fresh]
  rfl

/-- A generator that lays out files of messages whose names are names can follow the path of its
root, and the files are below it. -/
theorem below_of_files (holds : Holds t directory g) {r : Registry}
    (isIn : (Call.generate r).IsIn directory) {files : List OutputFile}
    (laid : g.files r = .ok files) :
    t.Opens (t.startOf (rootIn g.target directory)) (rootIn g.target directory).segments ∧
      ∀ f ∈ files, ∃ down, ".." ∉ down ∧ f.path = (rootIn g.target directory).below down := by
  cases context : g.context with
  | none =>
    rw [files_of_context_eq_none context] at laid
    cases laid
  | some x =>
    obtain ⟨root, opens⟩ := holds x context
    refine ⟨opens, fun f mem => ?_⟩
    rw [show g.files r = x.files r by rw [Generator.files, getContext, context]; rfl] at laid
    have placed : ∀ m ∈ r.messages, m.IsPlaced := fun m mem =>
      ⟨isIn m mem, Option.isSome_iff_ne_none.mpr (OutputContext.module_ne_none_of_files laid m mem)⟩
    have path := List.mem_map_of_mem (f := OutputFile.path) mem
    rw [OutputContext.paths_of_files placed laid] at path
    obtain ⟨down, isWay, same⟩ := List.mem_map.mp path
    exact ⟨down, (Registry.isFileWay_of_mem placed isWay).dots, root ▸ same.symm⟩

/-- Files are written below the root alone. -/
theorem tends_generate (holds : Holds t directory g) {r : Registry}
    (isIn : (Call.generate r).IsIn directory) :
    Tends t ((g.generate r).run t).2 (rootIn g.target directory) := by
  cases laid : g.files r with
  | error e =>
    rw [run_generate_of_error laid]
    exact .refl _ _
  | ok files =>
    obtain ⟨opens, below⟩ := below_of_files holds isIn laid
    have kept := keeps_writeFiles_below below opens
    rw [run_generate laid]
    exact .inl ⟨kept.here, kept.closed, opens, kept.opens opens, kept.other⟩

/-- A call changes the tree below the root alone, or makes directories on the way there. -/
theorem tends_call (steady : t.Steady directory) (holds : Holds t directory g)
    (isIn : c.IsIn directory) :
    Tends t ((g.call c).run t).2 (rootIn g.target directory) := by
  cases c with
  | start d clean =>
    obtain rfl : d = directory := isIn
    rw [run_call_start]
    exact tends_start steady g clean
  | clear => exact .refl _ _
  | files r =>
    rw [run_call_files]
    exact .refl _ _
  | generate r =>
    rw [run_call_generate]
    exact tends_generate holds isIn

/-- A generator that is started can follow the path of its root. -/
theorem holds_of_call (steady : t.Steady directory) (holds : Holds t directory g)
    (isIn : c.IsIn directory) :
    Holds ((g.call c).run t).2 directory (g.keep ((g.call c).run t).1) := by
  have tends := tends_call steady holds isIn
  have kept := tends.holds holds
  cases c with
  | start d clean =>
    obtain rfl : d = directory := isIn
    obtain ⟨started, x, target, context, root, run⟩ := g.exists_started d
    rw [run_call_start] at tends kept ⊢
    cases made : ((remake (rootIn g.target d) clean).run t).1 with
    | error e =>
      rw [run, made] at kept ⊢
      exact kept
    | ok _ =>
      have opens :=
        (opens_of_start (startsOutside_of_steady steady g.target) (by rw [run, made]; rfl)).2
      rw [run, made] at tends ⊢
      intro y same
      obtain rfl := Option.some.inj (context.symm.trans same)
      dsimp only [keep, Except.map] at tends ⊢
      rw [target, startOf_eq, tends.here, ← startOf_eq]
      exact ⟨root, opens⟩
  | clear => exact fun x context => by cases context
  | files r =>
    rw [run_call_files] at kept ⊢
    cases g.files r <;> exact kept
  | generate r =>
    rw [run_call_generate] at kept ⊢
    cases ((g.generate r).run t).1 <;> exact kept

/-! ### What a call depends on -/

/-- What writing files gives depends on what concerns the generator alone. -/
theorem alike_generate (holds : Holds t directory g) {r : Registry}
    (isIn : (Call.generate r).IsIn directory) :
    FileAction.Alike t.here (Concerns t.here g.target directory) (g.generate r) := by
  intro a b agree
  cases laid : g.files r with
  | error e =>
    rw [run_generate_of_error laid, run_generate_of_error laid]
    exact ⟨rfl, agree⟩
  | ok files =>
    obtain ⟨-, below⟩ := below_of_files holds isIn laid
    rw [run_generate laid, run_generate laid]
    refine alike_writeFiles (fun f mem k passes => ?_) a b agree
    obtain ⟨down, dots, path⟩ := below f mem
    rw [path] at passes
    rcases passes.of_below dots with way | inside
    · exact concerns_of_passes way
    · exact .inr inside

/-- What a call gives depends on what concerns the generator alone. -/
theorem alike_call (holds : Holds t directory g) (isIn : c.IsIn directory) :
    FileAction.Alike t.here (Concerns t.here g.target directory) (g.call c) := by
  cases c with
  | start d clean =>
    obtain rfl : d = directory := isIn
    exact (alike_start g clean fun k passes => concerns_of_passes passes).bind fun _ => .pure _
  | clear => exact .pure _
  | files r =>
    intro a b agree
    rw [run_call_files, run_call_files]
    exact ⟨rfl, agree⟩
  | generate r => exact (alike_generate holds isIn).bind fun _ => .pure _

/-- Generators that start where nothing is leave trees that agree. -/
theorem agree_of_vacant (steady : t.Steady directory) (steady' : u.Steady directory)
    (here : u.here = t.here)
    (free : Vacant t (rootIn g.target directory)) (free' : Vacant u (rootIn g.target directory))
    {clean : Bool} (same : emptied (rootIn g.target directory) clean t = t)
    (same' : emptied (rootIn g.target directory) clean u = u) {g₁ g₂ : Generator}
    {t₁ u₁ : FileTree} (started : (g.start directory clean).run t = (.ok g₁, t₁))
    (started' : (g.start directory clean).run u = (.ok g₂, u₁)) :
    Agree t.here (Concerns t.here g.target directory) t₁ u₁ := by
  have grown := g.grows_start directory clean t
  have grown' := g.grows_start directory clean u
  have opens := (opens_of_start (startsOutside_of_steady steady g.target) started).2
  have opens' := (opens_of_start (startsOutside_of_steady steady' g.target) started').2
  rw [started, same] at grown
  rw [started', same'] at grown'
  rw [startOf_eq, here, ← startOf_eq] at opens' grown'
  refine ⟨grown.here, grown'.here.trans here, fun q concerns => ?_⟩
  by_cases passes :
      Passes (t.startOf (rootIn g.target directory)) (rootIn g.target directory).segments q
  · obtain ⟨a, before, rfl⟩ := passes
    rw [opens.directories a before, opens'.directories a before]
  · have below : t.placeOf (rootIn g.target directory) <+: q :=
      concerns.resolve_left fun way => passes (passes_rootIn_iff.mpr (.inl way))
    rw [grown.find?_eq passes, grown'.find?_eq passes, free.find?_below steady.closed below,
      free'.find?_below steady'.closed (by rw [placeOf_congr here]; exact below)]

/-- A generator starts alike in all trees where nothing is at its root. The trees agree from then on, or
nothing is at its root still. -/
theorem starts_alike_of_vacant (steady : t.Steady directory) (steady' : u.Steady directory)
    (here : u.here = t.here) (free : Vacant t (rootIn g.target directory))
    (free' : Vacant u (rootIn g.target directory)) (clean : Bool) :
    SameResult directory ((g.start directory clean).run t).1 ((g.start directory clean).run u).1 ∧
    (Agree t.here (Concerns t.here g.target directory) ((g.start directory clean).run t).2
        ((g.start directory clean).run u).2 ∨
      (∃ f, ((g.start directory clean).run u).1 = .error f) ∧
      Vacant ((g.start directory clean).run t).2 (rootIn g.target directory) ∧
      Vacant ((g.start directory clean).run u).2 (rootIn g.target directory)) := by
  cases text : FileAction.checkText (rootIn g.target directory).text with
  | error f =>
    rw [start_of_checkText text, start_of_checkText text]
    exact ⟨.inl rfl, .inr ⟨⟨f, rfl⟩, free, free'⟩⟩
  | ok _ =>
    obtain ⟨same, starts⟩ := start_of_vacant steady.closed
      (by rw [startOf_rootIn]; exact steady.begun) text free.clear free.free clean
    obtain ⟨same', starts'⟩ := start_of_vacant steady'.closed
      (by rw [startOf_rootIn]; exact steady'.begun) text free'.clear free'.free clean
    rcases starts, starts' with ⟨⟨g₁, t₁, started⟩ | ⟨⟨s, mem, long⟩, a, t₁, fails, grown⟩,
      ⟨g₂, u₁, started'⟩ | ⟨⟨s', mem', long'⟩, b, u₁, fails', grown'⟩⟩
    · rw [started, started', eq_of_start started started']
      exact ⟨.inl rfl, .inl (agree_of_vacant steady steady' here free free' same same' started
        started')⟩
    · have opens := (opens_of_start (startsOutside_of_steady steady g.target) started).2
      exact absurd (opens.short s' mem') long'
    · have opens := (opens_of_start (startsOutside_of_steady steady' g.target) started').2
      exact absurd (opens.short s mem) long
    · have inside : s ∈ (FilePath.ofText directory).segments := by
        rw [segments_rootIn, List.mem_append, List.mem_singleton] at mem
        refine mem.resolve_right ?_
        rintro rfl
        exact long (by cases g.target <;> decide)
      rw [startOf_rootIn, segments_rootIn, List.dropLast_concat] at grown grown'
      rw [fails, fails']
      exact ⟨.inr ⟨⟨s, inside, long⟩, a, b, rfl, rfl⟩, .inr ⟨⟨_, rfl⟩,
        free.grows grown (free.not_passes steady), free'.grows grown' (free'.not_passes steady')⟩⟩

/-- A generator that has not been started answers alike in all trees where nothing is at its root. If
it starts, the trees agree from then on. -/
theorem call_of_vacant (steady : t.Steady directory) (steady' : u.Steady directory)
    (here : u.here = t.here) (fresh : g.context = none)
    (free : Vacant t (rootIn g.target directory)) (free' : Vacant u (rootIn g.target directory))
    (isIn : c.IsIn directory) :
    SameResult directory ((g.call c).run t).1 ((g.call c).run u).1 ∧
    (Agree t.here (Concerns t.here g.target directory) ((g.call c).run t).2 ((g.call c).run u).2 ∨
      (g.keep ((g.call c).run u).1).context = none ∧
      Vacant ((g.call c).run t).2 (rootIn g.target directory) ∧
      Vacant ((g.call c).run u).2 (rootIn g.target directory)) := by
  cases c with
  | start d clean =>
    obtain rfl : d = directory := isIn
    obtain ⟨result, trees⟩ := starts_alike_of_vacant steady steady' here free free' clean
    rw [run_call_start, run_call_start]
    refine ⟨result.map _, trees.imp_right ?_⟩
    rintro ⟨⟨f, fails⟩, vacant⟩
    rw [fails]
    exact ⟨fresh, vacant⟩
  | clear => exact ⟨.inl rfl, .inr ⟨rfl, free, free'⟩⟩
  | files r =>
    rw [run_call_files, run_call_files, files_of_context_eq_none fresh]
    exact ⟨.inl rfl, .inr ⟨fresh, free, free'⟩⟩
  | generate r =>
    have fails := files_of_context_eq_none fresh r
    rw [run_call_generate, run_call_generate, run_generate_of_error fails,
      run_generate_of_error fails]
    exact ⟨.inl rfl, .inr ⟨fresh, free, free'⟩⟩

/-- The trees make no difference to a generator: they have the same where it concerns the generator,
or it has not been started and nothing is at its root in both. -/
structure Indifferent (directory : String) (g : Generator) (t u : FileTree) : Prop where
  /-- The working directory is the same. -/
  here : t.here = u.here
  /-- The trees make no difference. -/
  trees : (∀ q, Concerns u.here g.target directory q → t.find? q = u.find? q) ∨
    g.context = none ∧ Vacant t (rootIn g.target directory) ∧ Vacant u (rootIn g.target directory)

namespace Indifferent

variable {v : FileTree} (h : Indifferent directory g t u)

include h

/-- It makes no difference to change what does not concern the generator. -/
theorem congr (here : v.here = t.here)
    (same : ∀ q, Concerns t.here g.target directory q → v.find? q = t.find? q) :
    Indifferent directory g v u := by
  refine ⟨here.trans h.here, ?_⟩
  rcases h.trees with agree | ⟨fresh, free, free'⟩
  · exact .inl fun q concerns => (same q (h.here ▸ concerns)).trans (agree q concerns)
  · exact .inr ⟨fresh, free.congr here same, free'⟩

/-- What generators of other targets do makes no difference. -/
theorem of_tends (steady : t.Steady directory) (holds : Holds u directory g)
    (apart : g.target ≠ other) (tends : Tends t v (rootIn other directory)) :
    Indifferent directory g v u := by
  rcases tends with below | grown
  · exact h.congr below.here fun q concerns => below.find?_of_concerns apart concerns
  by_cases same : ∀ q, Concerns t.here g.target directory q → v.find? q = t.find? q
  · exact h.congr grown.here same
  · -- a directory has been made on the way, so nothing was at the root
    obtain ⟨q, concerns, changed⟩ :
        ∃ q, Concerns t.here g.target directory q ∧ v.find? q ≠ t.find? q := by
      by_contra none
      exact same fun q concerns => by_contra fun changed => none ⟨q, concerns, changed⟩
    obtain ⟨way, missing, free⟩ := vacant_of_grows steady apart grown concerns changed
    have vacant := free.grows grown fun passes =>
      (passes_rootIn_iff.mp passes).elim (free.not_passes steady) (placeOf_rootIn_ne apart)
    refine ⟨grown.here.trans h.here, .inr ?_⟩
    rcases h.trees with agree | ⟨fresh, -, free'⟩
    · have fresh : g.context = none := by
        by_contra started
        obtain ⟨x, context⟩ := Option.ne_none_iff_exists'.mp started
        obtain ⟨a, before, place⟩ := passes_rootIn_iff.mpr (.inl way)
        have there := (holds x context).2.directories a before
        rw [startOf_eq, ← h.here, ← startOf_eq, ← place, ← agree q (h.here ▸ concerns),
          missing] at there
        cases there
      exact ⟨fresh, vacant, free.congr h.here.symm fun k concerns =>
        (agree k (h.here ▸ concerns)).symm⟩
    · exact ⟨fresh, vacant, free'⟩

/-- A generator answers alike, and the trees still make no difference to it. -/
theorem call (steady : t.Steady directory) (steady' : u.Steady directory)
    (holds : Holds u directory g) (isIn : c.IsIn directory) :
    SameResult directory ((g.call c).run t).1 ((g.call c).run u).1 ∧
    Indifferent directory (g.keep ((g.call c).run u).1) ((g.call c).run t).2
      ((g.call c).run u).2 := by
  have here := (tends_call steady' holds isIn).here
  have target := g.target_keep c u
  rcases h.trees with same | ⟨fresh, free, free'⟩
  · obtain ⟨results, agree⟩ := alike_call holds isIn t u ⟨h.here, rfl, same⟩
    refine ⟨.inl results, agree.left.trans here.symm, .inl ?_⟩
    rw [here, target]
    exact agree.same
  · have here' := (tends_call steady (fun x context => by cases fresh.symm.trans context) isIn).here
    obtain ⟨results, agree | ⟨kept, vacant⟩⟩ :=
      call_of_vacant steady steady' h.here.symm fresh free free' isIn
    · refine ⟨results, (agree.left.trans h.here).trans here.symm, .inl ?_⟩
      rw [here, target, ← h.here]
      exact agree.same
    · refine ⟨results, (here'.trans h.here).trans here.symm, .inr ⟨kept, ?_⟩⟩
      rw [target]
      exact vacant

/-- The same is in the root of the generator. -/
theorem find?_below (closed : t.IsClosed) (closed' : u.IsClosed)
    (below : u.placeOf (rootIn g.target directory) <+: q) : t.find? q = u.find? q := by
  rcases h.trees with same | ⟨-, free, free'⟩
  · exact same q (.inr below)
  · rw [free'.find?_below closed' below,
      free.find?_below closed (by rw [placeOf_congr h.here]; exact below)]

end Indifferent

end Generator
end PacketSmith
