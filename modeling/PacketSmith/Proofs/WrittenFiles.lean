import PacketSmith.Proofs.FileActions

/-!
# What writing files does

Files are written one after the other, each with the directories it needs (`writeFiles`), into any
tree.

* Whatever comes of it, directories stay, and nothing changes but on the way of the files
  (`keeps_writeFiles`).
* If it ends well, the last file that is written to a place is there (`content?_of_writeFiles`).
* It ends well if no file is in the way of another one, in the tree or among those that are written
  (`exists_writeFiles`).
* What comes of it depends on the ways of the files alone (`alike_writeFiles`).
-/

namespace PacketSmith

open FileTree

/-- The one tree has the directories of the other, and is like it but for the given places. -/
structure FileTree.Keeps (t u : FileTree) (places : Location → Prop) : Prop where
  /-- The working directory is the same. -/
  here : u.here = t.here
  /-- The tree stays closed. -/
  closed : t.IsClosed → u.IsClosed
  /-- Directories stay. -/
  directory : ∀ k, t.find? k = some .directory → u.find? k = some .directory
  /-- Nothing changes at other places. -/
  other : ∀ k, ¬ places k → u.find? k = t.find? k

namespace FileTree

variable {t u v : FileTree} {places more : Location → Prop}

theorem Keeps.refl (t : FileTree) (places : Location → Prop) : Keeps t t places :=
  ⟨rfl, id, fun _ => id, fun _ _ => rfl⟩

theorem Keeps.trans (first : Keeps t u places) (second : Keeps u v places) : Keeps t v places where
  here := second.here.trans first.here
  closed := second.closed ∘ first.closed
  directory k there := second.directory k (first.directory k there)
  other k out := (second.other k out).trans (first.other k out)

theorem Keeps.mono (h : Keeps t u places) (wider : ∀ k, places k → more k) : Keeps t u more :=
  ⟨h.here, h.closed, h.directory, fun k out => h.other k fun place => out (wider k place)⟩

/-- A tree that grows keeps the rest. -/
theorem Grows.keeps (h : Grows t u places) : Keeps t u places :=
  ⟨h.here, h.closed, fun _ => h.directory, fun _ => h.find?_eq⟩

/-- Paths start at the same places. -/
theorem Keeps.startOf (h : Keeps t u places) (p : FilePath) : u.startOf p = t.startOf p := by
  rw [startOf_eq, startOf_eq, h.here]

/-- Paths that could be followed still can. -/
theorem Keeps.opens (h : Keeps t u places) {l : Location} {segments : List String}
    (opens : t.Opens l segments) : u.Opens l segments :=
  ⟨fun q before => h.directory _ (opens.directories q before), opens.short⟩

end FileTree

namespace OutputFile

/-- Writes a file with the directories it needs. -/
def write (f : OutputFile) : FileAction Unit := do
  FileAction.makeDirectories f.path.parent
  FileAction.writeFile f.path f.content.toUTF8

/-- The bytes of a file. -/
def bytes (f : OutputFile) : ByteArray := f.content.toUTF8

/-- Directories are made for a file, and it is written unless that fails. -/
theorem write_cases (f : OutputFile) (t : FileTree) :
    ∃ v, Grows t v (Passes (t.startOf f.path) f.path.parent.segments) ∧
      ((∃ e, f.write.run t = (.error e, v)) ∨
        f.write.run t = (.ok (), v.set (t.placeOf f.path) (.file f.bytes)) ∧
        v.LeadsTo f.path (t.placeOf f.path) ∧ v.find? (t.placeOf f.path) ≠ some .directory) := by
  have grown := FileAction.grows_makeDirectories f.path.parent t
  rw [write, FileAction.run_bind]
  cases made : (FileAction.makeDirectories f.path.parent).run t with
  | mk result v =>
    rw [made] at grown
    refine ⟨v, grown, ?_⟩
    cases result with
    | error e => exact .inl ⟨e, rfl⟩
    | ok _ =>
      dsimp only
      rw [FileAction.run_writeFile]
      cases place : FileAction.writePlace f.path v with
      | error e => exact .inl ⟨e, rfl⟩
      | ok l =>
        obtain ⟨leads, free⟩ := FileAction.of_writePlace place
        obtain rfl : l = t.placeOf f.path := leads.place.trans (placeOf_congr grown.here _)
        exact .inr ⟨rfl, leads, free⟩

/-- Writing a file changes nothing but on its way. -/
theorem keeps_write (f : OutputFile) (t : FileTree) :
    Keeps t (f.write.run t).2 (Passes (t.startOf f.path) f.path.segments) := by
  have front : f.path.parent.segments <+: f.path.segments := List.dropLast_prefix _
  obtain ⟨v, grown, ⟨e, run⟩ | ⟨run, leads, free⟩⟩ := f.write_cases t
  · rw [run]
    exact grown.keeps.mono fun k passes => passes.of_prefix front
  · have first := grown.keeps.mono fun k passes => passes.of_prefix front
    rw [run]
    refine first.trans ⟨rfl, fun closed => leads.closed_set closed free _, ?_, ?_⟩
    · intro k there
      rw [find?_set leads.ne_nil, if_neg, there]
      rintro rfl
      exact free there
    · intro k out
      rw [find?_set leads.ne_nil, if_neg]
      rintro rfl
      exact out (passes_along _ _)

/-- A file that is written is there, and all other files are as they were. -/
theorem content?_of_write {f : OutputFile} {t u : FileTree} (h : f.write.run t = (.ok (), u))
    (k : Location) :
    u.content? k = if k = t.placeOf f.path then some f.bytes else t.content? k := by
  obtain ⟨v, grown, ⟨e, run⟩ | ⟨run, leads, -⟩⟩ := f.write_cases t
  · cases h.symm.trans run
  · obtain rfl := (Prod.mk.inj (h.symm.trans run)).2
    rw [content?_set leads.ne_nil, grown.content?_eq]

end OutputFile

namespace Generator

/-- The file that is written last to a place. -/
def lastAt (t : FileTree) (fs : List OutputFile) (k : Location) : Option OutputFile :=
  fs.reverse.find? fun f => t.placeOf f.path == k

theorem lastAt_cons (t : FileTree) (f : OutputFile) (fs : List OutputFile) (k : Location) :
    lastAt t (f :: fs) k = (lastAt t fs k).or (if k = t.placeOf f.path then some f else none) := by
  rw [lastAt, List.reverse_cons, List.find?_append, lastAt]
  by_cases same : k = t.placeOf f.path
  · simp [same]
  · rw [if_neg same, List.find?_cons_of_neg (by simpa using Ne.symm same), List.find?_nil]

/-- The file that is written last to a place is one of those that are written, at its place. -/
theorem of_lastAt {t : FileTree} {f : OutputFile} {fs : List OutputFile} {k : Location}
    (h : lastAt t fs k = some f) : f ∈ fs ∧ t.placeOf f.path = k :=
  ⟨by simpa using List.mem_of_find?_eq_some h, by simpa using List.find?_some h⟩

/-- A file is written to its place, and one is the last. -/
theorem exists_lastAt {f : OutputFile} {fs : List OutputFile} (mem : f ∈ fs) (t : FileTree) :
    ∃ last, lastAt t fs (t.placeOf f.path) = some last := by
  rw [← Option.isSome_iff_exists, lastAt, List.find?_isSome]
  exact ⟨f, List.mem_reverse.mpr mem, by simp⟩

theorem writeFiles_cons (f : OutputFile) (fs : List OutputFile) : writeFiles (f :: fs) =
    (f.write >>= fun _ => writeFiles fs >>= fun paths => pure (f.path :: paths)) := by
  rw [writeFiles, OutputFile.write, bind_assoc]

theorem run_writeFiles_cons (f : OutputFile) (fs : List OutputFile) (t : FileTree) :
    (writeFiles (f :: fs)).run t = match f.write.run t with
      | (.error e, u) => (.error e, u)
      | (.ok _, u) => match (writeFiles fs).run u with
        | (.error e, v) => (.error e, v)
        | (.ok paths, v) => (.ok (f.path :: paths), v) := by
  rw [writeFiles_cons, FileAction.run_bind]
  cases f.write.run t with
  | mk result u =>
    cases result with
    | error e => rfl
    | ok _ =>
      dsimp only
      rw [FileAction.run_bind]
      cases (writeFiles fs).run u with
      | mk result v => cases result <;> rfl

/-- Writing files changes nothing but on their way. -/
theorem keeps_writeFiles (fs : List OutputFile) (t : FileTree) : Keeps t ((writeFiles fs).run t).2
    fun k => ∃ f ∈ fs, Passes (t.startOf f.path) f.path.segments k := by
  induction fs generalizing t with
  | nil => exact .refl _ _
  | cons f fs ih =>
    have first : Keeps t (f.write.run t).2 fun k =>
        ∃ g ∈ f :: fs, Passes (t.startOf g.path) g.path.segments k :=
      (f.keeps_write t).mono fun k passes => ⟨f, List.mem_cons_self, passes⟩
    rw [run_writeFiles_cons]
    cases run : f.write.run t with
    | mk result u =>
      rw [run] at first
      cases result with
      | error e => exact first
      | ok _ =>
        have rest : Keeps u ((writeFiles fs).run u).2 fun k =>
            ∃ g ∈ f :: fs, Passes (t.startOf g.path) g.path.segments k := by
          refine (ih u).mono ?_
          rintro k ⟨g, mem, passes⟩
          rw [first.startOf] at passes
          exact ⟨g, List.mem_cons_of_mem _ mem, passes⟩
        dsimp only
        cases behind : (writeFiles fs).run u with
        | mk result v =>
          rw [behind] at rest
          cases result with
          | error e => exact first.trans rest
          | ok paths => exact first.trans rest

/-- Once files are written, the last one that was written to a place is there, and places to which
none was written have what they had. -/
theorem content?_of_writeFiles {fs : List OutputFile} {t u : FileTree} {paths : List FilePath}
    (h : (writeFiles fs).run t = (.ok paths, u)) :
    paths = fs.map (·.path) ∧
    ∀ k, u.content? k = ((lastAt t fs k).map (·.bytes)).or (t.content? k) := by
  induction fs generalizing t paths with
  | nil =>
    cases h
    exact ⟨rfl, fun k => rfl⟩
  | cons f fs ih =>
    have kept := f.keeps_write t
    rw [run_writeFiles_cons] at h
    cases run : f.write.run t with
    | mk result v =>
      rw [run] at h kept
      cases result with
      | error e => cases h
      | ok _ =>
        dsimp only at h
        cases behind : (writeFiles fs).run v with
        | mk result w =>
          rw [behind] at h
          cases result with
          | error e => cases h
          | ok rest =>
            cases h
            obtain ⟨rfl, contents⟩ := ih behind
            refine ⟨rfl, fun k => ?_⟩
            have same : lastAt v fs k = lastAt t fs k := by
              simp only [lastAt, placeOf_congr kept.here]
            rw [contents, OutputFile.content?_of_write run, lastAt_cons, same]
            cases lastAt t fs k with
            | some g => rfl
            | none =>
              by_cases here : k = t.placeOf f.path
              · simp [here]
              · simp [here]

/-- Nothing is in the way of the files: all of their paths can be given to a file system, and no
file stands where another one needs a directory, in the tree or among them. -/
structure Clear (t : FileTree) (fs : List OutputFile) : Prop where
  /-- The paths start at a directory. -/
  begun : ∀ f ∈ fs, t.find? (t.startOf f.path) = some .directory
  /-- The paths end with a name. -/
  named : ∀ f ∈ fs, ∃ above name, f.path.segments = above ++ [name] ∧ name ≠ ".."
  /-- The paths can be given to a file system. -/
  text : ∀ f ∈ fs, FileAction.checkText f.path.text = .ok ()
  /-- The names are not too long. -/
  short : ∀ f ∈ fs, ∀ s ∈ f.path.segments, IsShort s
  /-- No file of the tree is on the way to the directory of a file. -/
  files : ∀ f ∈ fs, ∀ k, Passes (t.startOf f.path) f.path.parent.segments k →
    ∀ c, t.find? k ≠ some (.file c)
  /-- No directory of the tree has the place of a file. -/
  directories : ∀ f ∈ fs, t.find? (t.placeOf f.path) ≠ some .directory
  /-- No file has its place on the way to the directory of a file. -/
  apart : ∀ f ∈ fs, ∀ g ∈ fs,
    ¬ Passes (t.startOf g.path) g.path.parent.segments (t.placeOf f.path)

namespace Clear

variable {t : FileTree} {f : OutputFile} {fs : List OutputFile}

/-- The first file is written. -/
theorem exists_write (closed : t.IsClosed) (h : Clear t (f :: fs)) :
    ∃ v, Grows t v (Passes (t.startOf f.path) f.path.parent.segments) ∧
      f.write.run t = (.ok (), v.set (t.placeOf f.path) (.file f.bytes)) := by
  have mem : f ∈ f :: fs := List.mem_cons_self
  obtain ⟨above, name, split, down⟩ := h.named f mem
  have text := h.text f mem
  have short := h.short f mem
  have parent : f.path.parent = ⟨f.path.start, above⟩ := by
    rw [FilePath.parent, split, List.dropLast_concat]
  have made : ((FileAction.makeDirectories f.path.parent).run t).1 = .ok () := by
    refine FileAction.makeDirectories_eq_ok closed (h.begun f mem) ?_ ?_ (h.files f mem)
    · rw [parent]
      refine FileAction.checkText_of_append (b := [name]) ?_
      rw [← split]
      exact text
    · intro s inside
      exact short s (List.dropLast_subset _ inside)
  have grown := FileAction.grows_makeDirectories f.path.parent t
  have opens : ((FileAction.makeDirectories f.path.parent).run t).2.Opens (t.startOf f.path)
      above := by
    by_cases top : above = []
    · rw [top, opens_nil_iff]
      exact grown.directory (h.begun f mem)
    · have opens :=
        (FileAction.opens_of_makeDirectories (p := f.path.parent) closed (h.begun f mem)
          (by rwa [parent]) made).2
      rw [parent] at opens ⊢
      exact opens
  have free : ((FileAction.makeDirectories f.path.parent).run t).2.find? (t.placeOf f.path) ≠
      some .directory := by
    rw [grown.find?_eq (h.apart f mem f mem)]
    exact h.directories f mem
  cases run : (FileAction.makeDirectories f.path.parent).run t with
  | mk result v =>
    rw [run] at made grown opens free
    obtain rfl : result = .ok () := made
    refine ⟨v, grown, ?_⟩
    have place := FileAction.writePlace_of_opens text split down (short name (by simp [split]))
      (by rw [grown.startOf]; exact opens) (by rw [grown.startOf]; exact free)
    rw [OutputFile.write, FileAction.run_bind, run]
    dsimp only
    rw [FileAction.run_writeFile, place, grown.startOf]
    rfl

/-- Nothing is in the way of the others once the first file is written. -/
theorem of_write (h : Clear t (f :: fs)) {v : FileTree}
    (grown : Grows t v (Passes (t.startOf f.path) f.path.parent.segments)) :
    Clear (v.set (t.placeOf f.path) (.file f.bytes)) fs := by
  have first : f ∈ f :: fs := List.mem_cons_self
  have rest : ∀ {g}, g ∈ fs → g ∈ f :: fs := List.mem_cons_of_mem f
  obtain ⟨above, name, split, down⟩ := h.named f first
  have some : t.placeOf f.path ≠ [] := by
    rw [placeOf, split]
    exact along_ne_nil down
  have start : ∀ p, (v.set (t.placeOf f.path) (.file f.bytes)).startOf p = t.startOf p :=
    grown.startOf
  have place : ∀ p, (v.set (t.placeOf f.path) (.file f.bytes)).placeOf p = t.placeOf p :=
    placeOf_congr grown.here
  refine ⟨?_, fun g mem => h.named g (rest mem), fun g mem => h.text g (rest mem),
    fun g mem => h.short g (rest mem), ?_, ?_, ?_⟩
  · intro g mem
    have other : t.startOf g.path ≠ t.placeOf f.path := by
      intro same
      exact h.apart f first g (rest mem) ⟨[], List.nil_prefix, same.symm⟩
    rw [start, find?_set some, if_neg other]
    exact grown.directory (h.begun g (rest mem))
  · intro g mem k passes c
    rw [start] at passes
    have other : k ≠ t.placeOf f.path := by
      rintro rfl
      exact h.apart f first g (rest mem) passes
    rw [find?_set some, if_neg other, ne_eq, grown.file_iff]
    exact h.files g (rest mem) k passes c
  · intro g mem
    rw [place, find?_set some]
    split
    · simp
    · rw [grown.find?_eq (h.apart g (rest mem) f first)]
      exact h.directories g (rest mem)
  · intro g mem k inside
    rw [start, place]
    exact h.apart g (rest mem) k (rest inside)

end Clear

/-- Files are written if nothing is in their way. -/
theorem exists_writeFiles {t : FileTree} (closed : t.IsClosed) {fs : List OutputFile}
    (h : Clear t fs) : ∃ u, (writeFiles fs).run t = (.ok (fs.map (·.path)), u) := by
  induction fs generalizing t with
  | nil => exact ⟨t, rfl⟩
  | cons f fs ih =>
    obtain ⟨v, grown, run⟩ := h.exists_write closed
    have kept := f.keeps_write t
    rw [run] at kept
    obtain ⟨u, rest⟩ := ih (kept.closed closed) (h.of_write grown)
    refine ⟨u, ?_⟩
    rw [run_writeFiles_cons, run]
    dsimp only
    rw [rest]
    rfl

/-- What writing files gives depends on their ways alone. -/
theorem alike_writeFiles {here : Location} {places : Location → Prop} {fs : List OutputFile}
    (passes : ∀ f ∈ fs, ∀ k, Passes (beginning here f.path) f.path.segments k → places k) :
    FileAction.Alike here places (writeFiles fs) := by
  induction fs with
  | nil => exact .pure []
  | cons f fs ih =>
    obtain ⟨first, others⟩ := List.forall_mem_cons.mp passes
    have front : f.path.parent.segments <+: f.path.segments := List.dropLast_prefix _
    have made : FileAction.Alike here places (FileAction.makeDirectories f.path.parent) :=
      FileAction.alike_makeDirectories fun k on => first k (Passes.of_prefix on front)
    exact made.bind fun _ => (FileAction.alike_writeFile first _).bind fun _ =>
      (ih others).bind fun _ => .pure _

section Generate

variable {g : Generator} {r : Registry}

/-- A generator that can lay out the files writes them. -/
theorem run_generate {files : List OutputFile} (laid : g.files r = .ok files) (t : FileTree) :
    (g.generate r).run t = (writeFiles files).run t := by
  unfold generate
  rw [laid]
  rfl

/-- A generator that cannot lay out the files leaves the tree as it is. -/
theorem run_generate_of_error {e : Fault} (fails : g.files r = .error e) (t : FileTree) :
    (g.generate r).run t = (.error e, t) := by
  unfold generate
  rw [fails]
  rfl

end Generate

end Generator

end PacketSmith
