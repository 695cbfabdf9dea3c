import PacketSmith.Proofs.FileTrees

/-!
# What file actions do

Making directories, writing files and removing trees, told place by place.

* Making a directory with those above it (`makeDirectories`) only puts directories where nothing
  stood, at places that the path passes (`Grows`); if it ends well, the path can be followed
  (`opens_of_makeDirectories`). It ends well unless a file is in the way or a name is too long
  (`makeDirectories_eq_ok`).
* What an action on a path gives, and what it changes, depends on the places alone that the path
  passes (`Alike`).
* The faults of these actions are those of finding a place on the way (`FaultsSatisfy`).
-/

namespace PacketSmith

open FileTree (along Opens IsShort)

/-! ### Texts of paths -/

namespace FilePath

/-- Joined segments begin with those in front. -/
theorem exists_joined_append (a b : List String) :
    ∃ rest, Path.joined (a ++ b) = Path.joined a ++ rest := by
  unfold Path.joined
  by_cases front : a = []
  · exact ⟨"/".intercalate b, by simp [front]⟩
  by_cases behind : b = []
  · exact ⟨"", by simp [behind]⟩
  · exact ⟨"/" ++ "/".intercalate b, by
      rw [String.intercalate_append_of_ne_nil front behind, String.append_assoc]⟩

/-- The text of a path begins with that of a path in front, other than the working directory. -/
theorem exists_text_append {start : PathStart} {a b : List String}
    (h : start = .here → a ≠ []) : ∃ rest, (mk start (a ++ b)).text = (mk start a).text ++ rest := by
  obtain ⟨rest, joined⟩ := exists_joined_append a b
  refine ⟨rest, ?_⟩
  cases start with
  | here =>
    have some := h rfl
    show (if (a ++ b).isEmpty then "." else _) = (if a.isEmpty then "." else _) ++ rest
    rw [if_neg (by simp [some]), if_neg (by simpa using some), joined]
  | root => simp only [text, joined, String.append_assoc]
  | doubleRoot => simp only [text, joined, String.append_assoc]

end FilePath

namespace FileAction

/-- A text can be given to a file system if it has no NUL character and is not too long. -/
theorem checkText_eq_ok_iff {s : String} : checkText s = .ok () ↔
    Char.ofNat 0 ∉ s.toList ∧ s.utf8ByteSize ≤ FileTree.pathLimit := by
  unfold checkText
  by_cases nul : Char.ofNat 0 ∈ s.toList
  · rw [if_pos (by simpa using nul)]
    simp [nul]
  · rw [if_neg (by simpa using nul)]
    by_cases long : s.utf8ByteSize > FileTree.pathLimit
    · rw [if_pos long]
      simp [long]
    · rw [if_neg long]
      simp [nul, Nat.le_of_not_gt long]

/-- The reasons why a text cannot be given to a file system. -/
theorem eq_of_checkText {s : String} {f : Fault} (h : checkText s = .error f) :
    f = .nulInPath ∨ ∃ place, f = .file .nameTooLong place := by
  unfold checkText at h
  split at h
  · exact .inl (Except.error.inj h).symm
  · split at h
    · exact .inr ⟨_, (Except.error.inj h).symm⟩
    · cases h

/-- A path in front of one whose text can be given to a file system can be given too. -/
theorem checkText_of_append {start : PathStart} {a b : List String}
    (h : checkText (FilePath.mk start (a ++ b)).text = .ok ()) :
    checkText (FilePath.mk start a).text = .ok () := by
  by_cases top : start = .here ∧ a = []
  · obtain ⟨rfl, rfl⟩ := top
    rfl
  · obtain ⟨rest, text⟩ := FilePath.exists_text_append (b := b) fun here none => top ⟨here, none⟩
    rw [checkText_eq_ok_iff] at h ⊢
    rw [text, String.toList_append, List.mem_append, not_or, String.utf8ByteSize_append] at h
    exact ⟨h.1.1, Nat.le_trans (Nat.le_add_right _ _) h.2⟩

end FileAction

/-! ### Growing trees -/

namespace FileTree

variable {t u v : FileTree} {l k : Location} {segments : List String}

/-- The place is on the way along segments. -/
def Passes (l : Location) (segments : List String) (k : Location) : Prop :=
  ∃ q, q <+: segments ∧ k = along l q

/-- The way along segments passes what the way along the first ones passes. -/
theorem Passes.of_prefix {a b : List String} (h : Passes l a k) (front : a <+: b) :
    Passes l b k := by
  obtain ⟨q, before, rfl⟩ := h
  exact ⟨q, before.trans front, rfl⟩

/-- The way along segments passes the place that they lead to. -/
theorem passes_along (l : Location) (segments : List String) :
    Passes l segments (along l segments) := ⟨segments, List.prefix_refl _, rfl⟩

/-- The one tree has directories at some of the given places where the other has nothing, and is
like it otherwise. -/
structure Grows (t u : FileTree) (places : Location → Prop) : Prop where
  /-- The working directory is the same. -/
  here : u.here = t.here
  /-- The tree stays closed. -/
  closed : t.IsClosed → u.IsClosed
  /-- Directories are put where nothing stood. -/
  grown : ∀ k, u.find? k = t.find? k ∨
    t.find? k = none ∧ u.find? k = some .directory ∧ places k

namespace Grows

variable {places more : Location → Prop}

theorem refl (t : FileTree) (places : Location → Prop) : Grows t t places :=
  ⟨rfl, id, fun _ => .inl rfl⟩

theorem mono (h : Grows t u places) (wider : ∀ k, places k → more k) : Grows t u more := by
  refine ⟨h.here, h.closed, fun k => ?_⟩
  rcases h.grown k with same | ⟨none, directory, place⟩
  · exact .inl same
  · exact .inr ⟨none, directory, wider k place⟩

theorem trans (first : Grows t u places) (second : Grows u v places) : Grows t v places := by
  refine ⟨second.here.trans first.here, second.closed ∘ first.closed, fun k => ?_⟩
  rcases second.grown k with same | ⟨none, directory, place⟩
  · rw [same]
    exact first.grown k
  · rcases first.grown k with same | ⟨-, there, -⟩
    · exact .inr ⟨same ▸ none, directory, place⟩
    · rw [there] at none
      cases none

/-- Directories stay. -/
theorem directory (h : Grows t u places) (there : t.find? k = some .directory) :
    u.find? k = some .directory := by
  rcases h.grown k with same | ⟨-, grown, -⟩
  · rw [same, there]
  · exact grown

/-- Files stay, and no others come. -/
theorem file_iff (h : Grows t u places) {c : ByteArray} :
    u.find? k = some (.file c) ↔ t.find? k = some (.file c) := by
  rcases h.grown k with same | ⟨none, grown, -⟩
  · rw [same]
  · simp [none, grown]

/-- The contents of files stay. -/
theorem content?_eq (h : Grows t u places) (k : Location) : u.content? k = t.content? k :=
  Option.ext fun c => by rw [content?_eq_some_iff, content?_eq_some_iff, h.file_iff]

/-- Nothing changes at other places. -/
theorem find?_eq (h : Grows t u places) (other : ¬ places k) : u.find? k = t.find? k := by
  rcases h.grown k with same | ⟨-, -, place⟩
  · exact same
  · exact absurd place other

/-- What can be followed can still be followed. -/
theorem opens (h : Grows t u places) (opens : t.Opens l segments) : u.Opens l segments :=
  ⟨fun q before => h.directory (opens.directories q before), opens.short⟩

/-- Paths start at the same places. -/
theorem startOf (h : Grows t u places) (p : FilePath) : u.startOf p = t.startOf p := by
  unfold FileTree.startOf
  rw [h.here]

end Grows

/-- A place that is in a directory is not the top. -/
theorem along_ne_nil {above : List String} {name : String} (down : name ≠ "..") :
    along l (above ++ [name]) ≠ [] := by
  rw [along_append, along_cons, next, if_neg down, along_nil]
  simp

theorem addDirectory_eq (t : FileTree) (p : FilePath) : t.addDirectory p =
    (t.freePlace p (fun _ => true) .alreadyExists).map (t.set · .directory) := by
  unfold addDirectory
  cases t.freePlace p _ _ <;> rfl

theorem addFile_eq (t : FileTree) (p : FilePath) (content : ByteArray) : t.addFile p content =
    (t.freePlace p Entry.isDirectory .isDirectory).map (t.set · (.file content)) := by
  unfold addFile
  cases t.freePlace p _ _ <;> rfl

/-- Something new comes to a place in a directory, where nothing is in its way. -/
theorem of_freePlace {p : FilePath} {inTheWay : Entry → Bool} {problem : FileProblem}
    (h : t.freePlace p inTheWay problem = .ok l) :
    t.LeadsTo p l ∧ (t.find? l).any inTheWay = false := by
  unfold freePlace at h
  obtain ⟨place, found, h⟩ := exists_of_bind_eq_ok h
  cases place with
  | none => cases h
  | some k =>
    dsimp only at h
    split at h
    · cases h
    · rename_i free
      obtain rfl := Except.ok.inj h
      exact ⟨leadsTo_of_newPlace found, by simpa using free⟩

namespace LeadsTo

variable {p : FilePath}

theorem ne_nil (h : t.LeadsTo p l) : l ≠ [] := by
  obtain ⟨rfl, front, name, split, down, -⟩ := h
  rw [split]
  exact along_ne_nil down

/-- A tree stays closed when something takes the place and no directory stood there. -/
theorem closed_set (h : t.LeadsTo p l) (closed : t.IsClosed) (free : t.find? l ≠ some .directory)
    (e : Entry) : (t.set l e).IsClosed := by
  obtain ⟨rfl, front, name, split, down, -, -, parent⟩ := h
  rw [split, along_append, along_cons, next, if_neg down, along_nil] at free ⊢
  exact closed.set parent free e

/-- A directory that is made at the place makes the tree grow. -/
theorem grows (h : t.LeadsTo p l) (free : t.find? l = none) :
    Grows t (t.set l .directory) (Passes (t.startOf p) p.segments) := by
  refine ⟨rfl, fun closed => h.closed_set closed (by simp [free]) _, fun k => ?_⟩
  rw [find?_set h.ne_nil]
  by_cases same : k = l
  · subst same
    rw [if_pos rfl]
    exact .inr ⟨free, rfl, h.place ▸ passes_along _ _⟩
  · rw [if_neg same]
    exact .inl rfl

/-- A directory that is made at the place can be followed to. -/
theorem opens_set (h : t.LeadsTo p l) (closed : t.IsClosed)
    (begun : t.find? (t.startOf p) = some .directory) (free : t.find? l = none) :
    (t.set l .directory).Opens (t.startOf p) p.segments := by
  have grows := h.grows free
  have there : (t.set l .directory).find? l = some .directory := by
    rw [find?_set h.ne_nil, if_pos rfl]
  obtain ⟨place, front, name, split, down, short, walked, parent⟩ := h
  have opens := opens_of_walk closed begun walked (by simp [parent])
  rw [split, opens_append_iff, opens_cons_iff, opens_nil_iff]
  refine ⟨grows.opens opens, grows.directory parent, short, ?_⟩
  rw [split, along_append] at place
  exact place ▸ there

end LeadsTo

end FileTree

/-! ### Making directories -/

namespace FileAction

open FileTree

variable {t u : FileTree} {p : FilePath} {l : Location}

/-- The place for something new at a path, unless an entry there is in the way. -/
def placeFor (inTheWay : Entry → Bool) (problem : FileProblem) (p : FilePath) (t : FileTree) :
    Except Fault Location := do
  checkText p.text
  (t.freePlace p inTheWay problem).mapError (problemAt p)

/-- The place where the directory of a path can be made. -/
def directoryPlace (p : FilePath) (t : FileTree) : Except Fault Location :=
  placeFor (fun _ => true) .alreadyExists p t

/-- The place where the file of a path can be written. -/
def writePlace (p : FilePath) (t : FileTree) : Except Fault Location :=
  placeFor Entry.isDirectory .isDirectory p t

/-- A change that puts something new at a path. -/
theorem change_eq {inTheWay : Entry → Bool} {problem : FileProblem} {e : Entry}
    {f : FileTree → Except FileProblem FileTree}
    (h : f t = (t.freePlace p inTheWay problem).map (t.set · e)) :
    change p f t = (placeFor inTheWay problem p t).map (t.set · e) := by
  unfold change placeFor
  rw [h]
  cases checkText p.text with
  | error f => rfl
  | ok _ => cases t.freePlace p inTheWay problem <;> rfl

/-- Saying a problem in another way leaves results as they are. -/
theorem eq_ok_of_mapError {α : Type} {r : Except FileProblem α} {f : FileProblem → Fault} {a : α}
    (h : r.mapError f = .ok a) : r = .ok a := by
  cases r with
  | error problem => cases h
  | ok b =>
    cases h
    rfl

theorem of_placeFor {inTheWay : Entry → Bool} {problem : FileProblem}
    (h : placeFor inTheWay problem p t = .ok l) :
    checkText p.text = .ok () ∧ t.LeadsTo p l ∧ (t.find? l).any inTheWay = false := by
  unfold placeFor at h
  obtain ⟨⟨⟩, text, h⟩ := exists_of_bind_eq_ok h
  exact ⟨text, of_freePlace (eq_ok_of_mapError h)⟩

theorem of_directoryPlace (h : directoryPlace p t = .ok l) :
    checkText p.text = .ok () ∧ t.LeadsTo p l ∧ t.find? l = none := by
  obtain ⟨text, leads, free⟩ := of_placeFor h
  cases found : t.find? l with
  | none => exact ⟨text, leads, rfl⟩
  | some e =>
    rw [found] at free
    cases free

/-- A path leads to a directory if it can be followed and leads to no file. -/
theorem isDirectory_iff :
    isDirectory p t = true ↔ checkText p.text = .ok () ∧ t.Reaches p := by
  have reaches : t.Reaches p ↔ t.walk (t.startOf p) p.segments = .ok (t.placeOf p) ∧
      ∀ c, t.find? (t.placeOf p) ≠ some (.file c) := ⟨fun h => ⟨h.1, h.2⟩, fun h => ⟨h.1, h.2⟩⟩
  unfold isDirectory look FileTree.entry
  rw [reaches]
  cases checkText p.text with
  | error f => simp [bind, Except.bind]
  | ok _ =>
    cases walked : t.walk (t.startOf p) p.segments with
    | error problem => simp [bind, Except.bind, Except.mapError]
    | ok m =>
      obtain ⟨rfl, -⟩ := of_walk walked
      rw [← placeOf]
      simp only [bind, Except.bind, pure, Except.pure, Except.mapError]
      cases found : t.find? (t.placeOf p) with
      | none => simp
      | some e => cases e <;> simp

/-- A path that can be followed leads to a directory. -/
theorem isDirectory_of_opens (text : checkText p.text = .ok ())
    (opens : t.Opens (t.startOf p) p.segments) : isDirectory p t = true :=
  isDirectory_iff.mpr ⟨text, reaches_of_opens opens⟩

/-- A path that starts at a directory and leads to one can be followed. -/
theorem opens_of_isDirectory (closed : t.IsClosed)
    (begun : t.find? (t.startOf p) = some .directory) (h : isDirectory p t = true) :
    checkText p.text = .ok () ∧ t.Opens (t.startOf p) p.segments := by
  obtain ⟨text, reached⟩ := isDirectory_iff.mp h
  exact ⟨text, opens_of_walk closed begun reached.walked reached.clear⟩

/-- An action goes on with the tree that it asks for. -/
theorem run_get_bind {β : Type} (f : FileTree → FileAction β) (t : FileTree) :
    (get >>= f).run t = (f t).run t := rfl

theorem run_makeDirectory (p : FilePath) (t : FileTree) : (makeDirectory p).run t =
    match directoryPlace p t with
    | .ok l => (.ok (), t.set l .directory)
    | .error f => if isDirectory p t = true then (.ok (), t) else (.error f, t) := by
  rw [makeDirectory, run_get_bind, change_eq (addDirectory_eq t p), ← directoryPlace]
  cases directoryPlace p t with
  | ok l => rfl
  | error f =>
    show (if isDirectory p t then pure () else throw f : FileAction Unit).run t = _
    split <;> rfl

/-- Making a directory makes the tree grow on the way, and the path can be followed then. -/
theorem grows_makeDirectory (p : FilePath) (t : FileTree) :
    Grows t ((makeDirectory p).run t).2 (Passes (t.startOf p) p.segments) ∧
    (t.IsClosed → t.find? (t.startOf p) = some .directory →
      ((makeDirectory p).run t).1 = .ok () →
      checkText p.text = .ok () ∧ ((makeDirectory p).run t).2.Opens (t.startOf p) p.segments) := by
  rw [run_makeDirectory]
  cases place : directoryPlace p t with
  | ok l =>
    obtain ⟨text, leads, free⟩ := of_directoryPlace place
    exact ⟨leads.grows free, fun closed begun _ => ⟨text, leads.opens_set closed begun free⟩⟩
  | error f =>
    dsimp only
    split
    · rename_i directory
      exact ⟨.refl _ _, fun closed begun _ => opens_of_isDirectory closed begun directory⟩
    · exact ⟨.refl _ _, fun _ _ h => by cases h⟩

/-- One action runs behind another, unless that failed. -/
theorem run_bind {α β : Type} (a : FileAction α) (f : α → FileAction β) (t : FileTree) :
    (a >>= f).run t = match a.run t with
      | (.ok v, u) => (f v).run u
      | (.error e, u) => (.error e, u) := by
  rw [ExceptT.run_bind]
  simp only [bind, StateT.bind]
  cases a.run t with
  | mk result u => cases result <;> rfl

/-- A result is changed behind an action. -/
theorem run_bind_pure {α β : Type} (a : FileAction α) (f : α → β) (t : FileTree) :
    (a >>= fun v => pure (f v)).run t = ((a.run t).1.map f, (a.run t).2) := by
  rw [run_bind]
  cases a.run t with
  | mk result u => cases result <;> rfl

theorem run_makeDirectoriesFrom (start : PathStart) (name : String) (above : List String)
    (t : FileTree) : (makeDirectoriesFrom start (name :: above)).run t =
    match directoryPlace ⟨start, (name :: above).reverse⟩ t with
    | .ok l => (.ok (), t.set l .directory)
    | .error (.file .notFound _) =>
      (makeDirectoriesFrom start above >>= fun _ =>
        makeDirectory ⟨start, (name :: above).reverse⟩).run t
    | .error f =>
      if isDirectory ⟨start, (name :: above).reverse⟩ t = true then (.ok (), t)
      else (.error f, t) := by
  rw [makeDirectoriesFrom, run_get_bind]
  dsimp only
  rw [change_eq (addDirectory_eq t _), ← directoryPlace]
  cases directoryPlace ⟨start, (name :: above).reverse⟩ t with
  | ok l => rfl
  | error f =>
    -- only a missing directory is made up for
    cases f with
    | file problem place =>
      cases problem with
      | notFound => rfl
      | _ =>
        dsimp only [Except.map]
        split <;> rfl
    | _ =>
      dsimp only [Except.map]
      split <;> rfl

section Makes

variable (start : PathStart)

/-- Making a directory with those above it makes the tree grow on the way, and the path can be
followed then. -/
theorem grows_makeDirectoriesFrom (segments : List String) (t : FileTree) :
    Grows t ((makeDirectoriesFrom start segments).run t).2
      (Passes (t.startOf ⟨start, segments.reverse⟩) segments.reverse) ∧
    (t.IsClosed → t.find? (t.startOf ⟨start, segments.reverse⟩) = some .directory →
      ((makeDirectoriesFrom start segments).run t).1 = .ok () → segments ≠ [] →
      checkText (FilePath.mk start segments.reverse).text = .ok () ∧
      ((makeDirectoriesFrom start segments).run t).2.Opens
        (t.startOf ⟨start, segments.reverse⟩) segments.reverse) := by
  induction segments with
  | nil => exact ⟨.refl _ _, fun _ _ _ none => absurd rfl none⟩
  | cons name above ih =>
    obtain ⟨grown, -⟩ := ih
    have front : above.reverse <+: (name :: above).reverse := by simp
    have wider : Grows t ((makeDirectoriesFrom start above).run t).2
        (Passes (t.startOf ⟨start, (name :: above).reverse⟩) (name :: above).reverse) :=
      grown.mono fun k passes => passes.of_prefix front
    rw [run_makeDirectoriesFrom]
    split
    · rename_i l place
      obtain ⟨text, leads, free⟩ := of_directoryPlace place
      exact ⟨leads.grows free, fun closed begun _ _ =>
        ⟨text, leads.opens_set closed begun free⟩⟩
    · rw [run_bind]
      cases run : (makeDirectoriesFrom start above).run t with
      | mk result u =>
        rw [run] at wider
        cases result with
        | error f => exact ⟨wider, fun _ _ h => by cases h⟩
        | ok _ =>
          obtain ⟨last, opens⟩ := grows_makeDirectory ⟨start, (name :: above).reverse⟩ u
          rw [wider.startOf] at last opens
          exact ⟨wider.trans last, fun closed begun h _ =>
            opens (wider.closed closed) (wider.directory begun) h⟩
    · split
      · rename_i directory
        exact ⟨.refl _ _, fun closed begun _ _ => opens_of_isDirectory closed begun directory⟩
      · exact ⟨.refl _ _, fun _ _ h => by cases h⟩

end Makes

theorem grows_makeDirectories (p : FilePath) (t : FileTree) :
    Grows t ((makeDirectories p).run t).2 (Passes (t.startOf p) p.segments) := by
  have grown := (grows_makeDirectoriesFrom p.start p.segments.reverse t).1
  rw [List.reverse_reverse] at grown
  exact grown

/-- A path that cannot be given to a file system stops making directories, and nothing changes. -/
theorem makeDirectories_of_checkText (some : p.segments ≠ []) {f : Fault}
    (text : checkText p.text = .error f) : (makeDirectories p).run t = (.error f, t) := by
  obtain ⟨start, segments⟩ := p
  obtain ⟨above, name, rfl⟩ : ∃ above name, segments = above ++ [name] := by
    rcases List.eq_nil_or_concat segments with rfl | ⟨above, name, rfl⟩
    · exact absurd rfl some
    · exact ⟨above, name, List.concat_eq_append⟩
  have path : (name :: above.reverse).reverse = above ++ [name] := by simp
  have place : directoryPlace ⟨start, above ++ [name]⟩ t = .error f := by
    rw [directoryPlace, placeFor, text]
    rfl
  have none : ¬ isDirectory ⟨start, above ++ [name]⟩ t = true := by
    rw [isDirectory_iff, text]
    rintro ⟨⟨⟩, -⟩
  unfold makeDirectories
  dsimp only
  rw [List.reverse_append, List.reverse_singleton, List.singleton_append, run_makeDirectoriesFrom,
    path, place]
  rcases eq_of_checkText text with rfl | ⟨place, rfl⟩
  · exact if_neg none
  · exact if_neg none

theorem opens_of_makeDirectories (closed : t.IsClosed)
    (begun : t.find? (t.startOf p) = some .directory) (some : p.segments ≠ [])
    (h : ((makeDirectories p).run t).1 = .ok ()) :
    checkText p.text = .ok () ∧ ((makeDirectories p).run t).2.Opens (t.startOf p) p.segments := by
  have opens := (grows_makeDirectoriesFrom p.start p.segments.reverse t).2 closed begun h
    (by simpa using some)
  rw [List.reverse_reverse] at opens
  exact opens

/-- A path with a name that is too long leads to no directory. -/
theorem isDirectory_of_long {s : String} (mem : s ∈ p.segments) (long : ¬ IsShort s) :
    ¬ isDirectory p t = true := by
  rw [isDirectory_iff]
  rintro ⟨-, reached⟩
  exact long ((of_walk reached.walked).2 s mem)

/-- A directory has no place if the way to it ends with a problem. -/
theorem directoryPlace_of_walk (text : checkText p.text = .ok ()) {above : List String}
    {name : String} (split : p.segments = above ++ [name]) {problem : FileProblem}
    (walked : t.walk (t.startOf p) above = .error problem) :
    directoryPlace p t = .error (problemAt p problem) := by
  rw [directoryPlace, placeFor, text]
  show Except.mapError _ (t.freePlace p _ _) = _
  rw [freePlace, newPlace_concat split, walked]
  rfl

/-! #### In a directory that is there -/

section Above

variable (text : checkText p.text = .ok ()) {above : List String} {name : String}
  (split : p.segments = above ++ [name]) (opens : t.Opens (t.startOf p) above)

include text split opens

/-- A directory has no place if its name is too long. -/
theorem directoryPlace_of_long (long : ¬ IsShort name) :
    directoryPlace p t = .error (problemAt p .nameTooLong) := by
  have down : name ≠ ".." := by
    rintro rfl
    exact long (by decide)
  rw [directoryPlace, placeFor, text]
  show Except.mapError _ (t.freePlace p _ _) = _
  rw [freePlace, newPlace_concat split, walk_of_opens opens]
  simp only [bind, Except.bind, inDirectory, opens.directory, if_neg down,
    if_pos (Nat.not_le.mp long)]
  rfl

variable (closed : t.IsClosed)
  (clear : ∀ c, t.find? (along (t.startOf p) p.segments) ≠ some (.file c))

include closed clear

/-- A directory has a place or is there already, unless a file is in the way. -/
theorem directoryPlace_or_isDirectory (short : IsShort name) :
    (∃ l, directoryPlace p t = .ok l) ∨
      directoryPlace p t = .error (problemAt p .alreadyExists) ∧ isDirectory p t = true := by
  have place : directoryPlace p t =
      (t.freePlace p (fun _ => true) .alreadyExists).mapError (problemAt p) := by
    rw [directoryPlace, placeFor, text]
    rfl
  rw [place, freePlace, newPlace_of_opens split opens short]
  by_cases up : name = ".."
  · right
    rw [if_pos up]
    refine ⟨rfl, isDirectory_of_opens text ?_⟩
    rw [split, opens_append_iff, opens_cons_iff, opens_nil_iff, next, if_pos up]
    exact ⟨opens, opens.directory, short, closed.directory_dropLast opens.directory⟩
  · rw [if_neg up]
    dsimp only [bind, Except.bind]
    cases there : t.find? (along (t.startOf p) p.segments) with
    | none => exact .inl ⟨_, rfl⟩
    | some e =>
      cases e with
      | file c => exact absurd there (clear c)
      | directory =>
        refine .inr ⟨rfl, isDirectory_of_opens text ?_⟩
        rw [split, along_append] at there
        rw [split, opens_append_iff, opens_cons_iff, opens_nil_iff]
        exact ⟨opens, opens.directory, short, there⟩

/-- A directory has a place, is there already, or has a name that is too long. -/
theorem directoryPlace_cases : (∃ l, directoryPlace p t = .ok l) ∨
    directoryPlace p t = .error (problemAt p .alreadyExists) ∧ isDirectory p t = true ∨
    directoryPlace p t = .error (problemAt p .nameTooLong) ∧ ¬ IsShort name := by
  by_cases short : IsShort name
  · rcases directoryPlace_or_isDirectory text split opens closed clear short with place | there
    · exact .inl place
    · exact .inr (.inl there)
  · exact .inr (.inr ⟨directoryPlace_of_long text split opens short, short⟩)

/-- A directory is made, unless a file is in the way or its name is too long. -/
theorem makeDirectory_cases : ((makeDirectory p).run t).1 = .ok () ∨
    (∃ place, ((makeDirectory p).run t).1 = .error (.file .nameTooLong place)) ∧
    ¬ IsShort name := by
  rw [run_makeDirectory]
  rcases directoryPlace_cases text split opens closed clear with
    ⟨l, place⟩ | ⟨place, directory⟩ | ⟨place, long⟩
  · rw [place]
    exact .inl rfl
  · rw [place]
    dsimp only
    rw [if_pos directory]
    exact .inl rfl
  · rw [place]
    dsimp only
    rw [if_neg (isDirectory_of_long (by simp [split]) long)]
    exact .inr ⟨⟨_, rfl⟩, long⟩

theorem directoryPlace_ne_notFound (place : String) :
    directoryPlace p t ≠ .error (.file .notFound place) := by
  intro missing
  rcases directoryPlace_cases text split opens closed clear with ⟨l, h⟩ | ⟨h, -⟩ | ⟨h, -⟩
  · cases h.symm.trans missing
  · cases h.symm.trans missing
  · cases h.symm.trans missing

end Above

/-- Directories are made from the last one up only as long as the one above is missing. -/
theorem run_makeDirectoriesFrom_of_ne {start : PathStart} {name : String} {above : List String}
    (there : ∀ place, directoryPlace ⟨start, (name :: above).reverse⟩ t ≠
      .error (.file .notFound place)) :
    (makeDirectoriesFrom start (name :: above)).run t =
      (makeDirectory ⟨start, (name :: above).reverse⟩).run t := by
  rw [run_makeDirectoriesFrom, run_makeDirectory]
  split
  · rename_i place
    rw [place]
  · rename_i missing
    exact absurd missing (there _)
  · rename_i fails
    rw [fails]

/-- A directory is made with those above it, if no file is in the way, unless a name is too long. -/
theorem makeDirectories_cases (closed : t.IsClosed)
    (begun : t.find? (t.startOf p) = some .directory) (text : checkText p.text = .ok ())
    (clear : ∀ k, Passes (t.startOf p) p.segments k → ∀ c, t.find? k ≠ some (.file c)) :
    ((makeDirectories p).run t).1 = .ok () ∨
      (∃ place, ((makeDirectories p).run t).1 = .error (.file .nameTooLong place)) ∧
      ∃ s ∈ p.segments, ¬ IsShort s := by
  obtain ⟨start, segments⟩ := p
  unfold makeDirectories
  dsimp only at *
  induction segments using List.reverseRecOn with
  | nil => exact .inl rfl
  | append_singleton above name ih =>
    have front : above <+: above ++ [name] := List.prefix_append _ _
    have before := ih begun (checkText_of_append text) fun k passes => clear k (passes.of_prefix front)
    have last : name ∈ above ++ [name] := by simp
    have path : (name :: above.reverse).reverse = above ++ [name] := by simp
    rw [List.reverse_append, List.reverse_singleton, List.singleton_append]
    rcases walk_cases closed begun (fun q behind => clear _ ⟨q, behind.trans front, rfl⟩) with
      opens | missing | ⟨tooLong, s, mem, long⟩
    · have file := clear _ (passes_along _ _)
      rw [run_makeDirectoriesFrom_of_ne (path ▸ directoryPlace_ne_notFound text rfl opens closed file),
        path]
      exact (makeDirectory_cases text rfl opens closed file).imp_right fun ⟨fails, long⟩ =>
        ⟨fails, name, last, long⟩
    · -- a directory above is missing: it is made first
      rw [run_makeDirectoriesFrom, path,
        directoryPlace_of_walk (p := ⟨start, above ++ [name]⟩) text rfl missing]
      dsimp only [problemAt]
      rw [run_bind]
      obtain ⟨grown, opens⟩ := grows_makeDirectoriesFrom start above.reverse t
      cases run : (makeDirectoriesFrom start above.reverse).run t with
      | mk result u =>
        rw [run] at before grown opens
        rcases before with before | ⟨⟨place, before⟩, s, mem, long⟩
        · obtain rfl : result = .ok () := before
          rw [List.reverse_reverse] at grown opens
          have some : above.reverse ≠ [] := by
            intro none
            rw [List.reverse_eq_nil_iff.mp none] at missing
            cases missing
          have same : u.startOf ⟨start, above ++ [name]⟩ = t.startOf ⟨start, above ++ [name]⟩ :=
            grown.startOf _
          refine (makeDirectory_cases text rfl ?_ (grown.closed closed) ?_).imp_right
            fun ⟨fails, long⟩ => ⟨fails, name, last, long⟩
          · rw [same]
            exact (opens closed begun rfl some).2
          · intro c
            rw [same, ne_eq, grown.file_iff]
            exact clear _ (passes_along _ _) c
        · obtain rfl : result = .error (.file .nameTooLong place) := before
          exact .inr ⟨⟨place, rfl⟩, s, List.mem_append_left _ mem, long⟩
    · rw [run_makeDirectoriesFrom, path,
        directoryPlace_of_walk (p := ⟨start, above ++ [name]⟩) text rfl tooLong]
      dsimp only [problemAt]
      rw [if_neg (isDirectory_of_long (List.mem_append_left _ mem) long)]
      exact .inr ⟨⟨_, rfl⟩, s, List.mem_append_left _ mem, long⟩

/-- A directory is made with those above it, if no file is in the way and no name is too long. -/
theorem makeDirectories_eq_ok (closed : t.IsClosed)
    (begun : t.find? (t.startOf p) = some .directory) (text : checkText p.text = .ok ())
    (short : ∀ s ∈ p.segments, IsShort s)
    (clear : ∀ k, Passes (t.startOf p) p.segments k → ∀ c, t.find? k ≠ some (.file c)) :
    ((makeDirectories p).run t).1 = .ok () := by
  refine (makeDirectories_cases closed begun text clear).resolve_right ?_
  rintro ⟨-, s, mem, long⟩
  exact long (short s mem)

/-- If a directory cannot be made, only some of those above it are. -/
theorem grows_of_makeDirectories_eq_error {f : Fault}
    (fails : ((makeDirectories p).run t).1 = .error f) :
    Grows t ((makeDirectories p).run t).2 (Passes (t.startOf p) p.segments.dropLast) := by
  obtain ⟨start, segments⟩ := p
  unfold makeDirectories at *
  dsimp only at *
  rcases List.eq_nil_or_concat segments with rfl | ⟨above, name, rfl⟩
  · cases fails
  · rw [List.concat_eq_append] at fails ⊢
    rw [List.dropLast_concat]
    rw [List.reverse_append, List.reverse_singleton, List.singleton_append,
      run_makeDirectoriesFrom] at fails ⊢
    split at fails
    · cases fails
    · have grown := (grows_makeDirectoriesFrom start above.reverse t).1
      rw [List.reverse_reverse] at grown
      rw [run_bind] at fails ⊢
      cases run : (makeDirectoriesFrom start above.reverse).run t with
      | mk result u =>
        rw [run] at fails grown
        cases result with
        | error e => exact grown
        | ok _ =>
          dsimp only at fails ⊢
          rw [run_makeDirectory] at fails ⊢
          split at fails
          · cases fails
          · split at fails
            · cases fails
            · rename_i other
              rw [if_neg other]
              exact grown
    · split at fails
      · cases fails
      · rename_i other
        rw [if_neg other]
        exact .refl _ _

/-! ### Writing files -/

theorem run_writeFile (p : FilePath) (content : ByteArray) (t : FileTree) :
    (writeFile p content).run t =
      match writePlace p t with
      | .ok l => (.ok (), t.set l (.file content))
      | .error f => (.error f, t) := by
  rw [writeFile, run_get_bind, change_eq (addFile_eq t p content), ← writePlace]
  cases writePlace p t <;> rfl

theorem of_writePlace (h : writePlace p t = .ok l) :
    t.LeadsTo p l ∧ t.find? l ≠ some .directory := by
  obtain ⟨-, leads, free⟩ := of_placeFor h
  refine ⟨leads, fun directory => ?_⟩
  rw [directory] at free
  cases free

/-- A file can be written in a directory that is there, where no directory stands. -/
theorem writePlace_of_opens (text : checkText p.text = .ok ()) {above : List String} {name : String}
    (split : p.segments = above ++ [name]) (down : name ≠ "..") (short : IsShort name)
    (opens : t.Opens (t.startOf p) above)
    (free : t.find? (along (t.startOf p) p.segments) ≠ some .directory) :
    writePlace p t = .ok (along (t.startOf p) p.segments) := by
  rw [writePlace, placeFor, text]
  show Except.mapError _ (t.freePlace p _ _) = _
  rw [freePlace, newPlace_of_opens split opens short, if_neg down]
  dsimp only [bind, Except.bind]
  cases found : t.find? (along (t.startOf p) p.segments) with
  | none => rfl
  | some e =>
    cases e with
    | directory => exact absurd found free
    | file c => rfl

end FileAction

/-! ### What paths depend on -/

namespace FileTree

variable {t u : FileTree} {p : FilePath}

/-- The place of the last name of a path depends on the places on the way alone. -/
theorem newPlace_congr (start : t.startOf p = u.startOf p)
    (h : ∀ k, Passes (t.startOf p) p.segments k → t.find? k = u.find? k) :
    t.newPlace p = u.newPlace p := by
  rcases List.eq_nil_or_concat p.segments with top | ⟨front, name, split⟩
  · unfold newPlace
    rw [top]
    rfl
  rw [List.concat_eq_append] at split
  have on : ∀ q, q <+: front → t.find? (along (t.startOf p) q) = u.find? (along (t.startOf p) q) := by
    intro q before
    refine h _ ⟨q, ?_, rfl⟩
    rw [split]
    exact before.trans (List.prefix_append _ _)
  rw [newPlace_concat split, newPlace_concat split, ← start, walk_congr on]
  cases walked : u.walk (t.startOf p) front with
  | error problem => rfl
  | ok l =>
    have same : t.find? l = u.find? l := by
      rw [(of_walk walked).1]
      exact on front (List.prefix_refl _)
    dsimp only [bind, Except.bind]
    rw [inDirectory, inDirectory, above, above, same]

/-- What a path leads to depends on the places on the way alone. -/
theorem entry_congr (start : t.startOf p = u.startOf p)
    (h : ∀ k, Passes (t.startOf p) p.segments k → t.find? k = u.find? k) :
    t.entry p = u.entry p := by
  unfold entry
  rw [← start, walk_congr fun q before => h _ ⟨q, before, rfl⟩]
  cases walked : u.walk (t.startOf p) p.segments with
  | error problem => rfl
  | ok l =>
    dsimp only [bind, Except.bind]
    rw [(of_walk walked).1, h _ (passes_along _ _)]

/-- The place for something new depends on the places on the way alone. -/
theorem freePlace_congr (start : t.startOf p = u.startOf p)
    (h : ∀ k, Passes (t.startOf p) p.segments k → t.find? k = u.find? k)
    (inTheWay : Entry → Bool) (problem : FileProblem) :
    t.freePlace p inTheWay problem = u.freePlace p inTheWay problem := by
  unfold freePlace
  rw [newPlace_congr start h]
  cases place : u.newPlace p with
  | error problem => rfl
  | ok place' =>
    cases place' with
    | none => rfl
    | some l =>
      obtain ⟨rfl, -⟩ := leadsTo_of_newPlace place
      dsimp only [bind, Except.bind]
      rw [h _ (start ▸ passes_along _ _)]

/-- Two trees with the given working directory have the same at the given places. -/
structure Agree (here : Location) (places : Location → Prop) (t u : FileTree) : Prop where
  /-- The working directory of the one tree. -/
  left : t.here = here
  /-- The working directory of the other tree. -/
  right : u.here = here
  /-- The trees have the same at the places. -/
  same : ∀ k, places k → t.find? k = u.find? k

/-- Trees that agree still do so when a place is taken in both. -/
theorem Agree.set {here l : Location} {places : Location → Prop} (h : Agree here places t u)
    (some : l ≠ []) (e : Entry) : Agree here places (t.set l e) (u.set l e) := by
  refine ⟨h.left, h.right, fun k place => ?_⟩
  rw [find?_set some, find?_set some, h.same k place]

/-- Trees that agree still do so when all below a place is removed in both. -/
theorem Agree.clear {here : Location} {places : Location → Prop} (h : Agree here places t u)
    (l : Location) : Agree here places (t.clear l) (u.clear l) := by
  refine ⟨h.left, h.right, fun k place => ?_⟩
  rw [find?_clear, find?_clear, h.same k place]

/-- Trees that agree still do so when a place is removed in both with all below it. -/
theorem Agree.remove {here l : Location} {places : Location → Prop} (h : Agree here places t u)
    (some : l ≠ []) : Agree here places (t.remove l) (u.remove l) := by
  refine ⟨h.left, h.right, fun k place => ?_⟩
  rw [find?_remove some, find?_remove some, h.same k place]

/-- The place that the path starts at, given the working directory. -/
def beginning (here : Location) (p : FilePath) : Location :=
  match p.start with
  | .here => here
  | _ => []

/-- Paths start at their beginning. -/
theorem startOf_eq (t : FileTree) (p : FilePath) : t.startOf p = beginning t.here p := rfl

/-- Trees that agree on the way of a path have the same there. -/
theorem Agree.on_way {here : Location} {places : Location → Prop} (h : Agree here places t u)
    (passes : ∀ k, Passes (beginning here p) p.segments k → places k) :
    t.startOf p = u.startOf p ∧ ∀ k, Passes (t.startOf p) p.segments k → t.find? k = u.find? k := by
  rw [startOf_eq, startOf_eq, h.left, h.right]
  exact ⟨rfl, fun k on => h.same k (passes k on)⟩

end FileTree

/-! ### What actions depend on -/

namespace FileAction

open FileTree

variable {t u : FileTree} {p : FilePath} {here : Location} {places : Location → Prop}
  {α β : Type}

/-- From trees that agree, the action gives the same and leaves trees that agree. -/
def Alike (here : Location) (places : Location → Prop) (a : FileAction α) : Prop :=
  ∀ t u, Agree here places t u →
    (a.run t).1 = (a.run u).1 ∧ Agree here places (a.run t).2 (a.run u).2

theorem Alike.pure (v : α) : Alike here places (pure v) := fun _ _ agree => ⟨rfl, agree⟩

theorem Alike.bind {a : FileAction α} {f : α → FileAction β} (first : Alike here places a)
    (second : ∀ v, Alike here places (f v)) : Alike here places (a >>= f) := by
  intro t u agree
  obtain ⟨result, trees⟩ := first t u agree
  rw [run_bind, run_bind]
  cases left : a.run t with
  | mk r t' =>
    cases right : a.run u with
    | mk s u' =>
      rw [left, right] at result trees
      obtain rfl : r = s := result
      cases r with
      | error f => exact ⟨rfl, trees⟩
      | ok v => exact second v t' u' trees

section Path

variable (passes : ∀ k, Passes (beginning here p) p.segments k → places k)

include passes

theorem placeFor_congr (h : Agree here places t u) (inTheWay : Entry → Bool)
    (problem : FileProblem) : placeFor inTheWay problem p t = placeFor inTheWay problem p u := by
  obtain ⟨start, same⟩ := h.on_way passes
  rw [placeFor, placeFor, freePlace_congr start same]

theorem directoryPlace_congr (h : Agree here places t u) :
    directoryPlace p t = directoryPlace p u := placeFor_congr passes h _ _

theorem look_congr (h : Agree here places t u) : look p t = look p u := by
  obtain ⟨start, same⟩ := h.on_way passes
  rw [look, look, entry_congr start same]

theorem isDirectory_congr (h : Agree here places t u) : isDirectory p t = isDirectory p u := by
  rw [isDirectory, isDirectory, look_congr passes h]

theorem alike_makeDirectory : Alike here places (makeDirectory p) := by
  intro t u agree
  rw [run_makeDirectory, run_makeDirectory, directoryPlace_congr passes agree,
    isDirectory_congr passes agree]
  cases place : directoryPlace p u with
  | ok l => exact ⟨rfl, agree.set (of_directoryPlace place).2.1.ne_nil _⟩
  | error f =>
    dsimp only
    split
    · exact ⟨rfl, agree⟩
    · exact ⟨rfl, agree⟩

theorem alike_makeDirectories : Alike here places (makeDirectories p) := by
  obtain ⟨start, segments⟩ := p
  unfold makeDirectories
  dsimp only at *
  induction segments using List.reverseRecOn with
  | nil => exact Alike.pure ()
  | append_singleton above name ih =>
    have front : above <+: above ++ [name] := List.prefix_append _ _
    have before := ih fun k on => passes k (on.of_prefix front)
    have last := alike_makeDirectory (p := ⟨start, above ++ [name]⟩) passes
    intro t u agree
    rw [List.reverse_append, List.reverse_singleton, List.singleton_append,
      run_makeDirectoriesFrom, run_makeDirectoriesFrom]
    have path : (name :: above.reverse).reverse = above ++ [name] := by simp
    rw [path, directoryPlace_congr (p := ⟨start, above ++ [name]⟩) passes agree,
      isDirectory_congr (p := ⟨start, above ++ [name]⟩) passes agree]
    split
    · rename_i l place
      exact ⟨rfl, agree.set (of_directoryPlace place).2.1.ne_nil _⟩
    · exact before.bind (fun _ => last) t u agree
    · split
      · exact ⟨rfl, agree⟩
      · exact ⟨rfl, agree⟩

theorem alike_writeFile (content : ByteArray) : Alike here places (writeFile p content) := by
  intro t u agree
  have place : writePlace p t = writePlace p u := placeFor_congr passes agree _ _
  rw [run_writeFile, run_writeFile, place]
  cases found : writePlace p u with
  | ok l => exact ⟨rfl, agree.set (of_writePlace found).1.ne_nil _⟩
  | error f => exact ⟨rfl, agree⟩

end Path

end FileAction

/-! ### Faults of actions -/

/-- If the result is a fault, the fault has the property. -/
def FaultsSatisfy {α : Type} (P : Fault → Prop) (r : Except Fault α) : Prop :=
  ∀ f, r = .error f → P f

namespace FaultsSatisfy

variable {α β : Type} {P : Fault → Prop} {r : Except Fault α} {k : α → Except Fault β}

theorem ok (v : α) : FaultsSatisfy P (.ok v : Except Fault α) := by
  intro f h
  cases h

theorem error {f : Fault} (h : P f) : FaultsSatisfy P (.error f : Except Fault α) := by
  intro _ same
  rwa [← Except.error.inj same]

theorem bind_of_ok (first : FaultsSatisfy P r) (rest : ∀ v, r = .ok v → FaultsSatisfy P (k v)) :
    FaultsSatisfy P (r >>= k) := by
  cases r with
  | ok v => exact rest v rfl
  | error f => exact error (first f rfl)

theorem bind (first : FaultsSatisfy P r) (rest : ∀ v, FaultsSatisfy P (k v)) :
    FaultsSatisfy P (r >>= k) :=
  first.bind_of_ok fun v _ => rest v

theorem map {f : α → β} (h : FaultsSatisfy P r) : FaultsSatisfy P (r.map f) := by
  cases r with
  | ok v => exact ok (f v)
  | error e => exact error (h e rfl)

theorem mapM {vs : List α} (h : ∀ v ∈ vs, FaultsSatisfy P (k v)) : FaultsSatisfy P (vs.mapM k) := by
  induction vs with
  | nil => exact ok []
  | cons v vs ih =>
    obtain ⟨first, others⟩ := List.forall_mem_cons.mp h
    rw [List.mapM_cons]
    exact first.bind fun _ => (ih others).bind fun _ => ok _

open FileAction

variable {a : FileAction α} {next : α → FileAction β} {t : FileTree} {p : FilePath}

theorem run_bind (first : FaultsSatisfy P (a.run t).1)
    (rest : ∀ v u, FaultsSatisfy P ((next v).run u).1) :
    FaultsSatisfy P ((a >>= next).run t).1 := by
  rw [FileAction.run_bind]
  cases run : a.run t with
  | mk result u =>
    rw [run] at first
    cases result with
    | ok v => exact rest v u
    | error f => exact error (first f rfl)

theorem makeDirectory (place : FaultsSatisfy P (directoryPlace p t)) :
    FaultsSatisfy P ((FileAction.makeDirectory p).run t).1 := by
  rw [run_makeDirectory]
  cases found : directoryPlace p t with
  | ok l => exact ok ()
  | error f =>
    dsimp only
    split
    · exact ok ()
    · exact error (place f found)

theorem makeDirectoriesFrom {start : PathStart} {segments : List String}
    (place : ∀ front behind, segments.reverse = front ++ behind →
      ∀ t, FaultsSatisfy P (directoryPlace ⟨start, front⟩ t)) (t : FileTree) :
    FaultsSatisfy P ((FileAction.makeDirectoriesFrom start segments).run t).1 := by
  induction segments generalizing t with
  | nil => exact ok ()
  | cons name above ih =>
    have whole := place (name :: above).reverse [] (by simp)
    rw [run_makeDirectoriesFrom]
    split
    · exact ok ()
    · -- the directory above is made first
      refine run_bind (ih (fun front behind split => place front (behind ++ [name]) ?_) t)
        fun _ u => makeDirectory (whole u)
      rw [List.reverse_cons, split, List.append_assoc]
    · rename_i f _ found
      split
      · exact ok ()
      · exact error (whole t f found)

theorem makeDirectories (place : ∀ front behind, p.segments = front ++ behind →
      ∀ t, FaultsSatisfy P (directoryPlace ⟨p.start, front⟩ t)) (t : FileTree) :
    FaultsSatisfy P ((FileAction.makeDirectories p).run t).1 := by
  refine makeDirectoriesFrom ?_ t
  rwa [List.reverse_reverse]

end FaultsSatisfy

end PacketSmith
