import Mathlib.Data.List.Induction
import PacketSmith.Proofs.OutputPaths

/-!
# Places in a file tree

What the operations on a file tree do, told place by place. In a closed tree (`IsClosed`) every place
lies in a directory, and all operations keep it so.
-/

namespace PacketSmith

namespace FileTree

variable {t u : FileTree} {l k : Location} {e : Entry}

/-! ### What stands at a place -/

/-- At the top stands a directory. -/
@[simp] theorem find?_nil (t : FileTree) : t.find? [] = some .directory := rfl

/-- Below the top, the entries tell what stands at a place. -/
theorem find?_of_ne_nil (h : k ≠ []) : t.find? k = t.entries.lookup k := by
  rw [find?, if_neg (by simpa using h)]

/-- Another place is looked up behind an entry. -/
theorem lookup_cons_of_ne {j : Location} (h : k ≠ j) (f : Entry)
    (entries : List (Location × Entry)) :
    List.lookup k ((j, f) :: entries) = List.lookup k entries := by
  rw [List.lookup_cons, beq_false_of_ne h]

/-- What stands at places once one of them is taken. -/
theorem lookup_place (l k : Location) (e : Entry) (entries : List (Location × Entry)) :
    (place l e entries).lookup k = if k = l then some e else entries.lookup k := by
  induction entries with
  | nil =>
    rw [place]
    by_cases same : k = l
    · simp [same]
    · rw [lookup_cons_of_ne same, if_neg same]
  | cons entry rest ih =>
    obtain ⟨j, f⟩ := entry
    rw [place]
    by_cases here : j = l
    · subst here
      rw [if_pos (by simp)]
      by_cases same : k = j
      · simp [same]
      · rw [lookup_cons_of_ne same, lookup_cons_of_ne same, if_neg same]
    · rw [if_neg (by simpa using here)]
      by_cases same : k = j
      · subst same
        simp [here]
      · rw [lookup_cons_of_ne same, lookup_cons_of_ne same, ih]

/-- What stands at places once one of them is taken. -/
theorem find?_set (h : l ≠ []) (k : Location) :
    (t.set l e).find? k = if k = l then some e else t.find? k := by
  by_cases top : k = []
  · subst top
    rw [if_neg h.symm]
    rfl
  · rw [find?_of_ne_nil top, find?_of_ne_nil top, set, lookup_place]

/-- What is found among the entries that are kept. -/
theorem lookup_filter (keeps : Location → Bool) (k : Location) (entries : List (Location × Entry)) :
    (entries.filter fun (j, _) => keeps j).lookup k =
      if keeps k then entries.lookup k else none := by
  induction entries with
  | nil => simp
  | cons entry rest ih =>
    obtain ⟨j, f⟩ := entry
    by_cases kept : keeps j = true
    · rw [List.filter_cons_of_pos (by simpa using kept)]
      by_cases same : k = j
      · subst same
        simp [kept]
      · rw [lookup_cons_of_ne same, lookup_cons_of_ne same, ih]
    · rw [List.filter_cons_of_neg (by simpa using kept), ih]
      by_cases same : k = j
      · subst same
        rw [if_neg kept, if_neg kept]
      · rw [lookup_cons_of_ne same]

/-- The names lead down to a place, or not. -/
theorem isPrefixOf_eq (l k : Location) : l.isPrefixOf k = decide (l <+: k) := by
  rw [Bool.eq_iff_iff, List.isPrefixOf_iff_prefix, decide_eq_true_iff]

/-- What stands at places once one of them is removed with all below it. -/
theorem find?_remove (h : l ≠ []) (k : Location) :
    (t.remove l).find? k = if l <+: k then none else t.find? k := by
  by_cases top : k = []
  · subst top
    rw [if_neg (by simpa using h)]
    rfl
  · rw [find?_of_ne_nil top, find?_of_ne_nil top, remove]
    dsimp only
    rw [lookup_filter fun j => !l.isPrefixOf j, isPrefixOf_eq]
    by_cases gone : l <+: k <;> simp [gone]

/-- What stands at places once all below one of them is removed. -/
theorem find?_clear (l k : Location) :
    (t.clear l).find? k = if l <+: k ∧ k ≠ l then none else t.find? k := by
  by_cases top : k = []
  · subst top
    rw [if_neg]
    · rfl
    · rintro ⟨below, other⟩
      exact other (List.prefix_nil.mp below).symm
  · rw [find?_of_ne_nil top, find?_of_ne_nil top, clear]
    dsimp only
    rw [lookup_filter fun j => !l.isPrefixOf j || j == l, isPrefixOf_eq]
    by_cases gone : l <+: k <;> by_cases same : k = l <;> simp [gone, same]

/-- A place that is cleared can be removed as well as before. -/
theorem clear_remove (t : FileTree) (l : Location) : (t.clear l).remove l = t.remove l := by
  unfold clear remove
  dsimp only
  rw [List.filter_filter]
  congr 2
  funext entry
  cases l.isPrefixOf entry.1 <;> simp

/-- The content of the file at a place, if one stands there. -/
def content? (t : FileTree) (l : Location) : Option ByteArray :=
  match t.find? l with
  | some (.file c) => some c
  | _ => none

/-- A place has a content if a file with that content stands there. -/
theorem content?_eq_some_iff {c : ByteArray} :
    t.content? l = some c ↔ t.find? l = some (.file c) := by
  unfold content?
  split
  · simp_all
  · rename_i other
    simpa using other c

/-- The contents of files once one of them is written. -/
theorem content?_set (h : l ≠ []) (k : Location) (c : ByteArray) :
    (t.set l (.file c)).content? k = if k = l then some c else t.content? k := by
  unfold content?
  rw [find?_set h]
  by_cases same : k = l
  · rw [if_pos same, if_pos same]
  · rw [if_neg same, if_neg same]

/-! ### Closed trees -/

/-- Every place lies in a directory. -/
def IsClosed (t : FileTree) : Prop :=
  ∀ (k : Location) (name : String), t.find? (k ++ [name]) ≠ none → t.find? k = some .directory

/-- A tree is closed if every entry is in a directory. -/
theorem isClosed_of_forall (h : ∀ e ∈ t.entries, t.find? e.1.dropLast = some .directory) :
    t.IsClosed := by
  intro k name there
  rw [find?_of_ne_nil (by simp)] at there
  obtain ⟨e, found⟩ := Option.ne_none_iff_exists'.mp there
  obtain ⟨before, after, entries, -⟩ := List.lookup_eq_some_iff.mp found
  have parent := h (k ++ [name], e) (by rw [entries]; simp)
  rwa [List.dropLast_concat] at parent

/-- All places above one where something stands are directories. -/
theorem IsClosed.directory_of_prefix (closed : t.IsClosed) {j : Location} (above : k <+: j)
    (other : k ≠ j) (there : t.find? j ≠ none) : t.find? k = some .directory := by
  obtain ⟨down, rfl⟩ := above
  induction down using List.reverseRecOn with
  | nil => simp at other
  | append_singleton down name ih =>
    have parent : t.find? (k ++ down) = some .directory := by
      apply closed _ name
      simpa using there
    by_cases last : down = []
    · simpa [last] using parent
    · exact ih (by simpa using last) (by simp [parent])

/-- Nothing is below a place where nothing is. -/
theorem IsClosed.find?_eq_none_of_prefix (closed : t.IsClosed) {j : Location} (above : k <+: j)
    (missing : t.find? k = none) : t.find? j = none := by
  by_contra there
  by_cases same : k = j
  · exact there (same ▸ missing)
  · cases missing.symm.trans (closed.directory_of_prefix above same there)

/-- The place above a directory is a directory. -/
theorem IsClosed.directory_dropLast (closed : t.IsClosed) (h : t.find? l = some .directory) :
    t.find? l.dropLast = some .directory := by
  rcases List.eq_nil_or_concat l with rfl | ⟨above, name, rfl⟩
  · rfl
  · rw [List.concat_eq_append] at h ⊢
    rw [List.dropLast_concat]
    exact closed above name (by simp [h])

/-- A tree stays closed when something takes a place in a directory where no directory stood. -/
theorem IsClosed.set (closed : t.IsClosed) (parent : t.find? l = some .directory) {name : String}
    (free : t.find? (l ++ [name]) ≠ some .directory) (e : Entry) :
    (t.set (l ++ [name]) e).IsClosed := by
  intro k last there
  rw [find?_set (by simp)] at there ⊢
  by_cases taken : k ++ [last] = l ++ [name]
  · obtain rfl : k = l := (List.append_inj' taken rfl).1
    rw [if_neg (by simp), parent]
  · rw [if_neg taken] at there
    have above := closed k last there
    rw [if_neg, above]
    rintro rfl
    exact free above

/-- A tree stays closed when a place is removed with all below it. -/
theorem IsClosed.remove (closed : t.IsClosed) (h : l ≠ []) : (t.remove l).IsClosed := by
  intro k name there
  rw [find?_remove h] at there ⊢
  by_cases gone : l <+: k ++ [name]
  · rw [if_pos gone] at there
    exact absurd rfl there
  · rw [if_neg gone] at there
    rw [if_neg (fun below => gone (below.trans (List.prefix_append k [name]))), closed k name there]

/-! ### Following segments -/

/-- The name is not too long for a file. -/
def IsShort (name : String) : Prop := name.utf8ByteSize ≤ nameLimit

instance (name : String) : Decidable (IsShort name) :=
  inferInstanceAs (Decidable (name.utf8ByteSize ≤ nameLimit))

/-- The place that a segment leads to, whatever stands there. -/
def next (l : Location) (segment : String) : Location :=
  if segment = ".." then l.dropLast else l ++ [segment]

/-- The place that segments lead to, whatever stands on the way. -/
def along (l : Location) (segments : List String) : Location := segments.foldl next l

@[simp] theorem along_nil (l : Location) : along l [] = l := rfl

@[simp] theorem along_cons (l : Location) (s : String) (segments : List String) :
    along l (s :: segments) = along (next l s) segments := rfl

@[simp] theorem along_append (l : Location) (a b : List String) :
    along l (a ++ b) = along (along l a) b := List.foldl_append

/-- Segments without two dots lead down. -/
theorem along_of_down {down : List String} (h : ".." ∉ down) (l : Location) :
    along l down = l ++ down := by
  induction down generalizing l with
  | nil => simp
  | cons s down ih =>
    rw [List.mem_cons, not_or] at h
    rw [along_cons, ih h.2, next, if_neg (Ne.symm h.1), List.append_assoc, List.singleton_append]

/-- The place that a path leads to, whatever stands on the way. -/
def placeOf (t : FileTree) (p : FilePath) : Location := along (t.startOf p) p.segments

/-- Paths lead to the same places in trees with the same working directory. -/
theorem placeOf_congr (here : u.here = t.here) (p : FilePath) : u.placeOf p = t.placeOf p := by
  rw [placeOf, placeOf, startOf, startOf, here]

/-- Segments can be followed: all places on the way are directories, and no name is too long. -/
structure Opens (t : FileTree) (l : Location) (segments : List String) : Prop where
  /-- The places on the way are directories. -/
  directories : ∀ q, q <+: segments → t.find? (along l q) = some .directory
  /-- No name is too long. -/
  short : ∀ s ∈ segments, IsShort s

theorem opens_nil_iff : t.Opens l [] ↔ t.find? l = some .directory :=
  ⟨fun h => h.directories [] (List.prefix_refl _), fun h => ⟨by simpa using h, by simp⟩⟩

theorem opens_cons_iff {s : String} {segments : List String} :
    t.Opens l (s :: segments) ↔
      t.find? l = some .directory ∧ IsShort s ∧ t.Opens (next l s) segments := by
  constructor
  · rintro ⟨directories, short⟩
    obtain ⟨first, others⟩ := List.forall_mem_cons.mp short
    refine ⟨directories [] (List.nil_prefix), first, fun q before => ?_, others⟩
    exact directories (s :: q) (List.cons_prefix_cons.mpr ⟨rfl, before⟩)
  · rintro ⟨here, first, directories, others⟩
    refine ⟨fun q before => ?_, List.forall_mem_cons.mpr ⟨first, others⟩⟩
    cases q with
    | nil => exact here
    | cons r q =>
      obtain ⟨rfl, behind⟩ := List.cons_prefix_cons.mp before
      exact directories q behind

theorem opens_append_iff {a b : List String} :
    t.Opens l (a ++ b) ↔ t.Opens l a ∧ t.Opens (along l a) b := by
  induction a generalizing l with
  | nil =>
    rw [List.nil_append, along_nil, opens_nil_iff]
    exact ⟨fun h => ⟨h.directories [] List.nil_prefix, h⟩, And.right⟩
  | cons s a ih =>
    rw [List.cons_append, opens_cons_iff, opens_cons_iff, along_cons, ih, and_assoc, and_assoc]

/-- The place that segments lead to is a directory if they can be followed. -/
theorem Opens.directory {segments : List String} (h : t.Opens l segments) :
    t.find? (along l segments) = some .directory := h.directories segments (List.prefix_refl _)

/-- A step from a directory. -/
theorem step_of_directory (h : t.find? l = some .directory) (s : String) :
    t.step l s = if s = ".." then .ok l.dropLast
      else if nameLimit < s.utf8ByteSize then .error .nameTooLong
      else if t.find? (l ++ [s]) = none then .error .notFound
      else .ok (l ++ [s]) := by
  rw [step, above, inDirectory, h]
  simp only [beq_iff_eq, gt_iff_lt, Option.isNone_iff_eq_none]
  rfl

/-- A place that something can be looked for in is a directory. -/
theorem directory_of_inDirectory (h : t.inDirectory l = .ok ()) :
    t.find? l = some .directory := by
  unfold inDirectory at h
  split at h
  · assumption
  · cases h
  · cases h

/-- What can be left upwards is no file. -/
theorem of_above {m : Location} (h : t.above l = .ok m) :
    m = l.dropLast ∧ ∀ c, t.find? l ≠ some (.file c) := by
  unfold above at h
  split at h
  · cases h
  · rename_i other
    exact ⟨(Except.ok.inj h).symm, fun c file => other c file⟩

/-- A step is made to the next place, and from no file. A name is looked for in a directory, and is
found there. -/
theorem of_step {m : Location} {s : String} (h : t.step l s = .ok m) :
    IsShort s ∧ m = next l s ∧ (∀ c, t.find? l ≠ some (.file c)) ∧
      (s ≠ ".." → t.find? l = some .directory ∧ t.find? m ≠ none) := by
  by_cases up : s = ".."
  · rw [step, if_pos (by simpa using up)] at h
    obtain ⟨rfl, clear⟩ := of_above h
    rw [next, if_pos up, up]
    exact ⟨by unfold IsShort; decide, rfl, clear, fun down => absurd rfl down⟩
  · rw [step, if_neg (by simpa using up)] at h
    obtain ⟨⟨⟩, directory, h⟩ := exists_of_bind_eq_ok h
    have here := directory_of_inDirectory directory
    rw [next, if_neg up]
    split at h
    · cases h
    · rename_i short
      split at h
      · cases h
      · rename_i there
        obtain rfl := Except.ok.inj h
        exact ⟨Nat.le_of_not_lt short, rfl, by simp [here],
          fun _ => ⟨here, by simpa using there⟩⟩

/-- A step leads to a directory that is there. -/
theorem step_of_directories {s : String} (here : t.find? l = some .directory) (short : IsShort s)
    (there : t.find? (next l s) = some .directory) : t.step l s = .ok (next l s) := by
  rw [step_of_directory here]
  unfold next at there ⊢
  split
  · rfl
  · rename_i down
    rw [if_neg down] at there
    rw [if_neg (Nat.not_lt.mpr short), if_neg (by simp [there])]

/-- A step depends on two places alone. -/
theorem step_congr {s : String} (here : t.find? l = u.find? l)
    (there : t.find? (next l s) = u.find? (next l s)) : t.step l s = u.step l s := by
  unfold step above inDirectory
  rw [here]
  by_cases up : s = ".."
  · simp [up]
  · rw [next, if_neg up] at there
    rw [there]

theorem walk_cons (t : FileTree) (l : Location) (s : String) (segments : List String) :
    t.walk l (s :: segments) = t.step l s >>= fun m => t.walk m segments := rfl

/-- Segments that can be followed lead to their place. -/
theorem walk_of_opens {segments : List String} (h : t.Opens l segments) :
    t.walk l segments = .ok (along l segments) := by
  induction segments generalizing l with
  | nil => rfl
  | cons s segments ih =>
    obtain ⟨here, short, rest⟩ := opens_cons_iff.mp h
    have there := rest.directories [] List.nil_prefix
    rw [walk_cons, step_of_directories here short there]
    exact ih rest

/-- Segments lead to no other place than theirs, and the names among them are not too long. -/
theorem of_walk {segments : List String} {m : Location} (h : t.walk l segments = .ok m) :
    m = along l segments ∧ ∀ s ∈ segments, IsShort s := by
  induction segments generalizing l with
  | nil => exact ⟨(Except.ok.inj h).symm, by simp⟩
  | cons s segments ih =>
    rw [walk_cons] at h
    obtain ⟨n, first, h⟩ := exists_of_bind_eq_ok h
    obtain ⟨short, rfl, -⟩ := of_step first
    obtain ⟨place, others⟩ := ih h
    exact ⟨place, List.forall_mem_cons.mpr ⟨short, others⟩⟩

/-- Segments that lead to no file start at none. -/
theorem not_file_of_walk {segments : List String} {m : Location} (h : t.walk l segments = .ok m)
    (clear : ∀ c, t.find? m ≠ some (.file c)) (c : ByteArray) : t.find? l ≠ some (.file c) := by
  cases segments with
  | nil =>
    obtain rfl := Except.ok.inj h
    exact clear c
  | cons s segments =>
    obtain ⟨n, first, -⟩ := exists_of_bind_eq_ok (walk_cons t l s segments ▸ h)
    exact (of_step first).2.2.1 c

/-- Segments that lead from a directory to no file can be followed: everything on the way is a
directory. -/
theorem opens_of_walk (closed : t.IsClosed) {segments : List String} {m : Location}
    (start : t.find? l = some .directory) (h : t.walk l segments = .ok m)
    (clear : ∀ c, t.find? m ≠ some (.file c)) : t.Opens l segments := by
  induction segments generalizing l with
  | nil => exact opens_nil_iff.mpr start
  | cons s segments ih =>
    rw [walk_cons] at h
    obtain ⟨n, first, h⟩ := exists_of_bind_eq_ok h
    obtain ⟨short, rfl, -, named⟩ := of_step first
    refine opens_cons_iff.mpr ⟨start, short, ih ?_ h⟩
    have file := not_file_of_walk h clear
    by_cases up : s = ".."
    · rw [next, if_pos up]
      exact closed.directory_dropLast start
    · cases found : t.find? (next l s) with
      | none => exact absurd found (named up).2
      | some e =>
        cases e with
        | file c => exact absurd found (file c)
        | directory => rfl

/-- The path can be followed, and leads to no file. -/
structure Reaches (t : FileTree) (p : FilePath) : Prop where
  /-- The segments lead to their place. -/
  walked : t.walk (t.startOf p) p.segments = .ok (t.placeOf p)
  /-- There is no file. -/
  clear : ∀ c, t.find? (t.placeOf p) ≠ some (.file c)

/-- A path that can be followed leads to a directory. -/
theorem reaches_of_opens {p : FilePath} (h : t.Opens (t.startOf p) p.segments) : t.Reaches p :=
  ⟨walk_of_opens h, fun c file => by cases file.symm.trans h.directory⟩

/-- A name at the end of a path that can be followed is that of a directory in a directory. -/
theorem Reaches.directory {p : FilePath} (h : t.Reaches p) {front : List String} {name : String}
    (split : p.segments = front ++ [name]) (down : name ≠ "..") :
    t.find? (t.placeOf p) = some .directory ∧
      t.find? (along (t.startOf p) front) = some .directory := by
  have walked := h.walked
  rw [split, walk, List.foldlM_append] at walked
  obtain ⟨m, first, last⟩ := exists_of_bind_eq_ok walked
  obtain ⟨n, last, same⟩ := exists_of_bind_eq_ok last
  obtain rfl : n = t.placeOf p := Except.ok.inj same
  obtain ⟨rfl, -⟩ := of_walk first
  obtain ⟨-, -, -, named⟩ := of_step last
  obtain ⟨parent, there⟩ := named down
  refine ⟨?_, parent⟩
  cases found : t.find? (t.placeOf p) with
  | none => exact absurd found there
  | some e =>
    cases e with
    | directory => rfl
    | file c => exact absurd found (h.clear c)

/-- The tree is closed, and the path starts at a directory that is not inside the place that it leads
to. -/
structure StartsOutside (t : FileTree) (p : FilePath) : Prop where
  /-- The tree is closed. -/
  closed : t.IsClosed
  /-- The path starts at a directory. -/
  begun : t.find? (t.startOf p) = some .directory
  /-- The path does not start inside its place. -/
  outside : ¬ t.placeOf p <+: t.startOf p

/-- Where segments lead to depends on the places on the way alone. -/
theorem walk_congr {segments : List String}
    (h : ∀ q, q <+: segments → t.find? (along l q) = u.find? (along l q)) :
    t.walk l segments = u.walk l segments := by
  induction segments generalizing l with
  | nil => rfl
  | cons s segments ih =>
    have here : t.find? l = u.find? l := h [] List.nil_prefix
    have rest : ∀ q, q <+: segments →
        t.find? (along (next l s) q) = u.find? (along (next l s) q) :=
      fun q before => h (s :: q) (List.cons_prefix_cons.mpr ⟨rfl, before⟩)
    rw [walk_cons, walk_cons, step_congr here (rest [] List.nil_prefix)]
    cases step : u.step l s with
    | error problem => rfl
    | ok m =>
      obtain ⟨-, rfl, -⟩ := of_step step
      exact ih rest

/-- If no file is in the way, segments can be followed, or something is missing, or a name is too
long. -/
theorem walk_cases (closed : t.IsClosed) {segments : List String}
    (start : t.find? l = some .directory)
    (clear : ∀ q, q <+: segments → ∀ c, t.find? (along l q) ≠ some (.file c)) :
    t.Opens l segments ∨ t.walk l segments = .error .notFound ∨
      t.walk l segments = .error .nameTooLong ∧ ∃ s ∈ segments, ¬ IsShort s := by
  induction segments generalizing l with
  | nil => exact .inl (opens_nil_iff.mpr start)
  | cons s segments ih =>
    have rest : ∀ q, q <+: segments → ∀ c, t.find? (along (next l s) q) ≠ some (.file c) :=
      fun q before => clear (s :: q) (List.cons_prefix_cons.mpr ⟨rfl, before⟩)
    by_cases first : IsShort s
    · cases there : t.find? (next l s) with
      | none =>
        right
        left
        rw [walk_cons, step_of_directory start]
        unfold next at there
        split at there
        · rw [closed.directory_dropLast start] at there
          cases there
        · rename_i down
          rw [if_neg down, if_neg (Nat.not_lt.mpr first), if_pos there]
          rfl
      | some e =>
        cases e with
        | file c => exact absurd there (rest [] List.nil_prefix c)
        | directory =>
          rw [opens_cons_iff, walk_cons, step_of_directories start first there]
          rcases ih there rest with opens | missing | ⟨tooLong, name, mem, long⟩
          · exact .inl ⟨start, first, opens⟩
          · exact .inr (.inl missing)
          · exact .inr (.inr ⟨tooLong, name, List.mem_cons_of_mem _ mem, long⟩)
    · have down : s ≠ ".." := by
        rintro rfl
        exact first (by decide)
      refine .inr (.inr ⟨?_, s, List.mem_cons_self, first⟩)
      rw [walk_cons, step_of_directory start, if_neg down, if_pos (Nat.not_le.mp first)]
      rfl

/-! ### New places -/

/-- The place of the last name of a path, in the directory that the other segments lead to. -/
theorem newPlace_concat {p : FilePath} {front : List String} {name : String}
    (h : p.segments = front ++ [name]) :
    t.newPlace p = (t.walk (t.startOf p) front >>= fun l =>
      if name = ".." then (t.above l).map fun _ => none
      else t.inDirectory l >>= fun _ =>
        if nameLimit < name.utf8ByteSize then .error .nameTooLong
        else .ok (some (l ++ [name]))) := by
  unfold newPlace
  rw [h, List.getLast?_concat, List.dropLast_concat]
  simp only [beq_iff_eq]
  rfl

/-- The path leads to a new place in a directory. -/
structure LeadsTo (t : FileTree) (p : FilePath) (l : Location) : Prop where
  /-- The place is the one that the segments lead to. -/
  place : l = along (t.startOf p) p.segments
  /-- The last segment is a name in a directory that the others lead to. -/
  parent : ∃ front name, p.segments = front ++ [name] ∧ name ≠ ".." ∧ IsShort name ∧
    t.walk (t.startOf p) front = .ok (along (t.startOf p) front) ∧
    t.find? (along (t.startOf p) front) = some .directory

/-- A new place is in a directory that a path leads to. -/
theorem leadsTo_of_newPlace {p : FilePath} (h : t.newPlace p = .ok (some l)) : t.LeadsTo p l := by
  rcases List.eq_nil_or_concat p.segments with top | ⟨front, name, split⟩
  · unfold newPlace at h
    rw [top] at h
    cases h
  rw [List.concat_eq_append] at split
  rw [newPlace_concat split] at h
  obtain ⟨m, walked, h⟩ := exists_of_bind_eq_ok h
  obtain ⟨rfl, -⟩ := of_walk walked
  by_cases up : name = ".."
  · rw [if_pos up] at h
    cases left : t.above (along (t.startOf p) front) with
    | error problem =>
      rw [left] at h
      cases h
    | ok _ =>
      rw [left] at h
      cases h
  rw [if_neg up] at h
  obtain ⟨⟨⟩, directory, h⟩ := exists_of_bind_eq_ok h
  split at h
  · cases h
  · rename_i short
    obtain rfl := Option.some.inj (Except.ok.inj h)
    refine ⟨?_, front, name, split, up, Nat.le_of_not_lt short, walked,
      directory_of_inDirectory directory⟩
    rw [split, along_append, along_cons, next, if_neg up, along_nil]

/-- The new place of a path whose directory is there. -/
theorem newPlace_of_opens {p : FilePath} {front : List String} {name : String}
    (h : p.segments = front ++ [name]) (opens : t.Opens (t.startOf p) front)
    (short : IsShort name) :
    t.newPlace p = .ok (if name = ".." then none else some (along (t.startOf p) p.segments)) := by
  rw [newPlace_concat h, walk_of_opens opens]
  simp only [bind, Except.bind, above, inDirectory, opens.directory]
  by_cases up : name = ".."
  · rw [if_pos up, if_pos up]
    rfl
  · rw [if_neg up, if_neg up, if_neg (Nat.not_lt.mpr short), h, along_append, along_cons, next,
      if_neg up, along_nil]

end FileTree

end PacketSmith
