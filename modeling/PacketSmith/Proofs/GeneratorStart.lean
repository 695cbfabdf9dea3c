import PacketSmith.Proofs.Script.Emission
import PacketSmith.Proofs.WrittenFiles

/-!
# Starting a generator

A generator that is started empties its root if asked to (`emptied`) and makes the directories that
lead there.

* Emptying may fail at its end, if the path leads through a directory in the root: the root then
  stays, with nothing in it (`emptying_cases`).
* Behind the emptying, the tree only grows on the way to the root (`grows_start`), and the root can
  be followed to if the generator starts (`opens_of_start`).
* A root that was there is made again, unless the path leads through it
  (`exists_start_of_isDirectory`).
* What a start gives and changes depends on the way to the root alone (`alike_start`).
-/

namespace PacketSmith

open FileTree

/-! ### Removing trees -/

namespace FileAction

variable {t u : FileTree} {p : FilePath} {here : Location} {places : Location → Prop}

theorem run_removeTree (p : FilePath) (t : FileTree) : (removeTree p).run t =
    match t.walk (t.startOf p) p.segments with
    | .error problem => (.error (problemAt p problem), t)
    | .ok l => match t.find? l with
      | some (.file _) =>
        (.error (.file .notDirectory ("PosixPath(" ++ Text.quoted p.text ++ ")")), t)
      | _ => match (t.clear l).walk (t.startOf p) p.segments with
        | .error problem => (.error (problemAt p problem), t.clear l)
        | .ok k => (.ok (), (t.clear l).remove k) := by
  have start (l : Location) : (t.clear l).startOf p = t.startOf p := rfl
  rw [removeTree, run_get_bind]
  cases t.walk (t.startOf p) p.segments with
  | error problem => rfl
  | ok l =>
    dsimp only
    rw [start]
    cases t.find? l with
    | none => cases (t.clear l).walk (t.startOf p) p.segments <;> rfl
    | some e =>
      cases e with
      | file c => rfl
      | directory => cases (t.clear l).walk (t.startOf p) p.segments <;> rfl

/-- A directory is removed, or it is emptied and stays. -/
theorem removeTree_of_reaches (h : t.Reaches p) :
    (removeTree p).run t = (.ok (), t.remove (t.placeOf p)) ∨
      ∃ e, (removeTree p).run t = (.error e, t.clear (t.placeOf p)) := by
  rw [run_removeTree, h.walked]
  dsimp only
  split
  · rename_i c file
    exact absurd file (h.clear c)
  · cases walked : (t.clear (t.placeOf p)).walk (t.startOf p) p.segments with
    | error problem => exact .inr ⟨_, rfl⟩
    | ok k =>
      obtain ⟨rfl, -⟩ := of_walk walked
      exact .inl (congrArg _ (clear_remove t _))

/-- A directory is removed if the path passes nothing below it. -/
theorem removeTree_of_opens (h : t.Opens (t.startOf p) p.segments)
    (outside : ∀ k, Passes (t.startOf p) p.segments k → t.placeOf p <+: k → k = t.placeOf p) :
    (removeTree p).run t = (.ok (), t.remove (t.placeOf p)) := by
  have opens : (t.clear (t.placeOf p)).Opens (t.startOf p) p.segments := by
    refine ⟨fun q before => ?_, h.short⟩
    rw [find?_clear, if_neg, h.directories q before]
    rintro ⟨below, other⟩
    exact other (outside _ ⟨q, before, rfl⟩ below)
  rw [run_removeTree, walk_of_opens h]
  dsimp only
  rw [h.directory, ← placeOf, walk_of_opens opens]
  exact congrArg _ (clear_remove t _)

/-- Nothing but a directory is removed. -/
theorem exists_removeTree_eq_error (h : ¬ t.Reaches p) :
    ∃ e, (removeTree p).run t = (.error e, t) := by
  rw [run_removeTree]
  cases walked : t.walk (t.startOf p) p.segments with
  | error problem => exact ⟨_, rfl⟩
  | ok l =>
    obtain ⟨rfl, -⟩ := of_walk walked
    dsimp only
    split
    · exact ⟨_, rfl⟩
    · rename_i other
      exact absurd ⟨walked, fun c file => other c file⟩ h

/-- A directory that is emptied and stays makes the tree grow on its way, seen from where it has gone.
-/
theorem grows_clear (h : t.Reaches p) {front : List String} {name : String}
    (split : p.segments = front ++ [name]) (down : name ≠ "..") :
    Grows (t.remove (t.placeOf p)) (t.clear (t.placeOf p)) (Passes (t.startOf p) p.segments) := by
  obtain ⟨directory, parent⟩ := h.directory split down
  have place : t.placeOf p = along (t.startOf p) front ++ [name] := by
    rw [placeOf, split, along_append, along_cons, next, if_neg down, along_nil]
  have some : t.placeOf p ≠ [] := by simp [place]
  refine ⟨rfl, fun closed k last there => ?_, fun k => ?_⟩
  · rw [find?_clear] at there
    split at there
    · exact absurd rfl there
    · rename_i out
      by_cases root : k ++ [last] = t.placeOf p
      · obtain rfl : k = along (t.startOf p) front := (List.append_inj' (root.trans place) rfl).1
        rw [find?_clear, if_neg, parent]
        rintro ⟨below, -⟩
        have longer := below.length_le
        rw [place, List.length_append, List.length_singleton] at longer
        omega
      · have outside : ¬ t.placeOf p <+: k ++ [last] := fun below => out ⟨below, root⟩
        have above := closed k last (by rwa [find?_remove some, if_neg outside])
        rw [find?_remove some] at above
        split at above
        · cases above
        · rename_i other
          rw [find?_clear, if_neg fun below => other below.1, above]
  · rw [find?_clear, find?_remove some]
    by_cases root : k = t.placeOf p
    · subst root
      rw [if_neg (by simp), if_pos (List.prefix_refl _), directory]
      exact .inr ⟨rfl, rfl, passes_along _ _⟩
    · left
      simp only [root, ne_eq, not_false_iff, and_true]

theorem isThere_of_isDirectory (h : isDirectory p t = true) : isThere p t = .ok true := by
  unfold isDirectory at h
  split at h
  · rename_i found
    rw [isThere, found]
  · cases h

theorem checkText_of_isThere (h : isThere p t = .ok true) : checkText p.text = .ok () := by
  unfold isThere at h
  split at h
  · rename_i found
    obtain ⟨⟨⟩, text, -⟩ := exists_of_bind_eq_ok found
    exact text
  · cases h
  · cases h

/-- Nothing is there if a directory on the way is missing, unless a name is too long. -/
theorem isThere_of_vacant (closed : t.IsClosed) (begun : t.find? (t.startOf p) = some .directory)
    (text : checkText p.text = .ok ())
    (clear : ∀ k, Passes (t.startOf p) p.segments k → ∀ c, t.find? k ≠ some (.file c))
    (vacant : t.find? (t.placeOf p) = none) : isThere p t = .ok false ∨
      (∃ place, isThere p t = .error (.file .nameTooLong place)) ∧ ∃ s ∈ p.segments, ¬ IsShort s := by
  have there : ∀ {problem}, t.walk (t.startOf p) p.segments = .error problem →
      look p t = .error (problemAt p problem) := by
    intro problem walked
    rw [look, text]
    show Except.mapError _ (t.entry p) = _
    rw [entry, walked]
    rfl
  rcases walk_cases closed begun (fun q before => clear _ ⟨q, before, rfl⟩) with
    opens | missing | ⟨tooLong, long⟩
  · cases vacant.symm.trans opens.directory
  · rw [isThere, there missing]
    exact .inl rfl
  · rw [isThere, there tooLong]
    exact .inr ⟨⟨_, rfl⟩, long⟩

section Path

variable (passes : ∀ k, Passes (beginning here p) p.segments k → places k)

include passes

theorem isThere_congr (h : Agree here places t u) : isThere p t = isThere p u := by
  rw [isThere, isThere, look_congr passes h]

theorem alike_removeTree (some : along (beginning here p) p.segments ≠ []) :
    Alike here places (removeTree p) := by
  intro t u agree
  obtain ⟨start, same⟩ := agree.on_way passes
  rw [run_removeTree, run_removeTree, walk_congr fun q before => same _ ⟨q, before, rfl⟩, start]
  cases walked : u.walk (u.startOf p) p.segments with
  | error problem => exact ⟨rfl, agree⟩
  | ok l =>
    obtain ⟨rfl, -⟩ := of_walk walked
    dsimp only
    rw [same _ (start ▸ passes_along _ _)]
    split
    · exact ⟨rfl, agree⟩
    · have cleared := agree.clear (along (u.startOf p) p.segments)
      obtain ⟨begin, equal⟩ := cleared.on_way passes
      have walks := walk_congr fun q before => equal _ ⟨q, before, rfl⟩
      rw [show (t.clear (along (u.startOf p) p.segments)).startOf p = u.startOf p from start] at walks
      rw [walks]
      cases again : (u.clear (along (u.startOf p) p.segments)).walk (u.startOf p) p.segments with
      | error problem => exact ⟨rfl, cleared⟩
      | ok k =>
        obtain ⟨rfl, -⟩ := of_walk again
        rw [startOf_eq, agree.right] at cleared ⊢
        exact ⟨rfl, cleared.remove some⟩

end Path

end FileAction

/-! ### Roots -/

/-- The root directory of a target leads down. -/
theorem Target.isSegment_rootDirectory (t : Target) : Path.IsSegment t.rootDirectory := by
  cases t <;> exact ⟨by decide, by decide, by decide, by decide⟩

namespace Generator

/-- The root of generated files in an output directory. -/
def rootIn (target : Target) (directory : String) : FilePath :=
  (FilePath.ofText directory).child target.rootDirectory

theorem rootIn_eq (target : Target) (directory : String) : rootIn target directory =
    ⟨(FilePath.ofText directory).start,
      (FilePath.ofText directory).segments ++ [target.rootDirectory]⟩ :=
  FilePath.child_of_isSegment _ target.isSegment_rootDirectory

/-- The root is a place in the output directory. -/
theorem placeOf_rootIn (t : FileTree) (target : Target) (directory : String) :
    t.placeOf (rootIn target directory) =
      t.placeOf (FilePath.ofText directory) ++ [target.rootDirectory] := by
  rw [rootIn_eq, placeOf, along_append, along_cons, next, if_neg target.isSegment_rootDirectory.dots]
  rfl

theorem placeOf_rootIn_ne_nil (t : FileTree) (target : Target) (directory : String) :
    t.placeOf (rootIn target directory) ≠ [] := by
  rw [placeOf_rootIn]
  simp

/-- A root that is seen along its path is a directory. -/
theorem directory_of_isDirectory {target : Target} {directory : String} {t : FileTree}
    (there : FileAction.isDirectory (rootIn target directory) t = true) :
    t.find? (t.placeOf (rootIn target directory)) = some .directory :=
  ((FileAction.isDirectory_iff.mp there).2.directory (congrArg FilePath.segments
    (rootIn_eq target directory)) target.isSegment_rootDirectory.dots).1

/-! ### Emptying -/

/-- Removes a directory that is to be emptied, if it is there. -/
def emptying (root : FilePath) (clean : Bool) : FileAction Unit := do
  if clean then
    let there ← FileAction.isThere root (← get)
    if there then FileAction.removeTree root

/-- The tree once a directory has been emptied, if that is asked for. -/
def emptied (root : FilePath) (clean : Bool) (t : FileTree) : FileTree :=
  if clean && FileAction.isDirectory root t then t.remove (t.placeOf root) else t

theorem run_emptying (root : FilePath) (t : FileTree) : (emptying root true).run t =
    match FileAction.isThere root t with
    | .error e => (.error e, t)
    | .ok true => (FileAction.removeTree root).run t
    | .ok false => (.ok (), t) := by
  have run : (emptying root true).run t = (liftM (FileAction.isThere root t) >>= fun there =>
      if there then FileAction.removeTree root else pure ()).run t := rfl
  rw [run]
  cases FileAction.isThere root t with
  | error e => rfl
  | ok there => cases there <;> rfl

/-- A directory is emptied, and what is none is left as it is. A directory that the path leads through
stays, with nothing in it. -/
theorem emptying_cases (root : FilePath) (clean : Bool) (t : FileTree) :
    (emptying root clean).run t = (.ok (), emptied root clean t) ∨
      (∃ e, (emptying root clean).run t = (.error e, t)) ∧ emptied root clean t = t ∨
      (∃ e, (emptying root clean).run t = (.error e, t.clear (t.placeOf root))) ∧
        t.Reaches root ∧ emptied root clean t = t.remove (t.placeOf root) := by
  cases clean with
  | false => exact .inl rfl
  | true =>
    rw [run_emptying]
    unfold emptied
    rw [Bool.true_and]
    by_cases directory : FileAction.isDirectory root t = true
    · have reached := (FileAction.isDirectory_iff.mp directory).2
      rw [if_pos directory, FileAction.isThere_of_isDirectory directory]
      rcases FileAction.removeTree_of_reaches reached with gone | stays
      · exact .inl gone
      · exact .inr (.inr ⟨stays, reached, rfl⟩)
    · rw [if_neg directory]
      cases there : FileAction.isThere root t with
      | error e => exact .inr (.inl ⟨⟨e, rfl⟩, rfl⟩)
      | ok answer =>
        cases answer with
        | false => exact .inl rfl
        | true =>
          have text := FileAction.checkText_of_isThere there
          exact .inr (.inl ⟨FileAction.exists_removeTree_eq_error fun reached =>
            directory (FileAction.isDirectory_iff.mpr ⟨text, reached⟩), rfl⟩)

section Emptied

variable {root : FilePath} {clean : Bool} {t : FileTree} (some : t.placeOf root ≠ [])

@[simp] theorem emptied_here : (emptied root clean t).here = t.here := by
  unfold emptied
  split <;> rfl

include some

theorem isClosed_emptied (closed : t.IsClosed) : (emptied root clean t).IsClosed := by
  unfold emptied
  split
  · exact closed.remove some
  · exact closed

/-- Nothing is emptied but the root. -/
theorem find?_emptied {k : Location} (out : ¬ t.placeOf root <+: k) :
    (emptied root clean t).find? k = t.find? k := by
  unfold emptied
  split
  · rw [find?_remove some, if_neg out]
  · rfl

/-- What is left was there. -/
theorem find?_emptied_of_ne_none {k : Location} (there : (emptied root clean t).find? k ≠ none) :
    (emptied root clean t).find? k = t.find? k := by
  unfold emptied at *
  split
  · rename_i directory
    rw [if_pos directory, find?_remove some] at there
    rw [find?_remove some, if_neg]
    intro below
    exact there (if_pos below)
  · rfl

/-- A root that is seen if it is there is empty once it has been emptied. -/
theorem find?_emptied_below (closed : t.IsClosed)
    (seen : t.find? (t.placeOf root) ≠ none → FileAction.isDirectory root t = true) {k : Location}
    (below : t.placeOf root <+: k) : (emptied root true t).find? k = none := by
  unfold emptied
  rw [Bool.true_and]
  by_cases directory : FileAction.isDirectory root t = true
  · rw [if_pos directory, find?_remove some, if_pos below]
  · rw [if_neg directory]
    have missing : t.find? (t.placeOf root) = none := by
      by_contra there
      exact directory (seen there)
    exact closed.find?_eq_none_of_prefix below missing

end Emptied

/-- What emptying a directory gives depends on the way there alone. -/
theorem alike_emptying {root : FilePath} {here : Location} {places : Location → Prop}
    (passes : ∀ k, Passes (beginning here root) root.segments k → places k)
    (some : along (beginning here root) root.segments ≠ []) (clean : Bool) :
    FileAction.Alike here places (emptying root clean) := by
  cases clean with
  | false => exact FileAction.Alike.pure ()
  | true =>
    intro t u agree
    rw [run_emptying, run_emptying, FileAction.isThere_congr passes agree]
    cases FileAction.isThere root u with
    | error e => exact ⟨rfl, agree⟩
    | ok there =>
      cases there with
      | false => exact ⟨rfl, agree⟩
      | true => exact FileAction.alike_removeTree passes some t u agree

section Vacant

variable {target : Target} {directory : String} {t : FileTree}
  (vacant : t.find? (t.placeOf (rootIn target directory)) = none)

include vacant

/-- Nothing is emptied where nothing is. -/
theorem emptied_of_vacant (clean : Bool) : emptied (rootIn target directory) clean t = t := by
  unfold emptied
  rw [if_neg]
  rw [Bool.and_eq_true, not_and]
  intro _ there
  cases vacant.symm.trans (directory_of_isDirectory there)

variable (closed : t.IsClosed)
  (begun : t.find? (t.startOf (rootIn target directory)) = some .directory)
  (text : FileAction.checkText (rootIn target directory).text = .ok ())
  (clear : ∀ k, Passes (t.startOf (rootIn target directory)) (rootIn target directory).segments k →
    ∀ c, t.find? k ≠ some (.file c))

include closed begun text clear

/-- A root is emptied where nothing is, if no file is in the way, unless a name is too long. -/
theorem emptying_of_vacant (clean : Bool) :
    (emptying (rootIn target directory) clean).run t = (.ok (), t) ∨
    (∃ place, (emptying (rootIn target directory) clean).run t =
      (.error (.file .nameTooLong place), t)) ∧
    ∃ s ∈ (rootIn target directory).segments, ¬ IsShort s := by
  cases clean with
  | false => exact .inl rfl
  | true =>
    rw [run_emptying]
    rcases FileAction.isThere_of_vacant closed begun text clear vacant with
      missing | ⟨⟨place, tooLong⟩, long⟩
    · rw [missing]
      exact .inl rfl
    · rw [tooLong]
      exact .inr ⟨⟨place, rfl⟩, long⟩

end Vacant

/-! ### Starting -/

/-- Empties a root if asked to, and makes the directories that lead there. -/
def remake (root : FilePath) (clean : Bool) : FileAction Unit := do
  emptying root clean
  FileAction.makeDirectories root

section Start

variable (g : Generator) (directory : String) (clean : Bool) (t : FileTree)

/-- A generator with serializers is started by making its root. -/
theorem run_start {c : Code.Coder} (prepared : prepare g.target = .ok c) :
    (g.start directory clean).run t =
      (((remake (rootIn g.target directory) clean).run t).1.map fun _ =>
          { g with context := some ⟨rootIn g.target directory, c, g.logs⟩ },
        ((remake (rootIn g.target directory) clean).run t).2) := by
  rw [← FileAction.run_bind_pure]
  refine congrArg (fun a : FileAction Generator => a.run t) ?_
  have lifted : (liftM (Except.ok c : Except Fault Code.Coder) : FileAction Code.Coder) = pure c :=
    rfl
  unfold start remake emptying
  rw [prepared, lifted, pure_bind]
  cases clean with
  | false => rfl
  | true =>
    simp only [bind_assoc, if_true]
    refine congrArg _ (funext fun t => congrArg _ (funext fun there => ?_))
    cases there <;> rfl

/-- A generator is started by making its root: its serializers are always there. -/
theorem exists_started : ∃ (started : Generator) (x : OutputContext),
    started.target = g.target ∧ started.context = some x ∧ x.root = rootIn g.target directory ∧
    ∀ clean t, (g.start directory clean).run t =
      (((remake (rootIn g.target directory) clean).run t).1.map fun _ => started,
        ((remake (rootIn g.target directory) clean).run t).2) := by
  obtain ⟨c, prepared, -, -⟩ := Script.exists_prepare g.target
  exact ⟨{ g with context := some ⟨rootIn g.target directory, c, g.logs⟩ }, _, rfl, rfl, rfl,
    fun clean t => g.run_start directory clean t prepared⟩

/-- Starting a generator empties its root and then makes the tree grow on the way there. -/
theorem grows_start : Grows (emptied (rootIn g.target directory) clean t)
    ((g.start directory clean).run t).2
    (Passes (t.startOf (rootIn g.target directory)) (rootIn g.target directory).segments) := by
  obtain ⟨_, -, -, -, -, run⟩ := g.exists_started directory
  rw [run, remake, FileAction.run_bind]
  rcases emptying_cases (rootIn g.target directory) clean t with
    emptying | ⟨⟨e, emptying⟩, same⟩ | ⟨⟨e, emptying⟩, reached, gone⟩
  · have grown := FileAction.grows_makeDirectories (rootIn g.target directory)
      (emptied (rootIn g.target directory) clean t)
    rw [startOf_eq, emptied_here, ← startOf_eq] at grown
    rw [emptying]
    exact grown
  · rw [emptying, same]
    exact .refl _ _
  · rw [emptying, gone]
    exact FileAction.grows_clear reached (congrArg FilePath.segments (rootIn_eq _ _))
      g.target.isSegment_rootDirectory.dots

variable {g directory clean t}

/-- If a generator starts, its root has been emptied and made. -/
theorem of_start {g' : Generator} {u : FileTree}
    (h : (g.start directory clean).run t = (.ok g', u)) :
    (FileAction.makeDirectories (rootIn g.target directory)).run
      (emptied (rootIn g.target directory) clean t) = (.ok (), u) := by
  obtain ⟨_, -, -, -, -, run⟩ := g.exists_started directory
  rw [run, remake, FileAction.run_bind] at h
  rcases emptying_cases (rootIn g.target directory) clean t with
    emptying | ⟨⟨e, emptying⟩, -⟩ | ⟨⟨e, emptying⟩, -⟩
  · rw [emptying] at h
    dsimp only at h
    cases made : (FileAction.makeDirectories (rootIn g.target directory)).run
        (emptied (rootIn g.target directory) clean t) with
    | mk result v =>
      rw [made] at h
      cases result with
      | error e => cases h
      | ok _ =>
        cases h
        rfl
  · rw [emptying] at h
    cases h
  · rw [emptying] at h
    cases h

/-- Once a generator is started, its root can be followed to. -/
theorem opens_of_start (ready : t.StartsOutside (rootIn g.target directory)) {g' : Generator}
    {u : FileTree} (h : (g.start directory clean).run t = (.ok g', u)) :
    FileAction.checkText (rootIn g.target directory).text = .ok () ∧
    u.Opens (t.startOf (rootIn g.target directory)) (rootIn g.target directory).segments := by
  have some := placeOf_rootIn_ne_nil t g.target directory
  have start : (emptied (rootIn g.target directory) clean t).startOf (rootIn g.target directory) =
      t.startOf (rootIn g.target directory) := by
    rw [startOf_eq, emptied_here, ← startOf_eq]
  have opens := FileAction.opens_of_makeDirectories (isClosed_emptied some ready.closed)
    (by rw [start, find?_emptied some ready.outside, ready.begun]) (by rw [rootIn_eq]; simp)
    (congrArg Prod.fst (of_start h))
  rw [of_start h, start] at opens
  exact opens

/-- A generator starts if its root can be emptied and made. -/
theorem exists_start
    (emptying : (emptying (rootIn g.target directory) clean).run t =
      (.ok (), emptied (rootIn g.target directory) clean t))
    (made : ((FileAction.makeDirectories (rootIn g.target directory)).run
      (emptied (rootIn g.target directory) clean t)).1 = .ok ()) :
    ∃ g' u, (g.start directory clean).run t = (.ok g', u) := by
  obtain ⟨started, -, -, -, -, run⟩ := g.exists_started directory
  rw [run, remake, FileAction.run_bind, emptying]
  dsimp only
  rw [made]
  exact ⟨started, _, rfl⟩

/-- Generators that start with the same output directory start alike. -/
theorem eq_of_start {clean' : Bool} {g₁ g₂ : Generator} {t' u u' : FileTree}
    (h : (g.start directory clean).run t = (.ok g₁, u))
    (h' : (g.start directory clean').run t' = (.ok g₂, u')) : g₁ = g₂ := by
  obtain ⟨started, -, -, -, -, run⟩ := g.exists_started directory
  have all : ∀ {clean t g' u}, (g.start directory clean).run t = (.ok g', u) → g' = started := by
    intro clean t g' u h
    rw [run] at h
    cases made : ((remake (rootIn g.target directory) clean).run t).1 with
    | error e =>
      rw [made] at h
      cases h
    | ok _ =>
      rw [made] at h
      exact (Except.ok.inj (congrArg Prod.fst h)).symm
  rw [all h, all h']

/-- A generator starts where its root is, if the path starts outside of it and passes nothing below
it. -/
theorem exists_start_of_isDirectory (ready : t.StartsOutside (rootIn g.target directory))
    (there : FileAction.isDirectory (rootIn g.target directory) t = true)
    (last : ∀ k, Passes (t.startOf (rootIn g.target directory))
      (rootIn g.target directory).segments k → t.placeOf (rootIn g.target directory) <+: k →
      k = t.placeOf (rootIn g.target directory)) :
    ∃ g' u, (g.start directory clean).run t = (.ok g', u) := by
  obtain ⟨text, opens⟩ := FileAction.opens_of_isDirectory ready.closed ready.begun there
  have some := placeOf_rootIn_ne_nil t g.target directory
  have start : ∀ p, (emptied (rootIn g.target directory) clean t).startOf p = t.startOf p := by
    intro p
    rw [startOf_eq, emptied_here, ← startOf_eq]
  refine exists_start ?_ (FileAction.makeDirectories_eq_ok (isClosed_emptied some ready.closed) ?_
    text opens.short ?_)
  · cases clean with
    | false => rfl
    | true =>
      rw [run_emptying, FileAction.isThere_of_isDirectory there]
      dsimp only
      rw [FileAction.removeTree_of_opens opens last, emptied, Bool.true_and, if_pos there]
  · rw [start, find?_emptied some ready.outside, ready.begun]
  · rw [start]
    rintro k ⟨q, before, rfl⟩ c file
    rw [find?_emptied_of_ne_none some (by simp [file]), opens.directories q before] at file
    cases file

/-- A generator starts where nothing is, if no file is in the way, unless a name is too long. Then it
makes some of the directories above at most. -/
theorem start_of_vacant (closed : t.IsClosed)
    (begun : t.find? (t.startOf (rootIn g.target directory)) = some .directory)
    (text : FileAction.checkText (rootIn g.target directory).text = .ok ())
    (clear : ∀ k, Passes (t.startOf (rootIn g.target directory))
      (rootIn g.target directory).segments k → ∀ c, t.find? k ≠ some (.file c))
    (vacant : t.find? (t.placeOf (rootIn g.target directory)) = none) (clean : Bool) :
    emptied (rootIn g.target directory) clean t = t ∧
    ((∃ g' u, (g.start directory clean).run t = (.ok g', u)) ∨
      (∃ s ∈ (rootIn g.target directory).segments, ¬ IsShort s) ∧
      ∃ place u, (g.start directory clean).run t = (.error (.file .nameTooLong place), u) ∧
        Grows t u (Passes (t.startOf (rootIn g.target directory))
          (rootIn g.target directory).segments.dropLast)) := by
  obtain ⟨started, -, -, -, -, run⟩ := g.exists_started directory
  refine ⟨emptied_of_vacant vacant clean, ?_⟩
  rw [run, remake, FileAction.run_bind]
  rcases emptying_of_vacant vacant closed begun text clear clean with
    empty | ⟨⟨place, fails⟩, long⟩
  · rw [empty]
    dsimp only
    rcases FileAction.makeDirectories_cases closed begun text clear with
      made | ⟨⟨place, fails⟩, long⟩
    · rw [made]
      exact .inl ⟨started, _, rfl⟩
    · have grown := FileAction.grows_of_makeDirectories_eq_error fails
      rw [fails]
      exact .inr ⟨long, place, _, rfl, grown⟩
  · rw [fails]
    exact .inr ⟨long, place, t, rfl, .refl _ _⟩

/-- A root that cannot be given to a file system stops the start, and nothing changes. -/
theorem start_of_checkText {f : Fault}
    (text : FileAction.checkText (rootIn g.target directory).text = .error f) :
    (g.start directory clean).run t = (.error f, t) := by
  obtain ⟨_, -, -, -, -, run⟩ := g.exists_started directory
  have looked : FileAction.look (rootIn g.target directory) t = .error f := by
    rw [FileAction.look, text]
    rfl
  have made : (FileAction.makeDirectories (rootIn g.target directory)).run t = (.error f, t) :=
    FileAction.makeDirectories_of_checkText (by rw [rootIn_eq]; simp) text
  have fails : ((emptying (rootIn g.target directory) clean).run t = (.ok (), t)) ∨
      (emptying (rootIn g.target directory) clean).run t = (.error f, t) := by
    cases clean with
    | false => exact .inl rfl
    | true =>
      rw [run_emptying, FileAction.isThere, looked]
      rcases FileAction.eq_of_checkText text with rfl | ⟨s, rfl⟩
      · exact .inl rfl
      · exact .inr rfl
  rw [run, remake, FileAction.run_bind]
  rcases fails with emptying | emptying
  · rw [emptying]
    dsimp only
    rw [made]
    rfl
  · rw [emptying]
    rfl

/-- What a start gives depends on the way to the root alone. -/
theorem alike_start {here : Location} {places : Location → Prop} (g : Generator) (clean : Bool)
    (passes : ∀ k, Passes (beginning here (rootIn g.target directory))
      (rootIn g.target directory).segments k → places k) :
    FileAction.Alike here places (g.start directory clean) := by
  obtain ⟨_, -, -, -, -, run⟩ := g.exists_started directory
  have some : along (beginning here (rootIn g.target directory))
      (rootIn g.target directory).segments ≠ [] := by
    rw [rootIn_eq]
    exact along_ne_nil g.target.isSegment_rootDirectory.dots
  intro t u agree
  obtain ⟨results, trees⟩ := (alike_emptying passes some clean).bind
    (fun _ => FileAction.alike_makeDirectories passes) t u agree
  rw [run, run]
  exact ⟨congrArg (Except.map _) results, trees⟩

end Start

end Generator

end PacketSmith
