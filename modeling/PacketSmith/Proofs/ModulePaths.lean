import Mathlib.Data.List.Sort
import PacketSmith.Proofs.OutputPaths

/-!
# Paths of modules

The path of a module is a normal form of it. Its segments are the maximal runs of characters that
are no separators, in their order, and nothing else (`areRuns_iff`). Segments have no separators, so
they are read back from the path (`moduleSegments_ofModule`) and also from the directory, where they
are capitalized (`moduleSegments_directory`). Hence two modules have the same path exactly if they
have the same segments, and the path of a path is the path itself.

A directory has as many segments as the path and leads down from where it starts.
-/

namespace PacketSmith.Path

variable {isSeparator : Char → Bool} {cs : List Char} {first last : Nat} {run : List Char}

/-! ### Maximal runs -/

/-- There is a character at the place, and it is no separator. -/
def IsPlainAt (isSeparator : Char → Bool) (cs : List Char) (k : Nat) : Prop :=
  ∃ c, cs[k]? = some c ∧ isSeparator c = false

/-- The characters from the first place up to the last one, which is not included, are a maximal run
of characters that are no separators. -/
structure IsRun (isSeparator : Char → Bool) (cs : List Char) (first last : Nat) : Prop where
  /-- There are such characters. -/
  lt : first < last
  /-- They are no separators. -/
  plain : ∀ k, first ≤ k → k < last → IsPlainAt isSeparator cs k
  /-- The run does not go on behind them. -/
  ends : ¬ IsPlainAt isSeparator cs last
  /-- The run does not begin before them. -/
  starts : ∀ k, k + 1 = first → ¬ IsPlainAt isSeparator cs k

/-- A run begins before another one. -/
def IsBefore (p q : Nat × Nat) : Prop := p.1 < q.1

instance : Std.Irrefl IsBefore := ⟨fun p => Nat.lt_irrefl p.1⟩

instance : Std.Antisymm IsBefore := ⟨fun _ _ h back => absurd h (Nat.lt_asymm back)⟩

/-- The places of the maximal runs from a start on, in their order. -/
structure ArePlaces (isSeparator : Char → Bool) (cs : List Char) (start : Nat)
    (places : List (Nat × Nat)) : Prop where
  /-- The runs are in order. -/
  ordered : places.Pairwise IsBefore
  /-- They are all the maximal runs. -/
  mem_iff : ∀ first last, (first, last) ∈ places ↔
    start ≤ first ∧ IsRun isSeparator cs first last

/-- The texts are the maximal runs of characters that are no separators, in their order. -/
def AreRuns (isSeparator : Char → Bool) (cs : List Char) (runs : List String) : Prop :=
  ∃ places, ArePlaces isSeparator cs 0 places ∧
    runs = places.map fun p => String.ofList (cs.extract p.1 p.2)

/-- There is one list of places. -/
theorem ArePlaces.unique {start : Nat} {places others : List (Nat × Nat)}
    (h : ArePlaces isSeparator cs start places) (g : ArePlaces isSeparator cs start others) :
    places = others :=
  h.ordered.eq_of_mem_iff g.ordered fun p => (h.mem_iff p.1 p.2).trans (g.mem_iff p.1 p.2).symm

/-! ### Splitting finds the maximal runs -/

/-- Splitting has come to the last place. The run so far, last character first, goes from the first
place to there, and begins at the first place. -/
structure IsOpenRun (isSeparator : Char → Bool) (cs : List Char) (first last : Nat)
    (run : List Char) : Prop where
  /-- The first place is not behind the last one. -/
  le : first ≤ last
  /-- The characters between the places are the run. -/
  chars : cs.extract first last = run.reverse
  /-- They are no separators. -/
  plain : ∀ k, first ≤ k → k < last → IsPlainAt isSeparator cs k
  /-- The run does not begin before them. -/
  starts : ∀ k, k + 1 = first → ¬ IsPlainAt isSeparator cs k

namespace IsOpenRun

/-- A run begins behind a place where there is no character of a run. -/
theorem nil (starts : ∀ k, k + 1 = first → ¬ IsPlainAt isSeparator cs k) :
    IsOpenRun isSeparator cs first first [] :=
  ⟨Nat.le_refl _, by simp, fun _ le lt => absurd le (Nat.not_le_of_lt lt), starts⟩

/-- A character that is no separator makes the run longer. -/
theorem push (h : IsOpenRun isSeparator cs first last run) {c : Char} (char : cs[last]? = some c)
    (plain : isSeparator c = false) : IsOpenRun isSeparator cs first (last + 1) (c :: run) := by
  have le := h.le
  refine ⟨by omega, ?_, ?_, h.starts⟩
  · have chars := h.chars
    rw [List.extract_eq_take_drop] at chars ⊢
    have place : first + (last - first) = last := by omega
    rw [Nat.succ_sub le, List.take_add_one, chars, List.getElem?_drop, place, char]
    simp
  · intro k from_first to_last
    by_cases here : k = last
    · rw [here]
      exact ⟨c, char, plain⟩
    · exact h.plain k from_first (by omega)

/-- Where the run ends, it is the only maximal one up to there. -/
theorem unique (h : IsOpenRun isSeparator cs first last run)
    (ends : ¬ IsPlainAt isSeparator cs last) {i j : Nat} (isRun : IsRun isSeparator cs i j)
    (behind : first ≤ i) (upTo : i ≤ last) : i = first ∧ j = last := by
  have begins : i = first := by
    by_contra other
    exact isRun.starts (i - 1) (by omega) (h.plain (i - 1) (by omega) (by omega))
  refine ⟨begins, ?_⟩
  have lt := isRun.lt
  rcases Nat.lt_trichotomy j last with before | same | after
  · exact absurd (h.plain j (by omega) before) isRun.ends
  · exact same
  · exact absurd (isRun.plain last upTo after) ends

/-- The places differ exactly if the run is not empty. -/
theorem lt_iff (h : IsOpenRun isSeparator cs first last run) : first < last ↔ run ≠ [] := by
  have chars := h.chars
  rw [List.extract_eq_take_drop] at chars
  constructor
  · rintro lt rfl
    obtain ⟨c, char, -⟩ := h.plain first (Nat.le_refl _) lt
    have head := congrArg List.head? chars
    rw [List.head?_take, if_neg (by omega), List.head?_drop, char] at head
    cases head
  · intro some
    by_contra empty
    rw [Nat.sub_eq_zero_of_le (Nat.le_of_not_lt empty)] at chars
    exact some (by simpa using chars.symm)

/-- Where the run ends, the maximal runs from its first place on are the run, unless it is empty,
and those behind it. -/
theorem isRun_iff (h : IsOpenRun isSeparator cs first last run)
    (ends : ¬ IsPlainAt isSeparator cs last) (i j : Nat) :
    first ≤ i ∧ IsRun isSeparator cs i j ↔
      (run ≠ [] ∧ i = first ∧ j = last) ∨ last + 1 ≤ i ∧ IsRun isSeparator cs i j := by
  have le := h.le
  rw [← h.lt_iff]
  constructor
  · rintro ⟨behind, isRun⟩
    by_cases upTo : i ≤ last
    · obtain ⟨rfl, rfl⟩ := h.unique ends isRun behind upTo
      exact .inl ⟨isRun.lt, rfl, rfl⟩
    · exact .inr ⟨by omega, isRun⟩
  · rintro (⟨lt, rfl, rfl⟩ | ⟨behind, isRun⟩)
    · exact ⟨Nat.le_refl _, lt, h.plain, ends, h.starts⟩
    · exact ⟨by omega, isRun⟩

/-- A run that ends stands before the runs that follow, unless it is empty. -/
theorem close (h : IsOpenRun isSeparator cs first last run)
    (ends : ¬ IsPlainAt isSeparator cs last) {later : List (Nat × Nat)}
    (places : ArePlaces isSeparator cs (last + 1) later) :
    ∃ all, ArePlaces isSeparator cs first all ∧
      closeRun run (later.map fun p => cs.extract p.1 p.2) =
        all.map fun p => cs.extract p.1 p.2 := by
  cases run with
  | nil =>
    refine ⟨later, ⟨places.ordered, fun i j => ?_⟩, rfl⟩
    rw [h.isRun_iff ends, places.mem_iff]
    simp
  | cons c more =>
    have le := h.le
    have before : ∀ p ∈ later, IsBefore (first, last) p := by
      rintro ⟨i, j⟩ mem
      have behind := ((places.mem_iff i j).mp mem).1
      show first < i
      omega
    refine ⟨(first, last) :: later, ⟨.cons before places.ordered, fun i j => ?_⟩, ?_⟩
    · rw [h.isRun_iff ends, List.mem_cons, places.mem_iff, Prod.mk.injEq]
      simp
    · rw [List.map_cons, h.chars]
      rfl

/-- Splitting what is left gives the maximal runs from the run so far on. -/
theorem exists_places {rest : List Char} (h : IsOpenRun isSeparator cs first last run)
    (left : cs.drop last = rest) :
    ∃ places, ArePlaces isSeparator cs first places ∧
      runsFrom isSeparator run rest = places.map fun p => cs.extract p.1 p.2 := by
  induction rest generalizing run first last with
  | nil =>
    have length := List.drop_eq_nil_iff.mp left
    have beyond : ∀ k, last ≤ k → ¬ IsPlainAt isSeparator cs k := by
      rintro k behind ⟨c, char, -⟩
      rw [List.getElem?_eq_none (by omega)] at char
      cases char
    have none : ArePlaces isSeparator cs (last + 1) [] := by
      refine ⟨.nil, fun i j => iff_of_false List.not_mem_nil ?_⟩
      rintro ⟨behind, isRun⟩
      exact beyond i (by omega) (isRun.plain i (Nat.le_refl _) isRun.lt)
    exact h.close (beyond last (Nat.le_refl _)) none
  | cons c rest ih =>
    have char : cs[last]? = some c := by rw [← List.head?_drop, left, List.head?_cons]
    have next : cs.drop (last + 1) = rest := by rw [← List.tail_drop, left, List.tail_cons]
    rw [runsFrom]
    split
    · rename_i separates
      have ends : ¬ IsPlainAt isSeparator cs last := by
        rintro ⟨d, same, plain⟩
        rw [char, Option.some.injEq] at same
        rw [same, plain] at separates
        cases separates
      have begins : IsOpenRun isSeparator cs (last + 1) (last + 1) [] := by
        refine .nil fun k before => ?_
        rwa [Nat.succ.inj before]
      obtain ⟨later, places, runs⟩ := ih begins next
      rw [runs]
      exact h.close ends places
    · rename_i plain
      exact ih (h.push char (by simpa using plain)) next

end IsOpenRun

/-- The segments of a text are the maximal runs of characters that are no separators. -/
theorem areRuns_iff {s : String} {runs : List String} :
    AreRuns isSeparator s.toList runs ↔ runs = segments isSeparator s := by
  have begins : IsOpenRun isSeparator s.toList 0 0 [] := .nil fun k before => by cases before
  obtain ⟨places, found, split⟩ := begins.exists_places (List.drop_zero ..)
  have texts : segments isSeparator s =
      places.map fun p => String.ofList (s.toList.extract p.1 p.2) := by
    rw [segments, split, List.map_map]
    rfl
  constructor
  · rintro ⟨others, same, rfl⟩
    rw [texts, same.unique found]
  · intro same
    exact ⟨places, found, same.trans texts⟩

/-! ### Normal forms -/

/-- Texts without separators are read back from their path. -/
theorem moduleSegments_joined {segs : List String}
    (h : ∀ s ∈ segs, s ≠ "" ∧ ∀ c ∈ s.toList, isModuleSeparator c = false) :
    moduleSegments (joined segs) = segs := by
  rw [moduleSegments, segments_joined_of (by decide), flatMap_segments_eq_self h]

/-- A path has the segments of the module. -/
theorem moduleSegments_ofModule (module : String) :
    moduleSegments (ofModule module) = moduleSegments module :=
  moduleSegments_joined fun _ => of_mem_moduleSegments

/-- A directory has the segments of the module, capitalized. -/
theorem moduleSegments_directory (module : String) :
    moduleSegments (directory module) = directorySegments module :=
  moduleSegments_joined fun _ => of_mem_directorySegments

/-- The segments of a module are those of its path. -/
theorem segments_ofModule (module : String) :
    segments isSlash (ofModule module) = moduleSegments module := by
  rw [ofModule, segments_joined, flatMap_segments_eq_self fun s mem => ?_]
  obtain ⟨some, plain⟩ := of_mem_moduleSegments mem
  refine ⟨some, fun c here => ?_⟩
  have other := plain c here
  simp only [isModuleSeparator, Bool.or_eq_false_iff] at other
  exact other.1.2

/-- Modules have the same path exactly if they have the same segments. -/
theorem ofModule_inj {module other : String} :
    ofModule module = ofModule other ↔ moduleSegments module = moduleSegments other := by
  constructor
  · intro same
    rw [← moduleSegments_ofModule module, same, moduleSegments_ofModule]
  · intro same
    rw [ofModule, same, ofModule]

/-- The directory of a directory is itself. -/
theorem directory_directory (module : String) :
    directory (directory module) = directory module := by
  have twice : (directorySegments module).map Text.capitalize = directorySegments module := by
    rw [directorySegments, List.map_map]
    exact List.map_congr_left fun s _ => Text.capitalize_capitalize s
  rw [directory, moduleSegments_directory, twice]
  rfl

/-- The path of a module has slashes between the maximal runs of characters that are no separators,
in their order, so modules have the same path exactly if they have the same runs. Both the path and
the directory of a module are the ones of themselves. A directory has as many segments as the path.
They are texts without separators and no dots, so that the directory leads down from any other one.
-/
theorem ofModule_normal (module : String) :
    (∀ runs, AreRuns isModuleSeparator module.toList runs ↔ runs = moduleSegments module) ∧
    ofModule module = joined (moduleSegments module) ∧
    (∀ other, ofModule module = ofModule other ↔ moduleSegments module = moduleSegments other) ∧
    ofModule (ofModule module) = ofModule module ∧
    directory (directory module) = directory module ∧
    (segments isSlash (directory module)).length = (segments isSlash (ofModule module)).length ∧
    (∀ s ∈ segments isSlash (directory module),
      s ≠ "" ∧ s ≠ "." ∧ s ≠ ".." ∧ ∀ c ∈ s.toList, isModuleSeparator c = false) ∧
    ∀ root : FilePath, root.child (directory module) =
      ⟨root.start, root.segments ++ segments isSlash (directory module)⟩ := by
  refine ⟨fun runs => areRuns_iff, rfl, fun other => ofModule_inj,
    ofModule_inj.mpr (moduleSegments_ofModule module), directory_directory module, ?_,
    fun s mem => ?_, fun root => ?_⟩
  · rw [segments_directory, segments_ofModule, directorySegments, List.length_map]
  · rw [segments_directory] at mem
    have leads := isSegment_of_mem mem
    exact ⟨leads.some, leads.dot, leads.dots, (of_mem_directorySegments mem).2⟩
  · rw [segments_directory]
    exact root.child_directory module

/-- Separators of all kinds, several at once and at both ends, and a first character whose upper-case
form has two characters. -/
theorem ofModule_normal_mixed :
    ofModule ".shop//item\\.ßt\\" = "shop/item/ßt" ∧
    ofModule "shop/item/ßt" = "shop/item/ßt" ∧
    directory ".shop//item\\.ßt\\" = "Shop/Item/SSt" ∧
    directory "Shop/Item/SSt" = "Shop/Item/SSt" ∧
    "SSt" ∈ segments isSlash "Shop/Item/SSt" ∧ "SSt" ≠ ".." := by
  have path : ofModule ".shop//item\\.ßt\\" = "shop/item/ßt" := by decide +kernel
  have capital : directory ".shop//item\\.ßt\\" = "Shop/Item/SSt" := by decide +kernel
  have mem : "SSt" ∈ segments isSlash "Shop/Item/SSt" := by decide +kernel
  obtain ⟨-, -, -, again, twice, -, plain, -⟩ := ofModule_normal ".shop//item\\.ßt\\"
  rw [path] at again
  rw [capital] at twice plain
  exact ⟨path, again, capital, twice, mem, (plain _ mem).2.2.1⟩

end PacketSmith.Path
