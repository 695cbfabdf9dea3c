import PacketSmith.Proofs.SharedDirectory
import PacketSmith.Proofs.StartFaults

/-!
# Sessions of generators

Generators of different targets that share an output directory are called in any order.

* Whether a generator generates depends on its own calls: it has been started, and not cleared since
  (`context_run`).
* A call changes nothing that matters to the generators of other keys, or what it changes makes no
  difference to them (`Matches.call_of_ne`), and a generator answers alike in sessions that match
  (`Matches.call_self`). So each of them gives and writes the same as if it was alone (`matches_run`).
-/

namespace PacketSmith.Session

open FileTree Generator

variable {κ : Type} [DecidableEq κ] {s s' : Session κ} {k j : κ} {c : Call} {directory : String}

/-! ### Calls -/

theorem generators_hold_self (s : Session κ) (k : κ) (g : Generator) :
    (s.hold k g).generators k = g := if_pos rfl

theorem generators_hold_of_ne (s : Session κ) (h : j ≠ k) (g : Generator) :
    (s.hold k g).generators j = s.generators j := if_neg h

theorem result_call (s : Session κ) (k : κ) (c : Call) :
    (s.call k c).1 = (((s.generators k).call c).run s.tree).1.map Prod.fst := by
  unfold call
  cases ((s.generators k).call c).run s.tree with
  | mk result t => cases result <;> rfl

theorem tree_call (s : Session κ) (k : κ) (c : Call) :
    (s.call k c).2.tree = (((s.generators k).call c).run s.tree).2 := by
  unfold call
  cases ((s.generators k).call c).run s.tree with
  | mk result t => cases result <;> rfl

/-- A call leaves the generators of other keys as they are. -/
theorem generators_call_of_ne (s : Session κ) (h : j ≠ k) (c : Call) :
    (s.call k c).2.generators j = s.generators j := by
  unfold call
  cases ((s.generators k).call c).run s.tree with
  | mk result t =>
    cases result with
    | error f => rfl
    | ok answer => exact generators_hold_of_ne _ h _

/-- A call leaves its generator as the answer says, or as it is. -/
theorem generators_call_self (s : Session κ) (k : κ) (c : Call) :
    (s.call k c).2.generators k =
      (s.generators k).keep (((s.generators k).call c).run s.tree).1 := by
  unfold call
  cases ((s.generators k).call c).run s.tree with
  | mk result t =>
    cases result with
    | error f => rfl
    | ok answer => exact generators_hold_self _ _ _

/-- A start makes the root of its generator. -/
theorem call_start (s : Session κ) (k : κ) (directory : String) (clean : Bool) :
    (s.call k (.start directory clean)).1 =
      ((remake (rootIn (s.generators k).target directory) clean).run s.tree).1.map (fun _ => .done) ∧
    (s.call k (.start directory clean)).2.tree =
      ((remake (rootIn (s.generators k).target directory) clean).run s.tree).2 := by
  obtain ⟨_, -, -, -, -, run⟩ := (s.generators k).exists_started directory
  rw [result_call, tree_call, run_call_start, run]
  cases ((remake (rootIn (s.generators k).target directory) clean).run s.tree).1 with
  | error f => exact ⟨rfl, rfl⟩
  | ok _ => exact ⟨rfl, rfl⟩

/-- A call keeps the targets. -/
theorem target_call (s : Session κ) (k : κ) (c : Call) (j : κ) :
    ((s.call k c).2.generators j).target = (s.generators j).target := by
  by_cases own : j = k
  · subst own
    rw [generators_call_self, target_keep]
  · rw [generators_call_of_ne s own]

theorem run_nil (s : Session κ) : s.run [] = ([], s) := rfl

theorem run_cons (s : Session κ) (k : κ) (c : Call) (calls : List (κ × Call)) :
    s.run ((k, c) :: calls) = (⟨k, c, (s.call k c).1⟩ :: ((s.call k c).2.run calls).1,
      ((s.call k c).2.run calls).2) := rfl

/-- Calls keep the targets. -/
theorem target_run (s : Session κ) (calls : List (κ × Call)) (j : κ) :
    ((s.run calls).2.generators j).target = (s.generators j).target := by
  induction calls generalizing s with
  | nil => rfl
  | cons call calls ih => exact (ih _).trans (s.target_call call.1 call.2 j)

/-- A call that fails leaves all generators as they are. -/
theorem generators_call_of_error {f : Fault} (fails : (s.call k c).1 = .error f) :
    (s.call k c).2.generators = s.generators := by
  unfold call at fails ⊢
  cases run : ((s.generators k).call c).run s.tree with
  | mk result t =>
    rw [run] at fails
    cases result with
    | error f => rfl
    | ok answer => cases fails

/-! ### Generators that have been started -/

/-- A generator has been started. -/
def Event.Starts (e : Event κ) (k : κ) : Prop :=
  e.key = k ∧ (∃ directory clean, e.call = .start directory clean) ∧ ∃ reply, e.result = .ok reply

/-- A generator has been cleared. -/
def Event.Clears (e : Event κ) (k : κ) : Prop := e.key = k ∧ e.call = .clear

/-- A generator has been started, and not cleared since. -/
def IsStarted (events : List (Event κ)) (k : κ) : Prop :=
  ∃ before e after, events = before ++ e :: after ∧ e.Starts k ∧ ∀ f ∈ after, ¬ f.Clears k

omit [DecidableEq κ] in
theorem isStarted_cons_iff {e : Event κ} {events : List (Event κ)} :
    IsStarted (e :: events) k ↔
      IsStarted events k ∨ e.Starts k ∧ ∀ f ∈ events, ¬ f.Clears k := by
  constructor
  · rintro ⟨before, f, after, split, starts, kept⟩
    cases before with
    | nil =>
      obtain ⟨rfl, rfl⟩ := List.cons.inj split
      exact .inr ⟨starts, kept⟩
    | cons _ before => exact .inl ⟨before, f, after, (List.cons.inj split).2, starts, kept⟩
  · rintro (⟨before, f, after, rfl, starts, kept⟩ | ⟨starts, kept⟩)
    · exact ⟨e :: before, f, after, rfl, starts, kept⟩
    · exact ⟨[], e, events, rfl, starts, kept⟩

/-- One call more: a generator has a context if the call has started it, or if it had one and has not
been cleared. -/
theorem context_call (s : Session κ) (j : κ) (c : Call) (k : κ) :
    ((s.call j c).2.generators k).context ≠ none ↔
      Event.Starts ⟨j, c, (s.call j c).1⟩ k ∨
      (s.generators k).context ≠ none ∧ ¬ Event.Clears ⟨j, c, (s.call j c).1⟩ k := by
  by_cases own : j = k
  · subst own
    rw [generators_call_self, result_call]
    cases c with
    | start d clean =>
      rw [run_call_start]
      cases run : ((s.generators j).start d clean).run s.tree with
      | mk result u =>
        cases result with
        | error f => simp [Event.Starts, Event.Clears, keep, Except.map]
        | ok started =>
          obtain ⟨x, context, -⟩ := exists_context run
          simp [Event.Starts, keep, Except.map, context]
    | clear =>
      show (s.generators j).clear.context ≠ none ↔ _
      simp [Event.Starts, Event.Clears, Generator.clear]
    | files r =>
      rw [run_call_files]
      cases (s.generators j).files r <;>
        simp [Event.Starts, Event.Clears, keep, Except.map]
    | generate r =>
      rw [run_call_generate]
      cases (((s.generators j).generate r).run s.tree).1 <;>
        simp [Event.Starts, Event.Clears, keep, Except.map]
  · rw [generators_call_of_ne s (Ne.symm own)]
    simp [Event.Starts, Event.Clears, own]

/-- After any calls, a generator has a context if it has been started and not cleared since, or if it
had one and has not been cleared. -/
theorem context_run (s : Session κ) (calls : List (κ × Call)) (k : κ) :
    ((s.run calls).2.generators k).context ≠ none ↔
      IsStarted (s.run calls).1 k ∨
      (s.generators k).context ≠ none ∧ ∀ e ∈ (s.run calls).1, ¬ e.Clears k := by
  induction calls generalizing s with
  | nil => simp [run, IsStarted]
  | cons call calls ih =>
    obtain ⟨j, c⟩ := call
    rw [run_cons, ih, context_call, isStarted_cons_iff, List.forall_mem_cons]
    tauto

/-- A generator says that it has not been started exactly if it has no context. -/
theorem result_eq_notInitialized_iff (s : Session κ) (k : κ) (r : Registry) (name : String) :
    ((s.call k (.files r)).1 = .error (.notInitialized name) ↔
      (s.generators k).context = none ∧ name = (s.generators k).target.name) ∧
    ((s.call k (.generate r)).1 = .error (.notInitialized name) ↔
      (s.generators k).context = none ∧ name = (s.generators k).target.name) := by
  constructor
  · rw [result_call, run_call_files, ← files_eq_notInitialized_iff r]
    cases (s.generators k).files r <;> simp [Except.map]
  · rw [result_call, run_call_generate, ← generate_eq_notInitialized_iff r s.tree]
    cases (((s.generators k).generate r).run s.tree).1 <;> simp [Except.map]

/-! ### Sessions in one output directory -/

/-- The tree is fit for the output directory, and the root of every generator that has been started
can be followed to. -/
structure Sound (s : Session κ) (directory : String) : Prop where
  /-- The path of the output directory can be followed anew at any time. -/
  tree : s.tree.Steady directory
  /-- The roots of generators can be followed to. -/
  holds : ∀ k, Holds s.tree directory (s.generators k)

/-- What a call does to the tree. -/
theorem Sound.tends (h : s.Sound directory) (k : κ) (isIn : c.IsIn directory) :
    Tends s.tree (s.call k c).2.tree (rootIn (s.generators k).target directory) := by
  rw [tree_call]
  exact tends_call h.tree (h.holds k) isIn

/-- A session stays sound. -/
theorem Sound.call (h : s.Sound directory) (k : κ) (isIn : c.IsIn directory) :
    (s.call k c).2.Sound directory := by
  have tends := h.tends k isIn
  refine ⟨tends.steady h.tree, fun j => ?_⟩
  by_cases own : j = k
  · subst own
    rw [generators_call_self, tree_call]
    exact holds_of_call h.tree (h.holds j) isIn
  · rw [generators_call_of_ne s own]
    exact tends.holds (h.holds j)

/-- After any calls a session is sound, and the working directory is the same. -/
theorem Sound.run (h : s.Sound directory) {calls : List (κ × Call)}
    (isIn : ∀ e ∈ calls, e.2.IsIn directory) :
    (s.run calls).2.Sound directory ∧ (s.run calls).2.tree.here = s.tree.here := by
  induction calls generalizing s with
  | nil => exact ⟨h, rfl⟩
  | cons call calls ih =>
    obtain ⟨first, others⟩ := List.forall_mem_cons.mp isIn
    obtain ⟨sound, here⟩ := ih (h.call call.1 first) others
    exact ⟨sound, here.trans (h.tends call.1 first).here⟩

/-- The same call of the same generator gave the same. -/
structure Event.Alike (directory : String) (e e' : Event κ) : Prop where
  /-- The generator is the same. -/
  key : e.key = e'.key
  /-- The call is the same. -/
  call : e.call = e'.call
  /-- The results are the same. -/
  result : SameResult directory e.result e'.result

/-- The sessions make no difference to the generator of a key. -/
structure Matches (directory : String) (k : κ) (s s' : Session κ) : Prop where
  /-- The generator is the same. -/
  generator : s.generators k = s'.generators k
  /-- The trees make no difference to it. -/
  trees : Indifferent directory (s'.generators k) s.tree s'.tree

namespace Matches

/-- A call of another generator makes no difference. -/
theorem call_of_ne (h : Matches directory k s s') (sound : s.Sound directory)
    (sound' : s'.Sound directory) (own : j ≠ k)
    (apart : (s.generators j).target ≠ (s.generators k).target) (isIn : c.IsIn directory) :
    Matches directory k (s.call j c).2 s' := by
  refine ⟨(generators_call_of_ne s own.symm c).trans h.generator, ?_⟩
  rw [h.generator] at apart
  exact h.trees.of_tends sound.tree (sound'.holds k) apart.symm (sound.tends j isIn)

/-- A generator answers alike in sessions that match, and they match from then on. -/
theorem call_self (h : Matches directory k s s') (sound : s.Sound directory)
    (sound' : s'.Sound directory) (isIn : c.IsIn directory) :
    SameResult directory (s.call k c).1 (s'.call k c).1 ∧
    Matches directory k (s.call k c).2 (s'.call k c).2 := by
  obtain ⟨same, trees⟩ := h.trees.call sound.tree sound'.tree (sound'.holds k) isIn
  rw [result_call, result_call, h.generator]
  refine ⟨same.map _, ?_, ?_⟩
  · rw [generators_call_self, generators_call_self, h.generator, same.keep]
  · rw [generators_call_self, tree_call, tree_call, h.generator]
    exact trees

end Matches

/-- Sessions match after any calls if those of other generators are left out of the one. -/
theorem matches_run (h : Matches directory k s s') (sound : s.Sound directory)
    (sound' : s'.Sound directory)
    (apart : ∀ j, j ≠ k → (s.generators j).target ≠ (s.generators k).target)
    {calls : List (κ × Call)} (isIn : ∀ e ∈ calls, e.2.IsIn directory) :
    List.Forall₂ (Event.Alike directory) ((s.run calls).1.filter (·.key = k))
      (s'.run (calls.filter (·.1 = k))).1 ∧
    Matches directory k (s.run calls).2 (s'.run (calls.filter (·.1 = k))).2 := by
  induction calls generalizing s s' with
  | nil => exact ⟨.nil, h⟩
  | cons call calls ih =>
    obtain ⟨j, c⟩ := call
    obtain ⟨first, others⟩ := List.forall_mem_cons.mp isIn
    have apart' : ∀ i, i ≠ k → ((s.call j c).2.generators i).target ≠
        ((s.call j c).2.generators k).target := by
      intro i other
      rw [target_call, target_call]
      exact apart i other
    rw [run_cons]
    by_cases own : j = k
    · subst own
      obtain ⟨result, step⟩ := h.call_self sound sound' first
      obtain ⟨events, rest⟩ := ih step (sound.call j first) (sound'.call j first) apart' others
      rw [List.filter_cons_of_pos (by simp), List.filter_cons_of_pos (by simp), run_cons]
      exact ⟨.cons ⟨rfl, rfl, result⟩ events, rest⟩
    · have step := h.call_of_ne sound sound' own (apart j own) first
      rw [List.filter_cons_of_neg (by simpa using own),
        List.filter_cons_of_neg (by simpa using own)]
      exact ih step (sound.call j first) sound' apart' others

namespace Sample

/-- A generator for each target, and a tree. -/
def shared (t : FileTree) : Session Target := ⟨new, t⟩

theorem shared_start (t : FileTree) (target : Target) (directory : String) :
    ((shared t).call target (.start directory true)).1 =
      ((remake (rootIn target directory) true).run t).1.map (fun _ => .done) ∧
    ((shared t).call target (.start directory true)).2.tree =
      ((remake (rootIn target directory) true).run t).2 :=
  call_start (shared t) target directory true

/-- Both generators are started, files are generated in C++, and TypeScript is cleared. -/
def calls (r : Registry) : List (Target × Call) :=
  [(.cpp, .start "out/../out" true), (.typescript, .start "out/../out" false), (.cpp, .generate r),
    (.typescript, .clear)]

/-- The path leaves a directory that is there. -/
theorem steady_stale : Generator.Sample.stale.Steady "out/../out" := by
  have path : (FilePath.ofText "out/../out").segments = ["out", "..", "out"] := by decide
  have fronts : ∀ q, q <+: (FilePath.ofText "out/../out").segments →
      q ∈ [[], ["out"], ["out", ".."], ["out", "..", "out"]] := by
    intro q before
    rw [path] at before
    exact (List.mem_inits _ _).mpr before
  refine ⟨Generator.Sample.isClosed_stale, rfl, fun q leaves => ?_, fun target => ?_, ?_⟩
  · obtain rfl : q = ["out"] := by
      have mem := fronts _ leaves
      simp only [List.mem_cons, List.not_mem_nil, or_false] at mem
      rcases mem with h | h | h | h
      · simpa using congrArg List.getLast? h
      · simpa using congrArg List.getLast? h
      · simpa using congrArg List.dropLast h
      · simpa using congrArg List.getLast? h
    rfl
  · cases target <;> decide
  · rintro target k ⟨q, before, rfl⟩ below
    have ends : ∀ q ∈ [[], ["out"], ["out", ".."], ["out", "..", "out"]],
        Generator.Sample.stale.placeOf (rootIn target "out/../out") <+:
            along (Generator.Sample.stale.startOf (.ofText "out/../out")) q →
          along (Generator.Sample.stale.startOf (.ofText "out/../out")) q =
            Generator.Sample.stale.placeOf (rootIn target "out/../out") := by
      cases target <;> decide
    exact ends q (fronts q before) below

end Sample

namespace Sample

/-- A tree with a directory in the root of C++, and a file of an earlier run in that of TypeScript. -/
def older : FileTree :=
  ⟨[(["cppProtocol"], .directory), (["cppProtocol", "sub"], .directory),
    (["tsProtocol"], .directory), (["tsProtocol", "Old.ts"], .file .empty)], []⟩

/-- Both generators are started. -/
def starts (directory : String) : List (Target × Call) :=
  [(.cpp, .start directory true), (.typescript, .start directory true)]

/-- The tree behind the start of TypeScript, after that of C++ and alone. -/
theorem tree_starts (t : FileTree) (directory : String) :
    ((shared t).run (starts directory)).2.tree = ((remake (rootIn .typescript directory) true).run
      ((remake (rootIn .cpp directory) true).run t).2).2 ∧
    ((shared t).run ((starts directory).filter (·.1 = .typescript))).2.tree =
      ((remake (rootIn .typescript directory) true).run t).2 := by
  have run : (starts directory).filter (·.1 = .typescript) =
      [(.typescript, .start directory true)] := rfl
  have other : ((shared t).call .cpp (.start directory true)).2.generators .typescript =
      new .typescript := generators_call_of_ne _ (by decide) _
  obtain ⟨-, alone⟩ := shared_start t .typescript directory
  obtain ⟨-, first⟩ := shared_start t .cpp directory
  obtain ⟨-, behind⟩ :=
    call_start ((shared t).call .cpp (.start directory true)).2 .typescript directory true
  rw [other, first, show (new .typescript).target = .typescript from rfl] at behind
  rw [run, starts, run_cons, run_cons, run_cons, run_nil, run_nil]
  dsimp only
  rw [behind, alone]
  exact ⟨rfl, rfl⟩

/-- The file of the earlier run is there in the end either behind the start of C++ or without it. -/
theorem exists_ne_of_starts {directory : String}
    (below : older.placeOf (rootIn .typescript directory) <+: ["tsProtocol", "Old.ts"])
    (differ : (((remake (rootIn .typescript directory) true).run
        ((remake (rootIn .cpp directory) true).run older).2).2.find? ["tsProtocol", "Old.ts"]).isSome ≠
      (((remake (rootIn .typescript directory) true).run older).2.find?
        ["tsProtocol", "Old.ts"]).isSome) :
    ∃ q, older.placeOf (rootIn .typescript directory) <+: q ∧
      ((shared older).run (starts directory)).2.tree.find? q ≠
        ((shared older).run ((starts directory).filter (·.1 = .typescript))).2.tree.find? q := by
  obtain ⟨behind, alone⟩ := tree_starts older directory
  refine ⟨_, below, fun same => differ ?_⟩
  rw [behind, alone] at same
  rw [same]

end Sample

end PacketSmith.Session
