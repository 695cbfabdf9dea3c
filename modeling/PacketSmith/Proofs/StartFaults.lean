import PacketSmith.Proofs.WrittenFiles

/-!
# The fault of a generator that has not been started

Nothing that files are laid out and written with asks whether a generator has been started, so the
fault that says so comes from generators without a context alone (`files_eq_notInitialized_iff`,
`generate_eq_notInitialized_iff`). Every function on the way has a lemma that follows its definition.
-/

namespace PacketSmith

/-- The result is not the fault of a generator that has not been started. -/
abbrev NeedsNoStart {α : Type} (r : Except Fault α) : Prop :=
  FaultsSatisfy (∀ target, · ≠ .notInitialized target) r

/-! ### Messages and registries -/

theorem Message.directory_needsNoStart (m : Message) : NeedsNoStart m.directory := by
  unfold Message.directory
  split
  · exact .ok _
  · exact .error (by simp)

theorem Message.heldIds_needsNoStart (m : Message) : NeedsNoStart m.heldIds := by
  unfold Message.heldIds
  generalize ([] : List MessageId) = found
  induction m.fields generalizing found with
  | nil => exact .ok _
  | cons f fs ih =>
    unfold Message.heldIdsFrom
    split
    · exact .error (by simp)
    · exact ih _

namespace Registry

variable (r : Registry)

theorem get_needsNoStart (id : MessageId) : NeedsNoStart (r.get id) := by
  unfold get
  split
  · exact .ok _
  · exact .error (by simp)

theorem search_needsNoStart (path found ids : List MessageId) :
    NeedsNoStart (r.search path found ids) := by
  induction path, found, ids using search.induct (r := r) with
  | case1 path found =>
    unfold search
    exact .ok _
  | case2 path found id ids onPath =>
    unfold search
    rw [dif_pos onPath]
    exact .error (by simp)
  | case3 path found id ids offPath known ih =>
    unfold search
    rw [dif_neg offPath, if_pos known]
    exact ih
  | case4 path found id ids offPath new missing =>
    unfold search
    rw [dif_neg offPath, if_neg new]
    split
    · exact .error (by simp)
    · simp_all
  | case5 path found id ids offPath new m there below behind =>
    unfold search
    rw [dif_neg offPath, if_neg new]
    split
    · exact .error (by simp)
    · exact (Message.heldIds_needsNoStart _).bind fun held => (below held).bind behind

theorem dependencies_needsNoStart (id : MessageId) : NeedsNoStart (r.dependencies id) :=
  (r.get_needsNoStart id).bind fun m =>
    m.heldIds_needsNoStart.bind fun _ => r.search_needsNoStart _ _ _

end Registry

/-! ### Spellings -/

theorem Pattern.place_needsNoStart (n : Pattern.Numbering) (content : List Char) :
    NeedsNoStart (n.place content) := by
  unfold Pattern.Numbering.place
  split
  · cases n with
    | unset => exact .ok _
    | counted _ => exact .error (by simp)
    | given => exact .error (by simp)
  split
  · split
    · exact .error (by simp)
    · split
      · exact .ok _
      · exact .error (by simp)
  · exact .error (by simp)

theorem Pattern.fillFrom_needsNoStart (value : List Char) (n : Pattern.Numbering)
    (content : Option (List Char)) (cs : List Char) :
    NeedsNoStart (Pattern.fillFrom value n content cs) := by
  fun_induction Pattern.fillFrom value n content cs with
  | case1 => exact .ok _
  | case2 => exact .error (by simp)
  | case3 n rest ih => exact ih.bind fun _ => .ok _
  | case4 n rest ih => exact ih.bind fun _ => .ok _
  | case5 n rest other ih => exact ih
  | case6 => exact .error (by simp)
  | case7 n c rest _ _ _ _ ih => exact ih.bind fun _ => .ok _
  | case8 n content rest ih =>
    exact (place_needsNoStart _ _).bind fun m => (ih m).bind fun _ => .ok _
  | case9 => exact .error (by simp)
  | case10 n content c rest _ _ ih => exact ih

theorem Pattern.fill_needsNoStart (pattern value : String) :
    NeedsNoStart (Pattern.fill pattern value) :=
  (fillFrom_needsNoStart _ _ _ _).bind fun _ => .ok _

namespace Spelling

variable (sp : Spelling)

mutual

theorem spell_needsNoStart : ∀ t : TypeName, NeedsNoStart (sp.spell t)
  | .mk head params => by
    unfold spell
    split
    · exact (spellFirst_needsNoStart params).bind fun _ => Pattern.fill_needsNoStart _ _
    · cases params with
      | nil => exact .ok _
      | cons p ps => exact (spellAll_needsNoStart (p :: ps)).bind fun _ => .ok _

theorem spellFirst_needsNoStart : ∀ ts : List TypeName, NeedsNoStart (sp.spellFirst ts)
  | [] => .error (by simp)
  | t :: _ => spell_needsNoStart t

theorem spellAll_needsNoStart : ∀ ts : List TypeName, NeedsNoStart (sp.spellAll ts)
  | [] => .ok _
  | t :: ts => (spell_needsNoStart t).bind fun _ => (spellAll_needsNoStart ts).bind fun _ => .ok _

end

end Spelling

/-! ### Code -/

theorem WireType.text_needsNoStart (w : WireType) : NeedsNoStart w.text := by
  unfold WireType.text
  split
  · exact .ok _
  · exact .error (by simp)

namespace Code

/-- Emitting the code does not give the fault of a generator that has not been started. -/
def Emit.NeedsNoStart {α : Type} (e : Emit α) : Prop := ∀ n, PacketSmith.NeedsNoStart (e n).result

namespace Emit.NeedsNoStart

variable {α β : Type}

theorem done (v : α) : NeedsNoStart (pure v : Emit α) := fun _ => .ok v

theorem bind {e : Emit α} {f : α → Emit β} (first : e.NeedsNoStart)
    (rest : ∀ v, (f v).NeedsNoStart) : (e >>= f).NeedsNoStart := by
  intro n
  have front := first n
  rw [bind_apply, andThen]
  cases result : (e n).result with
  | ok v => exact rest v _
  | error fault => exact .error (front fault result)

theorem fresh : NeedsNoStart Emit.fresh := fun _ => .ok _

theorem line (depth : Int) (s : Statement) : NeedsNoStart (Emit.line depth s) := fun _ => .ok _

theorem lines (ls : List Line) : NeedsNoStart (Emit.lines ls) := fun _ => .ok _

theorem ofExcept {r : Except Fault α} (h : PacketSmith.NeedsNoStart r) :
    NeedsNoStart (Emit.ofExcept r) := fun _ => h

/-- Items that need no start are found, or missing. -/
theorem parameter {items : List α} {position : Nat} {f : α → Emit β}
    (h : ∀ v ∈ items, (f v).NeedsNoStart) :
    (Emit.parameter items position >>= f).NeedsNoStart := by
  intro n
  rw [bind_apply, andThen]
  cases found : items[position]? with
  | none =>
    simp only [Emit.parameter, Emit.ofExcept, found]
    exact .error (by simp)
  | some v =>
    simp only [Emit.parameter, Emit.ofExcept, found]
    exact h v (List.mem_of_getElem? found) n

end Emit.NeedsNoStart

namespace Coder

variable (c : Coder)

theorem serializer_needsNoStart (w : WireType) : NeedsNoStart (c.serializer w) := by
  unfold serializer
  split
  · exact .ok _
  · exact w.text_needsNoStart.bind fun _ => .error (by simp)

theorem annotation_needsNoStart (w : WireType) : NeedsNoStart (c.annotation w) := by
  unfold annotation
  split
  · exact (Spelling.spell_needsNoStart _ _).bind fun _ => .ok _
  · exact .ok _

open Emit.NeedsNoStart

theorem writeWith_needsNoStart (w : WireType) {params : List Writing}
    (h : ∀ p ∈ params, ∀ source depth, (p source depth).NeedsNoStart) (source : Expr)
    (depth : Int) : (c.writeWith w params source depth).NeedsNoStart := by
  unfold writeWith
  refine (ofExcept (c.serializer_needsNoStart w)).bind fun s => ?_
  cases s with
  | scalar kind => exact line _ _
  | sequence kind =>
    refine fresh.bind fun n => (line _ _).bind fun _ => (line _ _).bind fun _ =>
      parameter fun p mem => (h p mem _ _).bind fun _ => line _ _
  | map =>
    refine fresh.bind fun n => (line _ _).bind fun _ => (line _ _).bind fun _ =>
      parameter fun p mem => (h p mem _ _).bind fun _ =>
        parameter fun q mem => (h q mem _ _).bind fun _ => line _ _
  | message => exact line _ _
  | unspecified => exact ofExcept (.error (by simp))

theorem readWith_needsNoStart (w : WireType) {params : List Reading}
    (h : ∀ p ∈ params, ∀ depth, (p depth).NeedsNoStart) (depth : Int) :
    (c.readWith w params depth).NeedsNoStart := by
  have spelled : NeedsNoStart (c.spell w) := Spelling.spell_needsNoStart _ _
  unfold readWith
  refine (ofExcept (c.serializer_needsNoStart w)).bind fun s => ?_
  cases s with
  | scalar kind =>
    exact fresh.bind fun n => (ofExcept (c.annotation_needsNoStart w)).bind fun _ =>
      (line _ _).bind fun _ => done _
  | sequence kind =>
    exact fresh.bind fun n => (ofExcept spelled).bind fun _ => (line _ _).bind fun _ =>
      (line _ _).bind fun _ => (line _ _).bind fun _ =>
      parameter fun p mem => (h p mem _).bind fun _ => (line _ _).bind fun _ =>
      (line _ _).bind fun _ => done _
  | map =>
    exact fresh.bind fun n => (ofExcept spelled).bind fun _ => (line _ _).bind fun _ =>
      (line _ _).bind fun _ => (line _ _).bind fun _ =>
      parameter fun p mem => (h p mem _).bind fun _ =>
      parameter fun q mem => (h q mem _).bind fun _ => (line _ _).bind fun _ =>
      (line _ _).bind fun _ => done _
  | message =>
    exact fresh.bind fun n => (ofExcept (c.annotation_needsNoStart w)).bind fun _ =>
      (line _ _).bind fun _ => done _
  | unspecified => exact ofExcept (.error (by simp))

mutual

theorem write_needsNoStart : ∀ (w : WireType) (source : Expr) (depth : Int),
    (c.write w source depth).NeedsNoStart
  | .mk tag name params id, source, depth => by
    unfold write
    exact c.writeWith_needsNoStart _ (writeAll_needsNoStart params) source depth

theorem writeAll_needsNoStart : ∀ ws : List WireType, ∀ p ∈ c.writeAll ws,
    ∀ source depth, (p source depth).NeedsNoStart
  | [] => by simp [writeAll]
  | w :: ws => by
    unfold writeAll
    rw [List.forall_mem_cons]
    exact ⟨write_needsNoStart w, writeAll_needsNoStart ws⟩

end

mutual

theorem read_needsNoStart : ∀ (w : WireType) (depth : Int), (c.read w depth).NeedsNoStart
  | .mk tag name params id, depth => by
    unfold read
    exact c.readWith_needsNoStart _ (readAll_needsNoStart params) depth

theorem readAll_needsNoStart : ∀ ws : List WireType, ∀ p ∈ c.readAll ws,
    ∀ depth, (p depth).NeedsNoStart
  | [] => by simp [readAll]
  | w :: ws => by
    unfold readAll
    rw [List.forall_mem_cons]
    exact ⟨read_needsNoStart w, readAll_needsNoStart ws⟩

end

theorem writeFields_needsNoStart (fs : List Field) : (c.writeFields fs).NeedsNoStart := by
  induction fs with
  | nil => exact done ()
  | cons f fs ih => exact (c.write_needsNoStart _ _ _).bind fun _ => ih

theorem readFields_needsNoStart (tail : Bool) (fs : List Field) :
    (c.readFields tail fs).NeedsNoStart := by
  induction fs generalizing tail with
  | nil => exact done ()
  | cons f fs ih =>
    have rest : ∀ tail, (c.read f.type c.target.bodyDepth >>= fun item =>
        Emit.line c.target.bodyDepth (.store (shown f.name) item) >>= fun _ =>
          c.readFields tail fs).NeedsNoStart := fun tail =>
      (c.read_needsNoStart _ _).bind fun _ => (line _ _).bind fun _ => ih tail
    unfold readFields
    dsimp only
    split
    · exact (lines _).bind fun _ => rest _
    · exact rest _

theorem declarationLines_needsNoStart (f : Field) : NeedsNoStart (c.declarationLines f) := by
  have declared : NeedsNoStart (c.declare f) := by
    refine (c.serializer_needsNoStart _).bind fun s => FaultsSatisfy.bind ?_ fun _ => .ok _
    refine (Spelling.spell_needsNoStart _ _).bind fun _ => ?_
    split
    · exact .ok _
    · exact .ok _
  have declaration : ∀ d, NeedsNoStart (c.target.declaration d) := by
    intro d
    cases c.target with
    | cpp => exact .ok _
    | typescript =>
      refine FaultsSatisfy.bind ?_ fun _ => .ok _
      unfold TypeScript.initialValue
      split <;> first | exact .ok _ | exact .error (by simp)
  exact declared.bind fun d => (declaration d).bind fun _ => .ok _

end Coder
end Code

/-! ### Files -/

namespace OutputContext

variable (x : OutputContext) (r : Registry)

theorem dependencyLine_needsNoStart (target : Target) (m dependency : Message) :
    NeedsNoStart (target.dependencyLine m dependency) := by
  cases target with
  | cpp => exact dependency.directory_needsNoStart.bind fun _ => .ok _
  | typescript =>
    exact m.directory_needsNoStart.bind fun _ => dependency.directory_needsNoStart.bind fun _ => .ok _

theorem managerImport_needsNoStart (target : Target) (m : Message) :
    NeedsNoStart (target.managerImport m) := by
  cases target with
  | cpp => exact m.directory_needsNoStart.bind fun _ => .ok _
  | typescript => exact m.directory_needsNoStart.bind fun _ => .ok _

theorem render_needsNoStart (contract : TemplateContract) (library : List Template)
    (values : List String) : NeedsNoStart (contract.render library values) := by
  unfold TemplateContract.render
  split
  · exact .error (by simp)
  · refine FaultsSatisfy.bind ?_ fun _ => .ok _
    unfold TemplateContract.template
    split
    · exact .ok _
    · exact .error (by simp)

theorem messageParts_needsNoStart (m : Message) : NeedsNoStart (x.messageParts r m) := by
  have lines : NeedsNoStart (x.dependencyLines r m) := by
    refine (r.dependencies_needsNoStart _).bind fun ids => FaultsSatisfy.bind ?_ fun _ => .ok _
    exact .mapM fun id _ => (r.get_needsNoStart id).bind fun _ => dependencyLine_needsNoStart _ _ _
  have declared : NeedsNoStart (m.fields.mapM x.coder.declarationLines) :=
    .mapM fun f _ => x.coder.declarationLines_needsNoStart f
  exact lines.bind fun _ => declared.bind fun _ =>
    (x.coder.writeFields_needsNoStart _ _).bind fun _ =>
      (x.coder.readFields_needsNoStart _ _ _).bind fun _ => .ok _

theorem messageFile_needsNoStart (m : Message) : NeedsNoStart (x.messageFile r m) := by
  have values : ∀ parts, NeedsNoStart (x.target.messageValues parts) := by
    intro parts
    cases x.target with
    | cpp =>
      show NeedsNoStart (Cpp.messageValues parts)
      unfold Cpp.messageValues
      split
      · exact .error (by simp)
      · exact .ok _
    | typescript => exact .ok _
  have logged : NeedsNoStart (x.log m) := by
    unfold log
    split
    · exact .error (by simp)
    · exact .ok _
  exact (x.messageParts_needsNoStart r m).bind fun parts => (values parts).bind fun _ =>
    (render_needsNoStart _ _ _).bind fun _ => logged.bind fun _ =>
      (m.directory_needsNoStart.bind fun _ => .ok _).bind fun _ => .ok _

/-- Files are laid out without asking whether a generator has been started. -/
theorem files_needsNoStart : NeedsNoStart (x.files r) := by
  have manager : NeedsNoStart (x.managerFile r) :=
    (FaultsSatisfy.mapM fun m _ => managerImport_needsNoStart _ m).bind fun _ =>
      (render_needsNoStart _ _ _).bind fun _ => .ok _
  exact (FaultsSatisfy.mapM fun m _ => x.messageFile_needsNoStart r m).bind fun _ =>
    manager.bind fun _ => .ok _

end OutputContext

namespace FileAction

/-- Whatever the tree is, the action does not give the fault of a generator that has not been
started. -/
def NeedsNoStart {α : Type} (a : FileAction α) : Prop :=
  ∀ t, PacketSmith.NeedsNoStart (a.run t).1

theorem checkText_needsNoStart (s : String) : PacketSmith.NeedsNoStart (checkText s) := by
  intro f h target same
  rcases eq_of_checkText h with rfl | ⟨place, rfl⟩
  · cases same
  · cases same

theorem problem_needsNoStart {α : Type} (p : FilePath) (r : Except FileProblem α) :
    PacketSmith.NeedsNoStart (r.mapError (problemAt p)) := by
  cases r with
  | ok v => exact .ok v
  | error problem => exact .error (by simp [problemAt])

theorem placeFor_needsNoStart (inTheWay : Entry → Bool) (problem : FileProblem) (p : FilePath)
    (t : FileTree) : PacketSmith.NeedsNoStart (placeFor inTheWay problem p t) :=
  (checkText_needsNoStart _).bind fun _ => problem_needsNoStart _ _

theorem makeDirectories_needsNoStart (p : FilePath) : NeedsNoStart (makeDirectories p) :=
  FaultsSatisfy.makeDirectories fun _ _ _ => placeFor_needsNoStart _ _ _

theorem writeFile_needsNoStart (p : FilePath) (content : ByteArray) :
    NeedsNoStart (writeFile p content) := by
  intro t
  rw [run_writeFile]
  cases found : writePlace p t with
  | ok l => exact .ok _
  | error f => exact .error (placeFor_needsNoStart _ _ _ _ f found)

end FileAction

namespace Generator

variable {g : Generator} (r : Registry)

theorem writeFiles_needsNoStart (fs : List OutputFile) :
    FileAction.NeedsNoStart (writeFiles fs) := by
  induction fs with
  | nil => exact fun _ => .ok _
  | cons f fs ih =>
    intro t
    exact (FileAction.makeDirectories_needsNoStart _ t).run_bind fun _ u =>
      (FileAction.writeFile_needsNoStart _ _ u).run_bind fun _ v => (ih v).run_bind fun _ _ => .ok _

/-- A generator says that it has not been started exactly if it has no context. -/
theorem files_eq_notInitialized_iff {name : String} :
    g.files r = .error (.notInitialized name) ↔ g.context = none ∧ name = g.target.name := by
  unfold files getContext
  cases g.context with
  | none =>
    show Except.error (Fault.notInitialized g.target.name) = _ ↔ _
    simp [eq_comm]
  | some x =>
    refine ⟨fun h => absurd rfl (x.files_needsNoStart r _ h name), ?_⟩
    rintro ⟨none, -⟩
    cases none

/-- A generator says that it has not been started exactly if it has no context. -/
theorem generate_eq_notInitialized_iff {name : String} (t : FileTree) :
    ((g.generate r).run t).1 = .error (.notInitialized name) ↔
      g.context = none ∧ name = g.target.name := by
  rw [← files_eq_notInitialized_iff r]
  cases laid : g.files r with
  | error e =>
    rw [run_generate_of_error laid]
    simp
  | ok files =>
    rw [run_generate laid]
    refine ⟨fun h => absurd rfl (writeFiles_needsNoStart files t _ h name), fun h => ?_⟩
    cases h

end Generator
end PacketSmith
