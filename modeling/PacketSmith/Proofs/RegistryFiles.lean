import PacketSmith.Proofs.CycleDetection
import PacketSmith.Proofs.FileLayout
import PacketSmith.Proofs.PacketCalls

/-!
# Only cycles keep files from being laid out

The files of a registry whose ids, names and modules are given can be laid out unless messages form
a cycle, and then the fault is the same for every target (`files_iff_of_ofDefinition`).

* Of all steps that lay out the file of a message, the search for its dependencies alone can fail:
  types are resolved, so they have serializers, parameters, spellings and initial values, and what
  the search gives are ids of messages (`exists_messageFile`).
* So the files fail as the dependencies of the messages do, one message after the other
  (`files_eq_error_iff`), and the target is not asked for these.
-/

namespace PacketSmith

open Code

/-! ### Steps and lists -/

/-- Two steps give a result if the first does and the second does behind it. -/
theorem exists_bind_eq_ok {α β : Type} {r : Except Fault α} {f : α → Except Fault β} {a : α}
    (first : r = .ok a) (second : ∃ b, f a = .ok b) : ∃ b, (r >>= f) = .ok b := by
  rw [first]
  exact second

section Items

variable {α β γ : Type} {f : α → Except Fault β} {g : α → Except Fault γ} {xs : List α} {e : Fault}

/-- A list cannot be made item by item because of one of the items. -/
theorem exists_of_mapM_eq_error (h : xs.mapM f = .error e) : ∃ x ∈ xs, f x = .error e := by
  induction xs with
  | nil => cases h
  | cons x xs ih =>
    rw [List.mapM_cons] at h
    rcases cases_of_bind_eq_error h with first | ⟨y, -, h⟩
    · exact ⟨x, List.mem_cons_self, first⟩
    rcases cases_of_bind_eq_error h with rest | ⟨ys, -, h⟩
    · obtain ⟨u, mem, fails⟩ := ih rest
      exact ⟨u, List.mem_cons_of_mem _ mem, fails⟩
    · cases h

/-- Two lists whose items fail alike fail alike. -/
theorem mapM_eq_error (alike : ∀ x ∈ xs, ∀ e, f x = .error e ↔ g x = .error e)
    (h : xs.mapM f = .error e) : xs.mapM g = .error e := by
  induction xs with
  | nil => cases h
  | cons x xs ih =>
    obtain ⟨first, rest⟩ := List.forall_mem_cons.mp alike
    rw [List.mapM_cons] at h ⊢
    rcases cases_of_bind_eq_error h with fails | ⟨y, returns, h⟩
    · rw [(first e).mp fails]
      rfl
    rcases cases_of_bind_eq_error h with fails | ⟨ys, -, h⟩
    · cases made : g x with
      | error fault => cases returns.symm.trans ((first fault).mpr made)
      | ok z =>
        rw [ih rest fails]
        rfl
    · cases h

end Items

/-! ### Declarations -/

namespace Code

variable {c : Coder} {ids : TypeName.MessageIds} {w : WireType}

/-- A resolved type has a serializer. -/
theorem exists_serializer (std : Script.IsStandard c) (h : w.Resolved ids) :
    ∃ s, c.serializer w = .ok s := by
  cases h with
  | scalar word => exact ⟨_, std _ _ rfl⟩
  | sequence element => exact ⟨_, std _ _ rfl⟩
  | map key value => exact ⟨_, std _ _ rfl⟩
  | message name other found => exact ⟨_, std _ _ rfl⟩

/-- A field of a resolved type has an initial value. -/
theorem exists_initialValue (h : w.Resolved ids) :
    ∃ value, TypeScript.initialValue w.tag = .ok value := by
  cases h with
  | @scalar word kind found => cases kind <;> exact ⟨_, rfl⟩
  | @sequence kind element resolved => cases kind <;> exact ⟨_, rfl⟩
  | map key value => exact ⟨_, rfl⟩
  | message name other found => exact ⟨_, rfl⟩

/-- A field of a resolved type is declared if the type has a serializer. -/
theorem exists_declarationLines_of_serializer {f : Field} {s : Serializer}
    (serializer : c.serializer f.type = .ok s) (h : f.type.Resolved ids) :
    ∃ lines, c.declarationLines f = .ok lines := by
  obtain ⟨type, spelled, -⟩ := Script.spell_resolved c.target h
  obtain ⟨value, initial⟩ := exists_initialValue h
  obtain ⟨typed, given⟩ : ∃ typed, c.target.fieldType s f.type = .ok typed := by
    refine exists_bind_eq_ok spelled ?_
    split <;> exact ⟨_, rfl⟩
  have declared : c.declare f = .ok ⟨f, typed, shown f.name⟩ := by
    rw [Coder.declare, serializer]
    show (c.target.fieldType s f.type >>= _) = _
    rw [given]
    rfl
  refine exists_bind_eq_ok declared ?_
  cases c.target with
  | cpp => exact ⟨_, rfl⟩
  | typescript =>
    obtain ⟨declaration, made⟩ : ∃ declaration,
        TypeScript.declaration ⟨f, typed, shown f.name⟩ = .ok declaration :=
      exists_bind_eq_ok initial ⟨_, rfl⟩
    exact exists_bind_eq_ok made ⟨_, rfl⟩

/-- A field of a resolved type is declared. -/
theorem exists_declarationLines (std : Script.IsStandard c) {f : Field}
    (h : f.type.Resolved ids) : ∃ lines, c.declarationLines f = .ok lines := by
  obtain ⟨s, serializer⟩ := exists_serializer std h
  exact exists_declarationLines_of_serializer serializer h

end Code

/-! ### The file of a message -/

namespace OutputContext

variable {x : OutputContext} {r : Registry} {m b : Message}

/-- A message makes another one known if both have modules. -/
theorem exists_dependencyLine (t : Target) (here : m.module ≠ none) (there : b.module ≠ none) :
    ∃ s, t.dependencyLine m b = .ok s := by
  have source := Message.directory_eq here
  have target := Message.directory_eq there
  cases t with
  | cpp => exact exists_bind_eq_ok target ⟨_, rfl⟩
  | typescript => exact exists_bind_eq_ok source (exists_bind_eq_ok target ⟨_, rfl⟩)

/-- The pieces of a message's file are there once its dependencies are made known. -/
theorem exists_messageParts {ids : TypeName.MessageIds}
    (prepared : Generator.prepare x.target = .ok x.coder)
    (fields : ∀ f ∈ m.fields, f.type.Resolved ids) {lines : List String}
    (known : x.dependencyLines r m = .ok lines) : ∃ p, x.messageParts r m = .ok p := by
  obtain ⟨-, std⟩ := of_prepare prepared
  obtain ⟨declared, made⟩ : ∃ declared, m.fields.mapM x.coder.declarationLines = .ok declared :=
    exists_mapM_eq_ok fun f mem => exists_declarationLines std (fields f mem)
  have written := (calls_writeFields std fields 0).result
  have read := (calls_readFields std fields false (x.coder.writeFields m.fields 0).next).result
  exact exists_bind_eq_ok known (exists_bind_eq_ok made (exists_bind_eq_ok written
    (exists_bind_eq_ok read ⟨_, rfl⟩)))

variable (built : r.IsBuilt) (modules : ∀ m ∈ r.messages, m.module ≠ none)

include built modules

/-- The dependencies of a message are made known if they can be told. -/
theorem exists_dependencyLines (hm : m ∈ r.messages) {ids : List MessageId}
    (h : r.dependencies m.id = .ok ids) : ∃ lines, x.dependencyLines r m = .ok lines := by
  have known : ∀ id ∈ ids, ∃ s, (do
      let dependency ← r.get id
      x.target.dependencyLine m dependency) = .ok s := by
    intro id mem
    obtain ⟨b, found⟩ := Registry.exists_find?_of_mem_dependencies built hm h mem
    have got : r.get id = .ok b := by rw [Registry.get, found]
    have there := modules b (Registry.mem_of_find? found).1
    exact exists_bind_eq_ok got (exists_dependencyLine x.target (modules m hm) there)
  obtain ⟨lines, made⟩ := exists_mapM_eq_ok known
  exact exists_bind_eq_ok h (exists_bind_eq_ok made ⟨_, rfl⟩)

/-- The file of a message is laid out if its dependencies can be told. -/
theorem exists_messageFile (prepared : Generator.prepare x.target = .ok x.coder)
    (hm : m ∈ r.messages) (id : m.id ≠ .null) (name : m.name ≠ none) {ids : List MessageId}
    (h : r.dependencies m.id = .ok ids) : ∃ file, x.messageFile r m = .ok file := by
  obtain ⟨lines, known⟩ := exists_dependencyLines (x := x) built modules hm h
  obtain ⟨p, parts⟩ := exists_messageParts prepared (built.resolved m hm) known
  obtain ⟨values, content, -, given, rendered, -, -⟩ := exists_content parts name
  have logged : x.log m = .ok () := by simp [log, id]
  obtain ⟨path, located⟩ : ∃ path, x.messagePath m = .ok path :=
    exists_bind_eq_ok (Message.directory_eq (modules m hm)) ⟨_, rfl⟩
  exact exists_bind_eq_ok parts (exists_bind_eq_ok given (exists_bind_eq_ok rendered
    (exists_bind_eq_ok logged (exists_bind_eq_ok located ⟨_, rfl⟩))))

/-- Every target has a context that lays out the file of a message if its dependencies can be told. -/
theorem exists_context_of_dependencies (t : Target) (hm : m ∈ r.messages) (id : m.id ≠ .null)
    (name : m.name ≠ none) {ids : List MessageId} (h : r.dependencies m.id = .ok ids) :
    ∃ (x : OutputContext) (file : OutputFile), x.target = t ∧ x.messageFile r m = .ok file := by
  obtain ⟨c, prepared, rfl, -⟩ := Script.exists_prepare t
  obtain ⟨file, laid⟩ := exists_messageFile (x := ⟨⟨.here, ["out"]⟩, c, false⟩) built modules
    prepared hm id name h
  exact ⟨_, file, rfl, laid⟩

/-! ### The files of a registry -/

variable (prepared : Generator.prepare x.target = .ok x.coder)
  (ids : ∀ m ∈ r.messages, m.id ≠ .null) (names : ∀ m ∈ r.messages, m.name ≠ none)

include prepared ids names

/-- The file of a message fails exactly as the search for its dependencies does. -/
theorem messageFile_eq_error_iff (hm : m ∈ r.messages) (e : Fault) :
    x.messageFile r m = .error e ↔ r.dependencies m.id = .error e := by
  have propagates : ∀ e, r.dependencies m.id = .error e → x.messageFile r m = .error e := by
    intro e fails
    unfold messageFile messageParts dependencyLines
    rw [fails]
    rfl
  refine ⟨fun fails => ?_, propagates e⟩
  cases run : r.dependencies m.id with
  | error fault =>
    cases fails.symm.trans (propagates fault run)
    rfl
  | ok found =>
    obtain ⟨file, made⟩ := exists_messageFile built modules prepared hm (ids m hm) (names m hm) run
    cases fails.symm.trans made

/-- The files fail exactly as the dependencies of the messages do, in order. -/
theorem files_eq_error_iff (e : Fault) :
    x.files r = .error e ↔ r.messages.mapM (fun m => r.dependencies m.id) = .error e := by
  have alike : ∀ m ∈ r.messages, ∀ e,
      x.messageFile r m = .error e ↔ r.dependencies m.id = .error e :=
    fun m hm e => messageFile_eq_error_iff built modules prepared ids names hm e
  constructor
  · intro fails
    rcases cases_of_bind_eq_error fails with fails | ⟨files, -, fails⟩
    · exact mapM_eq_error alike fails
    -- behind the messages comes the manager, which every registry with modules has
    obtain ⟨manager, made⟩ := (exists_managerFile_iff (x := x)).mpr modules
    rw [made] at fails
    cases fails
  · intro fails
    have messages : r.messages.mapM (x.messageFile r) = .error e :=
      mapM_eq_error (fun m hm e => (alike m hm e).symm) fails
    rw [files, messages]
    rfl

/-- The files are laid out if all dependencies can be told. -/
theorem exists_files_of_dependencies {found : List (List MessageId)}
    (told : r.messages.mapM (fun m => r.dependencies m.id) = .ok found) :
    ∃ files, x.files r = .ok files := by
  cases laid : x.files r with
  | ok files => exact ⟨files, rfl⟩
  | error e =>
    rw [files_eq_error_iff built modules prepared ids names, told] at laid
    cases laid

end OutputContext

namespace Registry

variable {r : Registry}

/-- Some message reaches a cycle exactly if there is one. -/
theorem exists_hasCycleFrom_iff : (∃ p ∈ r.messages, r.HasCycleFrom p) ↔
    (∃ m ∈ r.messages, m.HoldsItself) ∨ ∃ c, r.IsCycle c := by
  constructor
  · rintro ⟨p, hp, a, path, own | ⟨c, cycle, -⟩⟩
    · exact .inl ⟨a, mem_of_reaches hp path, own⟩
    · exact .inr ⟨c, cycle⟩
  · rintro (⟨m, hm, own⟩ | ⟨c, cycle⟩)
    · exact ⟨m, hm, m, .refl, .inl own⟩
    · have several : 0 < c.length := Nat.lt_of_lt_of_le Nat.two_pos cycle.several
      obtain ⟨a, mem⟩ := List.exists_mem_of_length_pos several
      obtain ⟨u, v, -, path, nests, -⟩ := cycle.exists_pair mem
      -- a message of a cycle nests another one, so it is in the registry
      have ha : a ∈ r.messages := by
        rcases path.cases_head with rfl | ⟨w, first, -⟩
        · exact nests.1
        · exact first.1
      exact ⟨a, ha, a, .refl, .inr ⟨c, cycle, mem⟩⟩

/-- Only cycles keep files from being laid out. In a registry whose ids, names and modules are not
null, a started generator fails exactly if a message has a field of its own type or messages lie on
a cycle. The fault is a cycle then, the same for every started generator. Otherwise there is one
file for each message in order, then the file of the manager, then the support files. -/
theorem files_iff_of_ofDefinition {d : RegistryDefinition} (h : ofDefinition d = .ok r)
    (ids : ∀ m ∈ r.messages, m.id ≠ .null) (names : ∀ m ∈ r.messages, m.name ≠ none)
    (modules : ∀ m ∈ r.messages, m.module ≠ none) {g : Generator} {x : OutputContext}
    (started : g.context = some x) (prepared : Generator.prepare x.target = .ok x.coder) :
    ((∃ e, g.files r = .error e) ↔ (∃ m ∈ r.messages, m.HoldsItself) ∨ ∃ c, r.IsCycle c) ∧
    (∀ e, g.files r = .error e → e.isCycle = true ∧
      ∀ (g' : Generator) (x' : OutputContext), g'.context = some x' →
        Generator.prepare x'.target = .ok x'.coder → g'.files r = .error e) ∧
    (∀ files, g.files r = .ok files → ∃ messages manager,
      files = messages ++ [manager] ++ x.supportFiles ∧
      List.Forall₂ (fun m file => x.messageFile r m = .ok file ∧ x.messagePath m = .ok file.path)
        r.messages messages ∧
      x.managerFile r = .ok manager ∧
      manager.path = x.root.child (OutputContext.managerName ++ "." ++ x.target.extension)) := by
  have built := isBuilt_of_ofDefinition h
  have run : ∀ {g : Generator} {x : OutputContext}, g.context = some x → g.files r = x.files r := by
    intro g x started
    rw [Generator.files, Generator.getContext, started]
    rfl
  have fails : ∀ {g : Generator} {x : OutputContext}, g.context = some x →
      Generator.prepare x.target = .ok x.coder → ∀ e, g.files r = .error e ↔
        r.messages.mapM (fun m => r.dependencies m.id) = .error e := by
    intro g x started prepared e
    rw [run started]
    exact OutputContext.files_eq_error_iff built modules prepared ids names e
  -- the message whose dependencies cannot be told leads to a cycle
  have cycle : ∀ e, g.files r = .error e →
      e.isCycle = true ∧ ∃ p ∈ r.messages, r.HasCycleFrom p := by
    intro e error
    obtain ⟨p, hp, stops⟩ := exists_of_mapM_eq_error ((fails started prepared e).mp error)
    obtain ⟨isCycle, cyclic⟩ := hasCycleFrom_of_stops built ids hp (stops_of_dependencies stops)
    exact ⟨isCycle, p, hp, cyclic⟩
  refine ⟨?_, ?_, ?_⟩
  · rw [← exists_hasCycleFrom_iff]
    constructor
    · rintro ⟨e, error⟩
      exact (cycle e error).2
    · rintro ⟨p, hp, cyclic⟩
      cases all : r.messages.mapM (fun m => r.dependencies m.id) with
      | error e => exact ⟨e, (fails started prepared e).mpr all⟩
      | ok found =>
        obtain ⟨found, -, told⟩ := exists_of_mem_forall₂ (forall₂_of_mapM_eq_ok all).flip hp
        exact absurd cyclic (not_hasCycleFrom_of_dependencies built ids hp told)
  · intro e error
    refine ⟨(cycle e error).1, fun g' x' started' prepared' => ?_⟩
    exact (fails started' prepared' e).mpr ((fails started prepared e).mp error)
  · intro files result
    rw [run started] at result
    obtain ⟨messages, made, result⟩ := exists_of_bind_eq_ok result
    obtain ⟨manager, registers, result⟩ := exists_of_bind_eq_ok result
    cases result
    refine ⟨messages, manager, rfl, ?_, registers, ?_⟩
    · refine (forall₂_of_mapM_eq_ok made).imp fun m file made => ?_
      exact ⟨made, OutputContext.messagePath_of_messageFile made⟩
    · obtain ⟨imports, -, rfl⟩ := OutputContext.exists_of_managerFile registers
      rfl

/-- A started generator of each target meets the cycle of the second and the third message. -/
theorem files_iff_of_ofDefinition_sample : ∃ r, ofDefinition Sample.cyclic = .ok r ∧
    ∀ t : Target, ∃ (g : Generator) (x : OutputContext) (e : Fault), g.context = some x ∧
      x.target = t ∧ Generator.prepare x.target = .ok x.coder ∧ g.files r = .error e ∧
      e.isCycle = true := by
  have cycle : ∀ r, ofDefinition Sample.cyclic = .ok r →
      r.IsCycle ((r.messages.drop 1).take 2) := by
    intro r made
    obtain rfl := Except.ok.inj (made.symm.trans (by cbv))
    refine ⟨.of_map Message.name (by decide), by decide,
      List.isChain_cons_cons.mpr ⟨?_, List.isChain_pair.mpr ?_⟩⟩
    · exact ⟨.tail _ (.head _), .tail _ (.tail _ (.head _)), _, .head _, _,
        .tail _ (.tail _ (.head _)), rfl, rfl⟩
    · exact ⟨.tail _ (.tail _ (.head _)), .tail _ (.head _), _, .head _, _, .head _, rfl, rfl⟩
  refine ⟨_, by cbv, fun t => ?_⟩
  obtain ⟨c, prepared, rfl, -⟩ := Script.exists_prepare t
  obtain ⟨x, target, prepared⟩ : ∃ x : OutputContext, x.target = c.target ∧
      Generator.prepare x.target = .ok x.coder := ⟨⟨⟨.here, ["out"]⟩, c, true⟩, rfl, prepared⟩
  obtain ⟨fails, cyclic, -⟩ := files_iff_of_ofDefinition (d := Sample.cyclic) (by cbv) (by decide)
    (by decide) (by decide) (g := ⟨c.target, some x, true⟩) rfl prepared
  obtain ⟨e, error⟩ := fails.mpr (.inr ⟨_, cycle _ (by cbv)⟩)
  exact ⟨⟨c.target, some x, true⟩, x, e, rfl, target, prepared, error, (cyclic e error).1⟩

end Registry

end PacketSmith
