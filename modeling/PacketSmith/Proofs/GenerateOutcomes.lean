import PacketSmith.Proofs.GeneratedTree
import PacketSmith.Proofs.UnreportedFaults

/-!
# How runs that generate files end

A run that generates files loads a registry, starts a generator, lays the files out and writes them.
It ends with a line that counts the files, with a line that reports a fault, or at a fault that
escapes. Behind the loading there are two kinds of causes for the last of them.

* A path has a NUL character: that of the output directory, or that of a file (`OutputFile.MeetsNul`).
  Everything else that is in the way of a path is reported.
* Null stands for a module, a name or an id that a file needs (`Registry.Lacks`), in a message that is
  laid out before dependencies that cannot be told are met (`Registry.MeetsGap`).

Each of these causes lets a fault escape (`BreaksRun`). There is no other cause as long as nothing is
nested so deep that a stack comes to its end, and no text has half of a surrogate pair alone, which
cannot be written or printed. Runs here have no stack, so this is a condition (`Request.IsModest`).
-/

namespace PacketSmith

open FileTree Code

/-! ### Paths -/

/-- A character of a text is in one of its runs, unless it is a separator. -/
theorem Path.exists_mem_runsFrom {isSeparator : Char → Bool} {c : Char}
    (own : isSeparator c = false) (run : List Char) {cs : List Char} (mem : c ∈ run ∨ c ∈ cs) :
    ∃ r ∈ runsFrom isSeparator run cs, c ∈ r := by
  have closed : ∀ {run : List Char} {runs : List (List Char)}, c ∈ run →
      run.reverse ∈ closeRun run runs := by
    intro run runs inside
    rw [closeRun, if_neg (by simpa using List.ne_nil_of_mem inside)]
    exact List.mem_cons_self
  have later : ∀ {run r : List Char} {runs : List (List Char)}, r ∈ runs → r ∈ closeRun run runs := by
    intro run r runs inside
    unfold closeRun
    split
    · exact inside
    · exact List.mem_cons_of_mem _ inside
  induction cs generalizing run with
  | nil =>
    have inside : c ∈ run := mem.resolve_right List.not_mem_nil
    exact ⟨run.reverse, closed inside, List.mem_reverse.mpr inside⟩
  | cons d cs ih =>
    rw [runsFrom]
    by_cases separator : isSeparator d = true
    · rw [if_pos separator]
      rcases mem with inside | inside
      · exact ⟨run.reverse, closed inside, List.mem_reverse.mpr inside⟩
      · rcases List.mem_cons.mp inside with rfl | inside
        · rw [own] at separator
          cases separator
        · obtain ⟨r, isRun, there⟩ := ih [] (.inr inside)
          exact ⟨r, later isRun, there⟩
    · rw [if_neg separator]
      refine ih _ ?_
      rcases mem with inside | inside
      · exact .inl (List.mem_cons_of_mem _ inside)
      · rcases List.mem_cons.mp inside with rfl | inside
        · exact .inl List.mem_cons_self
        · exact .inr inside

/-- The root in an output directory has a NUL character if the directory has. -/
theorem Generator.nul_mem_rootIn_iff (target : Target) (directory : String) :
    Char.ofNat 0 ∈ (rootIn target directory).text.toList ↔ Char.ofNat 0 ∈ directory.toList := by
  have own : Char.ofNat 0 ∉ target.rootDirectory.toList := by cases target <;> decide
  rw [FilePath.mem_text_iff (by decide) (by decide), rootIn_eq]
  constructor
  · rintro ⟨s, mem, nul⟩
    rcases List.mem_append.mp mem with mem | mem
    · obtain ⟨run, isRun, rfl⟩ := List.mem_map.mp (List.mem_of_mem_filter mem)
      rw [String.toList_ofList] at nul
      exact (Path.mem_of_mem_runsFrom isRun nul).resolve_left List.not_mem_nil
    · rw [List.mem_singleton.mp mem] at nul
      exact absurd nul own
  · intro nul
    have own : Path.isSlash (Char.ofNat 0) = false := by decide
    obtain ⟨run, isRun, inside⟩ := Path.exists_mem_runsFrom own [] (.inr nul)
    have there : Char.ofNat 0 ∈ (String.ofList run).toList := by rwa [String.toList_ofList]
    refine ⟨String.ofList run, List.mem_append_left _ (List.mem_filter.mpr
      ⟨List.mem_map_of_mem isRun, ?_⟩), there⟩
    rw [bne_iff_ne]
    intro dot
    rw [dot] at there
    exact absurd there (by decide)

/-! ### Making directories and writing files -/

namespace FileAction

variable {t : FileTree} {p : FilePath}

/-- A path that can be given to a file system has a place for something new, or the reason why it has
none is reported. -/
theorem faultsAre_placeFor (text : checkText p.text = .ok ()) (inTheWay : Entry → Bool)
    (problem : FileProblem) (t : FileTree) : FaultsAre true (placeFor inTheWay problem p t) := by
  rw [placeFor, text]
  show FaultsAre true ((t.freePlace p inTheWay problem).mapError (problemAt p))
  cases t.freePlace p inTheWay problem with
  | ok l => exact .ok l
  | error problem => exact .error rfl

theorem faultsAre_makeDirectories (text : checkText p.text = .ok ()) (t : FileTree) :
    FaultsAre true ((makeDirectories p).run t).1 := by
  refine FaultsSatisfy.makeDirectories (fun front behind split => ?_) t
  have front : checkText (FilePath.mk p.start front).text = .ok () := by
    refine checkText_of_append (b := behind) ?_
    rw [← split]
    exact text
  exact faultsAre_placeFor front _ _

/-- Making directories lets a fault escape if the path has a NUL character. -/
theorem escapes_makeDirectories_iff :
    Escapes ((makeDirectories p).run t).1 ↔ Char.ofNat 0 ∈ p.text.toList := by
  by_cases some : p.segments = []
  · have none : ¬ Char.ofNat 0 ∈ p.text.toList := by
      rw [FilePath.mem_text_iff (by decide) (by decide), some]
      simp
    refine iff_of_false ?_ none
    rw [makeDirectories, some]
    exact not_escapes_ok ()
  · cases text : checkText p.text with
    | error f =>
      rw [makeDirectories_of_checkText some text, ← escapes_checkText_iff, text]
    | ok _ =>
      refine iff_of_false ?_ fun nul => ?_
      · exact (faultsAre_makeDirectories text t).not_escapes
      · rw [← escapes_checkText_iff, text] at nul
        exact not_escapes_ok _ nul

/-- Writing a file lets a fault escape if the path has a NUL character. -/
theorem escapes_writeFile_iff {content : ByteArray} :
    Escapes ((writeFile p content).run t).1 ↔ Char.ofNat 0 ∈ p.text.toList := by
  have place : Escapes (writePlace p t) ↔ Char.ofNat 0 ∈ p.text.toList := by
    rw [← escapes_checkText_iff]
    cases text : checkText p.text with
    | error f =>
      rw [writePlace, placeFor, text]
      exact ⟨Escapes.cast, Escapes.cast⟩
    | ok _ =>
      exact iff_of_false (faultsAre_placeFor text _ _ t).not_escapes (not_escapes_ok _)
  rw [run_writeFile, ← place]
  cases writePlace p t with
  | ok l => exact iff_of_false (not_escapes_ok ()) (not_escapes_ok l)
  | error f => exact ⟨Escapes.cast, Escapes.cast⟩

end FileAction

/-- The path of a file has a NUL character, and this is met when the file is written: it is in the
directory, or the directory can be made. -/
def OutputFile.MeetsNul (f : OutputFile) (t : FileTree) : Prop :=
  Char.ofNat 0 ∈ f.path.parent.text.toList ∨
    ((FileAction.makeDirectories f.path.parent).run t).1 = .ok () ∧
      Char.ofNat 0 ∈ f.path.text.toList

theorem OutputFile.escapes_write_iff {f : OutputFile} {t : FileTree} :
    Escapes (f.write.run t).1 ↔ f.MeetsNul t := by
  rw [OutputFile.write, FileAction.escapes_run_bind_iff, FileAction.escapes_makeDirectories_iff]
  refine or_congr_right ?_
  constructor
  · rintro ⟨⟨⟩, u, made, fails⟩
    exact ⟨congrArg Prod.fst made, FileAction.escapes_writeFile_iff.mp fails⟩
  · rintro ⟨made, nul⟩
    exact ⟨(), _, Prod.ext made rfl, FileAction.escapes_writeFile_iff.mpr nul⟩

namespace Generator

variable {f : OutputFile} {fs : List OutputFile} {t u : FileTree}

/-- Writing files lets a fault escape at the first file, or behind it. -/
theorem escapes_writeFiles_cons : Escapes ((writeFiles (f :: fs)).run t).1 ↔
    f.MeetsNul t ∨ ∃ v, f.write.run t = (.ok (), v) ∧ Escapes ((writeFiles fs).run v).1 := by
  rw [writeFiles_cons, FileAction.escapes_run_bind_iff, OutputFile.escapes_write_iff]
  simp only [FileAction.run_bind_pure, escapes_map_iff]
  exact or_congr_right ⟨fun ⟨_, v, h⟩ => ⟨v, h⟩, fun ⟨v, h⟩ => ⟨(), v, h⟩⟩

/-- Files are written if the first one is, and then the others. -/
theorem exists_writeFiles_cons : (∃ paths, (writeFiles (f :: fs)).run t = (.ok paths, u)) ↔
    ∃ v, f.write.run t = (.ok (), v) ∧ ∃ paths, (writeFiles fs).run v = (.ok paths, u) := by
  constructor
  · rintro ⟨paths, h⟩
    rw [writeFiles_cons] at h
    obtain ⟨⟨⟩, v, first, h⟩ := exists_of_run_bind h
    obtain ⟨rest, w, others, h⟩ := exists_of_run_bind h
    cases h
    exact ⟨v, first, rest, others⟩
  · rintro ⟨v, first, paths, others⟩
    refine ⟨f.path :: paths, ?_⟩
    rw [run_writeFiles_cons, first]
    dsimp only
    rw [others]

/-- Writing files lets a fault escape at a file that meets a NUL character, if those before it are
written. -/
theorem escapes_writeFiles_iff : Escapes ((writeFiles fs).run t).1 ↔
    ∃ before f after u, fs = before ++ f :: after ∧
      (∃ paths, (writeFiles before).run t = (.ok paths, u)) ∧ f.MeetsNul u := by
  induction fs generalizing t with
  | nil => exact iff_of_false (not_escapes_ok []) (by simp)
  | cons f fs ih =>
    rw [escapes_writeFiles_cons]
    constructor
    · rintro (nul | ⟨v, first, fails⟩)
      · exact ⟨[], f, fs, t, rfl, ⟨[], rfl⟩, nul⟩
      · obtain ⟨before, g, after, u, rfl, written, nul⟩ := ih.mp fails
        exact ⟨f :: before, g, after, u, rfl, exists_writeFiles_cons.mpr ⟨v, first, written⟩, nul⟩
    · rintro ⟨before, g, after, u, split, written, nul⟩
      cases before with
      | nil =>
        obtain ⟨rfl, rfl⟩ := List.cons.inj split
        obtain ⟨paths, written⟩ := written
        obtain ⟨-, rfl⟩ := Prod.mk.inj written
        exact .inl nul
      | cons b before =>
        obtain ⟨rfl, rfl⟩ := List.cons.inj split
        obtain ⟨v, first, written⟩ := exists_writeFiles_cons.mp written
        exact .inr ⟨v, first, ih.mpr ⟨before, g, after, u, rfl, written, nul⟩⟩

/-! ### Starting -/

/-- What is in the way of emptying a root is reported. -/
theorem faultsAre_emptying (root : FilePath) (clean : Bool) (t : FileTree) :
    FaultsAre true ((emptying root clean).run t).1 := by
  cases clean with
  | false => exact .ok ()
  | true =>
    have there : FaultsAre true (FileAction.isThere root t) := by
      unfold FileAction.isThere
      split
      · exact .ok true
      · exact .error rfl
      · exact .ok false
    have removed : FaultsAre true ((FileAction.removeTree root).run t).1 := by
      rw [FileAction.run_removeTree]
      split
      · exact .error rfl
      split
      · exact .error rfl
      split
      · exact .error rfl
      · exact .ok ()
    rw [run_emptying]
    split
    · rename_i f found
      exact .error (there f found)
    · exact removed
    · exact .ok ()

/-- A generator whose root can be given to a file system starts, or the reason why it does not is
reported. -/
theorem faultsAre_start {g : Generator} {directory : String} (clean : Bool)
    (text : FileAction.checkText (rootIn g.target directory).text = .ok ()) (t : FileTree) :
    FaultsAre true ((g.start directory clean).run t).1 := by
  obtain ⟨_, -, -, -, -, run⟩ := g.exists_started directory
  rw [run]
  exact (FaultsSatisfy.run_bind (faultsAre_emptying _ clean t) fun _ =>
    FileAction.faultsAre_makeDirectories text).map

/-- Starting a generator lets a fault escape if the output directory has a NUL character. -/
theorem escapes_start_iff {g : Generator} {directory : String} {clean : Bool} :
    Escapes ((g.start directory clean).run t).1 ↔ Char.ofNat 0 ∈ directory.toList := by
  rw [← nul_mem_rootIn_iff g.target, ← escapes_checkText_iff]
  cases text : FileAction.checkText (rootIn g.target directory).text with
  | error f =>
    rw [start_of_checkText text]
    exact ⟨Escapes.cast, Escapes.cast⟩
  | ok _ => exact iff_of_false (faultsAre_start clean text t).not_escapes (not_escapes_ok _)

end Generator

/-! ### Laying files out -/

/-- Null stands for something that the file of a message needs, given the ids of its dependencies:
the module of the message or of a dependency, the name that guards a header, or the id that is
logged. -/
def Registry.Lacks (r : Registry) (t : Target) (logs : Bool) (m : Message)
    (ids : List MessageId) : Prop :=
  m.module = none ∨ (∃ id ∈ ids, ∃ b, r.find? id = some b ∧ b.module = none) ∨
    (t = .cpp ∧ m.name = none) ∨ (logs = true ∧ m.id = .null)

/-- Null stands for something that the file of a message needs, and the files of the messages before
it can be laid out. -/
def Registry.MeetsGap (r : Registry) (t : Target) (logs : Bool) : Prop :=
  ∃ before m after, r.messages = before ++ m :: after ∧
    (∀ b ∈ before, ∃ ids, r.dependencies b.id = .ok ids ∧ ¬ r.Lacks t logs b ids) ∧
    ∃ ids, r.dependencies m.id = .ok ids ∧ r.Lacks t logs m ids

/-- Dependencies that cannot be told are reported. -/
theorem Registry.faultsAre_dependencies (r : Registry) (id : MessageId) :
    FaultsAre true (r.dependencies id) := by
  intro e fails
  cases stops_of_dependencies fails with
  | own _ _ own =>
    obtain ⟨f, -, -, rfl⟩ := Message.exists_of_heldIds_eq_error own
    rfl
  | cycle => rfl
  | unknown => rfl

/-- A directory is told exactly if the module is not null. -/
theorem Message.module_ne_none_of_directory {m : Message} {d : String} (h : m.directory = .ok d) :
    m.module ≠ none := by
  intro none
  rw [Message.directory, none] at h
  cases h

theorem Message.faultsAre_directory (m : Message) : FaultsAre false m.directory := by
  unfold Message.directory
  split
  · exact .ok _
  · exact .error rfl

section Targets

variable {t : Target} {m b : Message}

theorem module_ne_none_of_dependencyLine {s : String} (h : t.dependencyLine m b = .ok s) :
    b.module ≠ none := by
  cases t with
  | cpp =>
    obtain ⟨d, told, -⟩ := exists_of_bind_eq_ok h
    exact Message.module_ne_none_of_directory told
  | typescript =>
    obtain ⟨_, -, h⟩ := exists_of_bind_eq_ok h
    obtain ⟨d, told, -⟩ := exists_of_bind_eq_ok h
    exact Message.module_ne_none_of_directory told

theorem faultsAre_dependencyLine (t : Target) (m b : Message) :
    FaultsAre false (t.dependencyLine m b) := by
  cases t with
  | cpp => exact b.faultsAre_directory.bind fun _ => .ok _
  | typescript =>
    exact m.faultsAre_directory.bind fun _ => b.faultsAre_directory.bind fun _ => .ok _

/-- The values of a message's template are given unless a name is needed and null. -/
theorem exists_messageValues_iff {p : MessageParts} : (∃ values, t.messageValues p = .ok values) ↔
    ¬ (t = .cpp ∧ p.message.name = none) := by
  cases t with
  | cpp =>
    rw [Target.messageValues, Cpp.messageValues]
    cases p.message.name with
    | none => simp
    | some name => simp
  | typescript => simp [Target.messageValues]

theorem faultsAre_messageValues (t : Target) (p : MessageParts) :
    FaultsAre false (t.messageValues p) := by
  cases t with
  | cpp =>
    rw [Target.messageValues, Cpp.messageValues]
    split
    · exact .error rfl
    · exact .ok _
  | typescript => exact .ok _

/-- A message's template takes the values that are given. -/
theorem exists_render_of_messageValues {p : MessageParts} {values : List String}
    (given : t.messageValues p = .ok values) :
    ∃ content, t.messageTemplate.render Target.templates values = .ok content := by
  obtain ⟨layout, found⟩ : ∃ layout, t.messageTemplate.template Target.templates = .ok layout := by
    cases t <;> exact ⟨_, rfl⟩
  have count : values.length = t.messageTemplate.slots.length := by
    cases t with
    | cpp =>
      cases name : p.message.name with
      | none =>
        simp only [Target.messageValues, Cpp.messageValues, name] at given
        cases given
      | some text =>
        simp only [Target.messageValues, Cpp.messageValues, name] at given
        rw [← Except.ok.inj given]
        simp [Target.messageTemplate, Cpp.messageTemplate]
    | typescript =>
      rw [← Except.ok.inj given]
      simp [TypeScript.messageValues, Target.messageTemplate, TypeScript.messageTemplate]
  exact ⟨_, TemplateContract.render_eq found count⟩

end Targets

namespace OutputContext

variable {x : OutputContext} {r : Registry} {m : Message}

/-- Behind its pieces, no fault of a message's file is reported. -/
theorem faultsAre_messageFile_of_messageParts (parts : FaultsAre false (x.messageParts r m)) :
    FaultsAre false (x.messageFile r m) := by
  have logged : FaultsAre false (x.log m) := by
    unfold log
    split
    · exact .error rfl
    · exact .ok ()
  refine parts.bind fun p => (faultsAre_messageValues x.target p).bind_of_ok fun values given => ?_
  obtain ⟨content, rendered⟩ := exists_render_of_messageValues given
  rw [rendered]
  exact logged.bind fun _ =>
    (m.faultsAre_directory.bind fun _ => .ok _).bind fun _ => .ok _

variable (built : r.IsBuilt)

include built

/-- Dependencies that are told are made known exactly if their modules are not null. -/
theorem exists_dependencyLines_iff (hm : m ∈ r.messages) (module : m.module ≠ none)
    {ids : List MessageId} (told : r.dependencies m.id = .ok ids) :
    (∃ lines, x.dependencyLines r m = .ok lines) ↔
      ¬∃ id ∈ ids, ∃ b, r.find? id = some b ∧ b.module = none := by
  constructor
  · rintro ⟨lines, made⟩ ⟨id, mem, b, found, module⟩
    obtain ⟨ids', all, told', -, related⟩ := forall₂_of_dependencyLines made
    obtain rfl := Except.ok.inj (told.symm.trans told')
    obtain ⟨s, -, c, got, line⟩ := exists_of_mem_forall₂ related.flip mem
    rw [Registry.get, found] at got
    obtain rfl := Except.ok.inj got
    exact module_ne_none_of_dependencyLine line module
  · intro modules
    have known : ∀ id ∈ ids, ∃ s, (do
        let dependency ← r.get id
        x.target.dependencyLine m dependency) = .ok s := by
      intro id mem
      obtain ⟨b, found⟩ := Registry.exists_find?_of_mem_dependencies built hm told mem
      have got : r.get id = .ok b := by rw [Registry.get, found]
      exact exists_bind_eq_ok got (exists_dependencyLine x.target module
        fun none => modules ⟨id, mem, b, found, none⟩)
    obtain ⟨all, made⟩ := exists_mapM_eq_ok known
    exact exists_bind_eq_ok told (exists_bind_eq_ok made ⟨_, rfl⟩)

/-- No fault in making known what is told is reported. -/
theorem faultsAre_dependencyLines (hm : m ∈ r.messages) {ids : List MessageId}
    (told : r.dependencies m.id = .ok ids) : FaultsAre false (x.dependencyLines r m) := by
  rw [dependencyLines, told]
  show FaultsAre false (ids.mapM _ >>= fun _ => _)
  refine FaultsSatisfy.bind (.mapM fun id mem => ?_) fun _ => .ok _
  obtain ⟨b, found⟩ := Registry.exists_find?_of_mem_dependencies built hm told mem
  rw [Registry.get, found]
  exact faultsAre_dependencyLine x.target m b

variable (prepared : Generator.prepare x.target = .ok x.coder)

include prepared

/-- The file of a message is laid out exactly if its dependencies can be told and null stands for
nothing that it needs. -/
theorem exists_messageFile_iff (hm : m ∈ r.messages) : (∃ file, x.messageFile r m = .ok file) ↔
    ∃ ids, r.dependencies m.id = .ok ids ∧ ¬ r.Lacks x.target x.logs m ids := by
  constructor
  · rintro ⟨file, h⟩
    obtain ⟨p, parts, h⟩ := exists_of_bind_eq_ok h
    obtain ⟨values, given, h⟩ := exists_of_bind_eq_ok h
    obtain ⟨content, -, h⟩ := exists_of_bind_eq_ok h
    obtain ⟨_, logged, h⟩ := exists_of_bind_eq_ok h
    obtain ⟨path, located, -⟩ := exists_of_bind_eq_ok h
    obtain ⟨lines, made, rfl, -, -⟩ := exists_of_messageParts parts
    obtain ⟨ids, -, told, -⟩ := forall₂_of_dependencyLines made
    have module : p.message.module ≠ none := by
      obtain ⟨d, told, -⟩ := exists_of_bind_eq_ok located
      exact Message.module_ne_none_of_directory told
    refine ⟨ids, told, ?_⟩
    rintro (null | gap | unnamed | ⟨logs, null⟩)
    · exact module null
    · exact (exists_dependencyLines_iff built hm module told).mp ⟨lines, made⟩ gap
    · exact exists_messageValues_iff.mp ⟨values, given⟩ unnamed
    · rw [log, logs, null] at logged
      cases logged
  · rintro ⟨ids, told, whole⟩
    simp only [Registry.Lacks, not_or] at whole
    obtain ⟨module, modules, named, logs⟩ := whole
    obtain ⟨lines, linked⟩ := (exists_dependencyLines_iff (x := x) built hm module told).mpr modules
    obtain ⟨p, parts⟩ := exists_messageParts prepared (built.resolved m hm) linked
    obtain ⟨-, -, rfl, -, -⟩ := exists_of_messageParts parts
    obtain ⟨values, given⟩ := exists_messageValues_iff.mpr named
    obtain ⟨content, rendered⟩ := exists_render_of_messageValues given
    have logged : x.log p.message = .ok () := by
      rw [log, if_neg]
      simpa using logs
    obtain ⟨path, located⟩ : ∃ path, x.messagePath p.message = .ok path :=
      exists_bind_eq_ok (Message.directory_eq module) ⟨_, rfl⟩
    exact exists_bind_eq_ok parts (exists_bind_eq_ok given (exists_bind_eq_ok rendered
      (exists_bind_eq_ok logged (exists_bind_eq_ok located ⟨_, rfl⟩))))

/-- Once dependencies are told, no fault of a message's file is reported. -/
theorem faultsAre_messageFile (hm : m ∈ r.messages) {ids : List MessageId}
    (told : r.dependencies m.id = .ok ids) : FaultsAre false (x.messageFile r m) := by
  apply faultsAre_messageFile_of_messageParts
  cases known : x.dependencyLines r m with
  | error e =>
    rw [messageParts, known]
    exact .error (faultsAre_dependencyLines built hm told e known)
  | ok all =>
    obtain ⟨p, made⟩ := exists_messageParts prepared (built.resolved m hm) known
    rw [made]
    exact .ok p

/-- The file of a message lets a fault escape if null stands for something that it needs. -/
theorem escapes_messageFile_iff (hm : m ∈ r.messages) : Escapes (x.messageFile r m) ↔
    ∃ ids, r.dependencies m.id = .ok ids ∧ r.Lacks x.target x.logs m ids := by
  have files := exists_messageFile_iff built prepared hm
  constructor
  · intro fails
    cases told : r.dependencies m.id with
    | error e =>
      have propagates : x.messageFile r m = .error e := by
        unfold messageFile messageParts dependencyLines
        rw [told]
        rfl
      rw [propagates, escapes_error_iff, r.faultsAre_dependencies m.id e told] at fails
      cases fails
    | ok ids =>
      refine ⟨ids, rfl, ?_⟩
      by_contra whole
      obtain ⟨file, laid⟩ := files.mpr ⟨ids, told, whole⟩
      rw [laid] at fails
      exact not_escapes_ok file fails
  · rintro ⟨ids, told, lacks⟩
    refine (faultsAre_messageFile built prepared hm told).escapes_iff.mpr fun file laid => ?_
    obtain ⟨ids', told', whole⟩ := files.mp ⟨file, laid⟩
    obtain rfl := Except.ok.inj (told.symm.trans told')
    exact whole lacks

/-- Laying files out lets a fault escape if null stands for something that is needed. -/
theorem escapes_files_iff : Escapes (x.files r) ↔ r.MeetsGap x.target x.logs := by
  have manager : ¬ ∃ messages, r.messages.mapM (x.messageFile r) = .ok messages ∧
      Escapes (x.managerFile r >>= fun manager => (pure (messages ++ [manager] ++ x.supportFiles) :
        Except Fault (List OutputFile))) := by
    rintro ⟨messages, made, fails⟩
    have modules : ∀ m ∈ r.messages, m.module ≠ none := by
      intro m hm
      obtain ⟨file, -, laid⟩ := exists_of_mem_forall₂ (forall₂_of_mapM_eq_ok made).flip hm
      obtain ⟨ids, -, whole⟩ := (exists_messageFile_iff built prepared hm).mp ⟨file, laid⟩
      exact fun none => whole (.inl none)
    obtain ⟨file, laid⟩ := exists_managerFile_iff (x := x).mpr modules
    rw [laid] at fails
    exact not_escapes_ok _ fails
  have inside : ∀ {before m after}, r.messages = before ++ m :: after →
      (∀ b ∈ before, b ∈ r.messages) ∧ m ∈ r.messages := by
    intro before m after split
    rw [split]
    exact ⟨fun b mem => List.mem_append_left _ mem, by simp⟩
  unfold files Registry.MeetsGap
  rw [escapes_bind_iff, or_iff_left manager, escapes_mapM_iff]
  constructor
  · rintro ⟨before, m, after, split, fine, fails⟩
    obtain ⟨front, own⟩ := inside split
    exact ⟨before, m, after, split,
      fun b mem => (exists_messageFile_iff built prepared (front b mem)).mp (fine b mem),
      (escapes_messageFile_iff built prepared own).mp fails⟩
  · rintro ⟨before, m, after, split, fine, lacks⟩
    obtain ⟨front, own⟩ := inside split
    exact ⟨before, m, after, split,
      fun b mem => (exists_messageFile_iff built prepared (front b mem)).mpr (fine b mem),
      (escapes_messageFile_iff built prepared own).mpr lacks⟩

omit built prepared in
/-- A registry has a file for each message, one for the manager, and a support file. -/
theorem length_of_files {files : List OutputFile} (h : x.files r = .ok files) :
    files.length = r.messages.length + 2 := by
  obtain ⟨messages, made, h⟩ := exists_of_bind_eq_ok h
  obtain ⟨manager, -, h⟩ := exists_of_bind_eq_ok h
  have support : x.supportFiles.length = 1 := by
    rw [supportFiles, List.length_map]
    cases x.target <;> rfl
  rw [← Except.ok.inj h, List.length_append, List.length_append, support,
    ← (forall₂_of_mapM_eq_ok made).length_eq]
  rfl

end OutputContext

/-! ### Runs -/

/-- Why a run that generates files ends at a fault that is not handled. -/
inductive BreaksRun (target : Target) (input output : String) (clean logs : Bool) (t : FileTree) :
    Prop where
  /-- The registry cannot be loaded. -/
  | loading (h : BreaksLoading t input)
  /-- The output directory has a NUL character. -/
  | starting {r : Registry} (loaded : (Registry.load input).run t = (.ok r, t))
      (h : Char.ofNat 0 ∈ output.toList)
  /-- Null stands for something that a file needs. -/
  | layingOut {r : Registry} {g : Generator} {u : FileTree}
      (loaded : (Registry.load input).run t = (.ok r, t))
      (started : (Generator.start { target := target, logs := logs } output clean).run t = (.ok g, u))
      (h : r.MeetsGap target logs)
  /-- The path of a file has a NUL character, and those before it are written. -/
  | writing {r : Registry} {g : Generator} {before after : List OutputFile} {f : OutputFile}
      {u v : FileTree} (loaded : (Registry.load input).run t = (.ok r, t))
      (started : (Generator.start { target := target, logs := logs } output clean).run t = (.ok g, u))
      (laid : g.files r = .ok (before ++ f :: after))
      (written : ∃ paths, (Generator.writeFiles before).run u = (.ok paths, v)) (h : f.MeetsNul v)

namespace Generator

variable {g g' : Generator} {directory : String} {clean : Bool} {t u : FileTree} {r : Registry}

/-- A generator that is started has a context that logs as it does. -/
theorem exists_context_logs (started : (g.start directory clean).run t = (.ok g', u)) :
    ∃ x, g'.context = some x ∧ x.target = g.target ∧ x.logs = g.logs ∧
      x.root = rootIn g.target directory ∧ prepare x.target = .ok x.coder := by
  obtain ⟨c, prepared, target, -⟩ := Script.exists_prepare g.target
  rw [run_start _ _ _ _ prepared] at started
  cases made : ((remake (rootIn g.target directory) clean).run t).1 with
  | error e =>
    rw [made] at started
    cases started
  | ok _ =>
    rw [made] at started
    obtain ⟨same, -⟩ := Prod.mk.inj started
    obtain rfl := Except.ok.inj same
    refine ⟨_, rfl, target, rfl, rfl, ?_⟩
    show prepare c.target = .ok c
    rw [target, prepared]

/-- Generating lets a fault escape where files are laid out, or where they are written. -/
theorem escapes_generate_iff : Escapes ((g.generate r).run t).1 ↔
    Escapes (g.files r) ∨ ∃ files, g.files r = .ok files ∧ Escapes ((writeFiles files).run t).1 := by
  cases laid : g.files r with
  | error e =>
    rw [run_generate_of_error laid]
    refine ⟨fun fails => .inl fails.cast, ?_⟩
    rintro (fails | ⟨_, same, -⟩)
    · exact fails.cast
    · cases same
  | ok files =>
    rw [run_generate laid]
    refine ⟨fun fails => .inr ⟨files, rfl, fails⟩, ?_⟩
    rintro (fails | ⟨_, same, fails⟩)
    · exact absurd fails (not_escapes_ok files)
    · obtain rfl := Except.ok.inj same
      exact fails

/-- The context of a generator is there for an action if it is there. -/
theorem liftM_getContext {x : OutputContext} (context : g.context = some x) :
    (liftM g.getContext : FileAction OutputContext) = pure x := by
  rw [getContext, context]
  rfl

/-- A generator that is started lets a fault escape if null stands for something that a file needs,
or at a file that meets a NUL character. -/
theorem escapes_generate_of_start (started : (g.start directory clean).run t = (.ok g', u))
    (built : r.IsBuilt) : Escapes ((g'.generate r).run u).1 ↔ r.MeetsGap g.target g.logs ∨
      ∃ before f after v, g'.files r = .ok (before ++ f :: after) ∧
        (∃ paths, (writeFiles before).run u = (.ok paths, v)) ∧ f.MeetsNul v := by
  obtain ⟨x, context, target, logs, -, prepared⟩ := exists_context_logs started
  have same : g'.files r = x.files r := by
    rw [files, getContext, context]
    rfl
  rw [escapes_generate_iff, same, OutputContext.escapes_files_iff built prepared, target, logs]
  refine or_congr_right ?_
  simp only [escapes_writeFiles_iff]
  constructor
  · rintro ⟨_, laid, before, f, after, v, rfl, written, nul⟩
    exact ⟨before, f, after, v, laid, written, nul⟩
  · rintro ⟨before, f, after, v, laid, written, nul⟩
    exact ⟨_, laid, before, f, after, v, rfl, written, nul⟩

end Generator

namespace Request

variable {target : Target} {input output : String} {clean logs : Bool} {t u : FileTree}
  {r : Registry} {g : Generator} {x : OutputContext}

/-- How deep things may be nested in a run that is far from the end of its stack. -/
def depthLimit : Nat := 100

/-- The most brackets that are open at once in the characters of a document, where `level` are open
already and `quoted` tells whether a string is. -/
def openBrackets (quoted : Bool) (level : Nat) : List Char → Nat
  | [] => level
  | '\\' :: _ :: cs => openBrackets quoted level cs
  | '"' :: cs => openBrackets (!quoted) level cs
  | c :: cs =>
    if quoted then openBrackets true level cs
    else if c == '[' || c == '\x7b' then openBrackets false (level + 1) cs
    else if c == ']' || c == '\x7d' then max level (openBrackets false (level - 1) cs)
    else openBrackets false level cs

/-- What a run works on is nested to a modest depth, and its texts are texts of whole characters. Each
step that goes down into something has its bound. -/
structure IsModest (input output : String) (t : FileTree) : Prop where
  /-- No escape in the registry file gives half of a surrogate pair alone. -/
  paired : ∀ text, t.HasText input text → ¬ Json.HasLoneHalf text
  /-- The values of the registry file are not nested deep. -/
  values : ∀ text, t.HasText input text → openBrackets false 0 text.toList ≤ depthLimit
  /-- Nor are the types of fields. -/
  types : ∀ d, t.HasDefinition input d → ∀ m ∈ d.messages.getD [], ∀ f ∈ m.fieldList,
    ∀ type ∈ f.type, type.toList.countP (fun c => c == '<' || c == '[') ≤ depthLimit
  /-- Few messages hold each other in a row. -/
  chains : ∀ r u, (Registry.load input).run t = (.ok r, u) → ∀ ids : List MessageId, ids.Nodup →
    ids.IsChain r.Holds → ids.length ≤ depthLimit
  /-- The directories of messages are not deep in the root. -/
  modules : ∀ r u, (Registry.load input).run t = (.ok r, u) → ∀ m ∈ r.messages,
    m.segments.length ≤ depthLimit
  /-- The path of the output directory is short. -/
  output : (FilePath.ofText output).segments.length ≤ depthLimit
  /-- What is there already is not deep in the tree. -/
  tree : ∀ e ∈ t.entries, e.1.length ≤ depthLimit

/-- A run lets a fault escape for the reasons given, or at half of a pair alone. -/
theorem escapes_generateFrom_iff :
    Escapes ((generateFrom target input output clean logs).run t).1 ↔
      BreaksRun target input output clean logs t ∨
        ∃ text, t.HasText input text ∧ Json.HasLoneHalf text := by
  -- behind the start, faults escape from the generator alone
  have rest : ∀ {r : Registry} {g : Generator} {u : FileTree},
      (Generator.start { target := target, logs := logs } output clean).run t = (.ok g, u) →
      (Escapes ((liftM g.getContext >>= fun x => g.generate r >>= fun paths => pure (Outcome.printed
          ["Generated " ++ toString paths.length ++ " files in " ++ x.root.text]) :
          FileAction Outcome).run u).1 ↔ Escapes ((g.generate r).run u).1) := by
    intro r g u started
    obtain ⟨x, context, -⟩ := Generator.exists_context_logs started
    rw [Generator.liftM_getContext context, pure_bind, FileAction.run_bind_pure, escapes_map_iff]
  rw [generateFrom, FileAction.escapes_run_bind_iff, Registry.escapes_load_iff]
  constructor
  · rintro ((broken | half) | ⟨r, u, loaded, fails⟩)
    · exact .inl (.loading broken)
    · exact .inr half
    obtain ⟨rfl, d, made⟩ := Registry.of_load loaded
    refine .inl ?_
    rw [FileAction.escapes_run_bind_iff, Generator.escapes_start_iff] at fails
    rcases fails with nul | ⟨g, v, started, fails⟩
    · exact .starting loaded nul
    rw [rest started, Generator.escapes_generate_of_start started
      (Registry.isBuilt_of_ofDefinition made)] at fails
    rcases fails with gap | ⟨before, f, after, w, laid, written, nul⟩
    · exact .layingOut loaded started gap
    · exact .writing loaded started laid written nul
  · rintro ((broken | ⟨loaded, nul⟩ | ⟨loaded, started, gap⟩ |
      ⟨loaded, started, laid, written, nul⟩) | half)
    · exact .inl (.inl broken)
    · exact .inr ⟨_, t, loaded, FileAction.escapes_run_bind_iff.mpr
        (.inl (Generator.escapes_start_iff.mpr nul))⟩
    · obtain ⟨-, d, made⟩ := Registry.of_load loaded
      refine .inr ⟨_, t, loaded, FileAction.escapes_run_bind_iff.mpr (.inr ⟨_, _, started, ?_⟩)⟩
      rw [rest started, Generator.escapes_generate_of_start started
        (Registry.isBuilt_of_ofDefinition made)]
      exact .inl gap
    · obtain ⟨-, d, made⟩ := Registry.of_load loaded
      refine .inr ⟨_, t, loaded, FileAction.escapes_run_bind_iff.mpr (.inr ⟨_, _, started, ?_⟩)⟩
      rw [rest started, Generator.escapes_generate_of_start started
        (Registry.isBuilt_of_ofDefinition made)]
      exact .inr ⟨_, _, _, _, laid, written, nul⟩
    · exact .inl (.inr half)

/-- A run that ends well tells how many files there are: one for each message, and two more. -/
theorem of_generateFrom {o : Outcome}
    (h : (generateFrom target input output clean logs).run t = (.ok o, u)) :
    ∃ r, (Registry.load input).run t = (.ok r, t) ∧ o = .printed ["Generated " ++
      toString (r.messages.length + 2) ++ " files in " ++
        (Generator.rootIn target output).text] := by
  obtain ⟨r, v, loaded, rest⟩ := exists_of_run_bind h
  obtain ⟨rfl, -⟩ := Registry.of_load loaded
  obtain ⟨g, w, started, rest⟩ := exists_of_run_bind rest
  obtain ⟨x, context, -, -, root, -⟩ := Generator.exists_context_logs started
  rw [Generator.liftM_getContext context, pure_bind] at rest
  obtain ⟨paths, w', generated, rest⟩ := exists_of_run_bind rest
  refine ⟨r, loaded, ?_⟩
  cases laid : g.files r with
  | error e =>
    rw [Generator.run_generate_of_error laid] at generated
    cases generated
  | ok files =>
    rw [Generator.run_generate laid] at generated
    have count : paths.length = r.messages.length + 2 := by
      rw [(Generator.content?_of_writeFiles generated).1, List.length_map]
      refine OutputContext.length_of_files (x := x) ?_
      rw [← laid, Generator.files, Generator.getContext, context]
      rfl
    obtain ⟨same, -⟩ := Prod.mk.inj rest
    rw [← Except.ok.inj same, count, root]

/-- The outcome of an action that ends well. -/
theorem run_ofAction_of_ok {action : FileAction Outcome} {o : Outcome}
    (h : action.run t = (.ok o, u)) : (Outcome.ofAction action).run t = (o, u) := by
  simp only [Outcome.ofAction, bind, StateT.bind, StateT.run, h]
  rfl

/-- The outcome of an action that a fault ends. -/
theorem run_ofAction_of_error {action : FileAction Outcome} {f : Fault}
    (h : action.run t = (.error f, u)) : (Outcome.ofAction action).run t = (.failed f, u) := by
  simp only [Outcome.ofAction, bind, StateT.bind, StateT.run, h]
  rfl

/-- How a request that is carried out ends. -/
def outcome (q : Request) (t : FileTree) : Outcome := (q.run.run t).1

/-- A run that generates files for a known language ends in one of three ways. It counts the files,
one for each message of the registry and two more; or it reports a fault in one line, with status one;
or a fault escapes, with nothing printed. A fault escapes if the run breaks at one of its steps, and
only then if what the run works on is modest. -/
theorem outcome_generate_cases {language : String} {target : Target}
    (known : Target.ofName language = .ok target) (input output : String) (clean logs : Bool)
    (t : FileTree) :
    ((∃ r, (Registry.load input).run t = (.ok r, t) ∧
        (generate language input output clean logs).outcome t =
          { status := 0, output := ["Generated " ++ toString (r.messages.length + 2) ++
            " files in " ++ (Generator.rootIn target output).text] }) ∨
      (∃ f : Fault, f.isReported = true ∧
        (generate language input output clean logs).outcome t =
          { status := 1, output := ["Error: " ++ f.message] }) ∨
      ∃ f : Fault, f.isReported = false ∧
        (generate language input output clean logs).outcome t =
          { status := 1, escaped := some f }) ∧
    (BreaksRun target input output clean logs t →
      ((generate language input output clean logs).outcome t).escaped ≠ none) ∧
    (IsModest input output t →
      ((generate language input output clean logs).outcome t).escaped ≠ none →
      BreaksRun target input output clean logs t) := by
  have whole : (generate language input output clean logs).run =
      Outcome.ofAction (generateFrom target input output clean logs) := by
    rw [Request.run, known]
  have causes : ∀ {o : Outcome}, (o.escaped ≠ none ↔
      Escapes ((generateFrom target input output clean logs).run t).1) →
      (BreaksRun target input output clean logs t → o.escaped ≠ none) ∧
      (IsModest input output t → o.escaped ≠ none → BreaksRun target input output clean logs t) := by
    intro o same
    rw [same, escapes_generateFrom_iff]
    refine ⟨.inl, fun modest escapes => escapes.resolve_right ?_⟩
    rintro ⟨text, file, half⟩
    exact modest.paired text file half
  rw [outcome, whole]
  cases run : (generateFrom target input output clean logs).run t with
  | mk result u =>
    rw [run] at causes
    cases result with
    | ok o =>
      rw [run_ofAction_of_ok run]
      obtain ⟨r, loaded, rfl⟩ := of_generateFrom run
      exact ⟨.inl ⟨r, loaded, rfl⟩,
        causes (iff_of_false (by simp [Outcome.printed]) (not_escapes_ok _))⟩
    | error f =>
      rw [run_ofAction_of_error run]
      by_cases reported : f.isReported = true
      · rw [Outcome.failed, if_pos reported]
        exact ⟨.inr (.inl ⟨f, reported, rfl⟩),
          causes (iff_of_false (by simp) (by simp [escapes_error_iff, reported]))⟩
      · rw [Outcome.failed, if_neg reported]
        rw [Bool.not_eq_true] at reported
        exact ⟨.inr (.inr ⟨f, reported, rfl⟩),
          causes (iff_of_true (by simp [Outcome.broken]) (escapes_error_iff.mpr reported))⟩

namespace Sample

/-- A tree with a registry file that has no text. -/
def untold : FileTree := (FileTree.start []).set ["registry.json"] (.file "".toUTF8)

/-- There is one text in the file, and it is empty. -/
theorem eq_of_hasText_untold {text : String} (h : untold.HasText "registry.json" text) :
    text = "" := by
  obtain ⟨content, s, ⟨-, -, entry, -⟩, decoded, rfl⟩ := h
  have found : untold.entry (FilePath.ofText "registry.json") = .ok (.file "".toUTF8) := rfl
  rw [found] at entry
  injection entry with entry
  injection entry with same
  rw [← same, show String.fromUTF8? "".toUTF8 = some "" from rfl] at decoded
  rw [← Option.some.inj decoded]
  rfl

/-- The tree is modest. -/
theorem isModest_untold : IsModest "registry.json" "out" untold := by
  have unread : Json.read "" = .error (.notJson .expectingValue 1 1 0) := rfl
  have unloaded : ∀ r u, (Registry.load "registry.json").run untold ≠ (.ok r, u) := by
    intro r u loaded
    have fails : ((Registry.load "registry.json").run untold).1 =
      .error (.notJson .expectingValue 1 1 0) := rfl
    rw [loaded] at fails
    cases fails
  constructor
  · rintro text file ⟨line, column, offset, half⟩
    rw [eq_of_hasText_untold file, unread] at half
    cases half
  · intro text file
    rw [eq_of_hasText_untold file]
    decide
  · rintro d ⟨text, value, file, read, -⟩
    rw [eq_of_hasText_untold file, unread] at read
    cases read
  · exact fun r u loaded => absurd loaded (unloaded r u)
  · exact fun r u loaded => absurd loaded (unloaded r u)
  · decide
  · decide

end Sample

/-- A registry file that is missing is reported, and the run does not break. One without text lets a
fault escape, and breaks the run. -/
theorem outcome_generate_cases_missing : Target.ofName "cpp" = .ok .cpp ∧
    (generate "cpp" "registry.json" "out" true false).outcome (FileTree.start []) =
      { status := 1
        output := ["Error: [Errno 2] No such file or directory: 'registry.json'"] } ∧
    ¬ BreaksRun .cpp "registry.json" "out" true false (FileTree.start []) ∧
    IsModest "registry.json" "out" Sample.untold ∧
    BreaksRun .cpp "registry.json" "out" true false Sample.untold := by
  have known : Target.ofName "cpp" = .ok .cpp := rfl
  have ends : (generate "cpp" "registry.json" "out" true false).outcome (FileTree.start []) =
      { status := 1
        output := ["Error: [Errno 2] No such file or directory: 'registry.json'"] } := rfl
  have fails : ((generate "cpp" "registry.json" "out" true false).outcome Sample.untold).escaped =
      some (.notJson .expectingValue 1 1 0) := rfl
  refine ⟨known, ends, fun breaks => ?_, Sample.isModest_untold, ?_⟩
  · have escapes := (outcome_generate_cases known "registry.json" "out" true false _).2.1 breaks
    rw [ends] at escapes
    exact escapes rfl
  · refine (outcome_generate_cases known "registry.json" "out" true false _).2.2
      Sample.isModest_untold ?_
    rw [fails]
    exact Option.some_ne_none _

/-- A registry file without text lets a fault escape, and nothing is printed. -/
theorem empty_file_escapes :
    Sample.untold.find? ["registry.json"] = some (.file "".toUTF8) ∧
    ((runProgram ["gen", "-l", "cpp", "-i", "registry.json", "-o", "out"]).run Sample.untold).1 =
      { status := 1, escaped := some (.notJson .expectingValue 1 1 0) } :=
  ⟨rfl, rfl⟩

end Request

end PacketSmith
