import PacketSmith.Command.Outcome
import PacketSmith.Proofs.DefinitionChecks
import PacketSmith.Proofs.FileActions

/-!
# Faults that are not reported

A fault that ends a run is reported in one line, or it escapes. Which of them it is depends on where it
arises. Here this is told for the steps that load a registry, in terms of what they work on.

* A definition lets a fault escape if null stands for its messages, for the fields of a message or for
  the type of a field, and nothing before is reported (`RegistryDefinition.MeetsNull`).
* Bytes that are no text, texts that are no documents, and documents of another shape than a registry
  always let one escape (`BreaksLoading`).
* An escape for half of a surrogate pair alone stops the reader too (`Json.HasLoneHalf`). It is no
  cause of its own: what such a half leads to depends on where its text is used.
-/

namespace PacketSmith

/-! ### Results with faults -/

/-- The result is a fault that is not reported. -/
def Escapes {α : Type} (r : Except Fault α) : Prop := ∃ f, r = .error f ∧ f.isReported = false

/-- If the result is a fault, it is reported, or it is not. -/
abbrev FaultsAre {α : Type} (reported : Bool) (r : Except Fault α) : Prop :=
  FaultsSatisfy (·.isReported = reported) r

section Results

variable {α β : Type} {r : Except Fault α} {k : α → Except Fault β}

theorem not_escapes_ok (v : α) : ¬ Escapes (.ok v : Except Fault α) := by
  rintro ⟨f, h, -⟩
  cases h

theorem escapes_error_iff {f : Fault} :
    Escapes (.error f : Except Fault α) ↔ f.isReported = false :=
  ⟨fun ⟨_, h, no⟩ => Except.error.inj h ▸ no, fun no => ⟨f, rfl, no⟩⟩

/-- A fault escapes from results of every kind. -/
theorem Escapes.cast {f : Fault} (h : Escapes (.error f : Except Fault α)) :
    Escapes (.error f : Except Fault β) :=
  escapes_error_iff.mpr (escapes_error_iff.mp h)

namespace FaultsAre

theorem not_escapes (h : FaultsAre true r) : ¬ Escapes r := by
  rintro ⟨f, fails, no⟩
  rw [h f fails] at no
  cases no

/-- Where no fault is reported, a fault escapes unless there is a value. -/
theorem escapes_iff (h : FaultsAre false r) : Escapes r ↔ ∀ v, r ≠ .ok v := by
  cases r with
  | ok v => exact iff_of_false (not_escapes_ok v) fun none => none v rfl
  | error f => exact iff_of_true ⟨f, rfl, h f rfl⟩ (by simp)

end FaultsAre

/-- A fault escapes from the first result, or from the second one behind it. -/
theorem escapes_bind_iff : Escapes (r >>= k) ↔ Escapes r ∨ ∃ v, r = .ok v ∧ Escapes (k v) := by
  cases r with
  | ok v =>
    refine ⟨fun h => .inr ⟨v, rfl, h⟩, ?_⟩
    rintro (h | ⟨_, same, h⟩)
    · exact absurd h (not_escapes_ok v)
    · obtain rfl := Except.ok.inj same
      exact h
  | error f =>
    refine ⟨fun h => .inl h.cast, ?_⟩
    rintro (h | ⟨_, same, -⟩)
    · exact h.cast
    · cases same

theorem escapes_map_iff {f : α → β} : Escapes (r.map f) ↔ Escapes r := by
  cases r with
  | ok v => exact iff_of_false (not_escapes_ok _) (not_escapes_ok v)
  | error e => exact ⟨Escapes.cast, Escapes.cast⟩

theorem escapes_iff_faultOf? : Escapes r ↔ ∃ f, faultOf? r = some f ∧ f.isReported = false :=
  exists_congr fun f => by rw [faultOf?_eq_some_iff]

/-- A fault escapes from a list that is made item by item at the first item that fails. -/
theorem escapes_mapM_iff {xs : List α} : Escapes (xs.mapM k) ↔ ∃ before x after,
    xs = before ++ x :: after ∧ (∀ b ∈ before, ∃ v, k b = .ok v) ∧ Escapes (k x) := by
  rw [escapes_iff_faultOf?, faultOf?_mapM]
  simp only [List.findSome?_eq_some_iff, faultOf?_eq_some_iff, faultOf?_eq_none_iff]
  constructor
  · rintro ⟨e, ⟨before, x, after, rfl, fails, fine⟩, no⟩
    exact ⟨before, x, after, rfl, fine, e, fails, no⟩
  · rintro ⟨before, x, after, rfl, fine, e, fails, no⟩
    exact ⟨e, ⟨before, x, after, rfl, fails, fine⟩, no⟩

end Results

/-! ### Actions with faults -/

namespace FileAction

variable {α β : Type} {a : FileAction α} {k : α → FileAction β} {t : FileTree}

/-- A fault escapes from the first action, or from the second one behind it. -/
theorem escapes_run_bind_iff : Escapes ((a >>= k).run t).1 ↔
    Escapes (a.run t).1 ∨ ∃ v u, a.run t = (.ok v, u) ∧ Escapes ((k v).run u).1 := by
  rw [run_bind]
  cases run : a.run t with
  | mk result u =>
    cases result with
    | ok v =>
      refine ⟨fun h => .inr ⟨v, u, rfl, h⟩, ?_⟩
      rintro (h | ⟨_, _, same, h⟩)
      · exact absurd h (not_escapes_ok v)
      · cases same
        exact h
    | error f =>
      refine ⟨fun h => .inl h.cast, ?_⟩
      rintro (h | ⟨_, _, same, -⟩)
      · exact h.cast
      · cases same

end FileAction

/-! ### Definitions -/

/-- Null stands for the fields of a message, or for the type of a field behind fields whose types have
meanings. -/
def MessageDefinition.MeetsNull (ids : TypeName.MessageIds) (d : MessageDefinition) : Prop :=
  d.fields = none ∨ ∃ before f after, d.fields = some (before ++ f :: after) ∧
    (∀ g ∈ before, ∃ w, g.Means ids w) ∧ f.type = none

/-- Null stands for the messages; or the names are distinct, and null stands in a message behind
messages that can be built. -/
def RegistryDefinition.MeetsNull (d : RegistryDefinition) : Prop :=
  d.messages = none ∨ ∃ before m after, d.messages = some (before ++ m :: after) ∧
    ((before ++ m :: after).map (·.name)).Nodup ∧
    (∀ b ∈ before, b.fields ≠ none ∧
      ∀ f ∈ b.fieldList, ∃ w, f.Means (idsByName (before ++ m :: after)) w) ∧
    m.MeetsNull (idsByName (before ++ m :: after))

section Definitions

variable {ids : TypeName.MessageIds}

/-- A type lets a fault escape if it is null. -/
theorem escapes_typeInField_iff {message : Option String} {f : FieldDefinition} :
    Escapes (typeInField ids message f.name f.type) ↔ f.type = none := by
  constructor
  · rintro ⟨e, fails, no⟩
    by_contra given
    obtain ⟨cause, -, rfl⟩ := (typeInField_eq_error_iff given).mp fails
    cases no
  · intro none
    exact ⟨.nullText, by rw [none]; rfl, rfl⟩

/-- A message is built if its fields are not null and their types have meanings. -/
theorem exists_buildMessage_iff {d : MessageDefinition} : (∃ m, buildMessage ids d = .ok m) ↔
    d.fields ≠ none ∧ ∀ f ∈ d.fieldList, ∃ w, f.Means ids w := by
  by_cases given : d.fields = none
  · simp [buildMessage, given]
  · rw [← faultOf?_eq_none_iff, faultOf?_buildMessage given, List.findSome?_eq_none_iff]
    simp only [faultOf?_eq_none_iff, typeInField_eq_ok_iff]
    exact ⟨fun types => ⟨given, types⟩, And.right⟩

/-- A message lets a fault escape if null stands in it. -/
theorem escapes_buildMessage_iff {d : MessageDefinition} :
    Escapes (buildMessage ids d) ↔ d.MeetsNull ids := by
  unfold MessageDefinition.MeetsNull
  cases given : d.fields with
  | none =>
    refine iff_of_true ⟨.notList, ?_, rfl⟩ (.inl rfl)
    rw [buildMessage, given]
  | some fs =>
    have filled : d.fields ≠ none := by simp [given]
    rw [escapes_iff_faultOf?, faultOf?_buildMessage filled, MessageDefinition.fieldList, given,
      Option.getD_some]
    simp only [List.findSome?_eq_some_iff, faultOf?_eq_some_iff, faultOf?_eq_none_iff,
      typeInField_eq_ok_iff, reduceCtorEq, false_or, Option.some.injEq]
    constructor
    · rintro ⟨e, ⟨before, f, after, rfl, fails, fine⟩, no⟩
      exact ⟨before, f, after, rfl, fine, escapes_typeInField_iff.mp ⟨e, fails, no⟩⟩
    · rintro ⟨before, f, after, rfl, fine, none⟩
      obtain ⟨e, fails, no⟩ := escapes_typeInField_iff.mpr none
      exact ⟨e, ⟨before, f, after, rfl, fails, fine⟩, no⟩

/-- Names are distinct exactly if none is found twice. -/
theorem repeatedName?_eq_none_iff {ds : List MessageDefinition} :
    repeatedName? [] ds = none ↔ (ds.map (·.name)).Nodup := by
  rw [repeatedName?_eq, Option.map_eq_none_iff]
  rcases nodup_or_exists_isFirstRepeat (fun n => n) (ds.map (·.name)) with distinct | ⟨n, first⟩
  · rw [firstRepeat?_of_nodup distinct]
    rw [List.map_id'] at distinct
    exact iff_of_true rfl distinct
  · rw [firstRepeat?_of_isFirstRepeat first]
    refine iff_of_false (by simp) ?_
    obtain ⟨before, after, split, -, repeated⟩ := first
    rw [split]
    intro distinct
    rw [List.map_id'] at repeated
    exact List.disjoint_of_nodup_append distinct repeated List.mem_cons_self

/-- Messages with an id twice are reported. -/
theorem faultsAre_ofMessages (ms : List Message) : FaultsAre true (Registry.ofMessages ms) := by
  intro f fails
  unfold Registry.ofMessages at fails
  split at fails
  · cases fails
    rfl
  · cases fails

/-- A definition lets a fault escape if null stands in it, before anything that is reported. -/
theorem Registry.escapes_ofDefinition_iff {d : RegistryDefinition} :
    Escapes (Registry.ofDefinition d) ↔ d.MeetsNull := by
  unfold RegistryDefinition.MeetsNull
  cases given : d.messages with
  | none =>
    refine iff_of_true ⟨.notList, ?_, rfl⟩ (.inl rfl)
    rw [Registry.ofDefinition, given]
  | some ds =>
    rw [Registry.ofDefinition, given]
    dsimp only
    simp only [reduceCtorEq, false_or, Option.some.injEq]
    cases repeated : repeatedName? [] ds with
    | some name =>
      rw [Registry.ofDefinitions, repeated]
      refine iff_of_false (by simp [escapes_error_iff, Fault.isReported]) ?_
      rintro ⟨before, m, after, rfl, distinct, -⟩
      rw [repeatedName?_eq_none_iff.mpr distinct] at repeated
      cases repeated
    | none =>
      have distinct := repeatedName?_eq_none_iff.mp repeated
      rw [Registry.ofDefinitions, repeated]
      dsimp only
      rw [escapes_bind_iff, or_iff_left (by
        rintro ⟨ms, -, fails⟩
        exact (faultsAre_ofMessages ms).not_escapes fails), escapes_mapM_iff]
      simp only [exists_buildMessage_iff, escapes_buildMessage_iff]
      constructor
      · rintro ⟨before, m, after, rfl, fine, null⟩
        exact ⟨before, m, after, rfl, distinct, fine, null⟩
      · rintro ⟨before, m, after, rfl, -, fine, null⟩
        exact ⟨before, m, after, rfl, fine, null⟩

end Definitions

/-! ### Loading -/

/-- A text that cannot be given to a file system is not handled if it has a NUL character. -/
theorem escapes_checkText_iff {s : String} :
    Escapes (FileAction.checkText s) ↔ Char.ofNat 0 ∈ s.toList := by
  unfold FileAction.checkText
  by_cases nul : Char.ofNat 0 ∈ s.toList
  · rw [if_pos (by simpa using nul)]
    exact iff_of_true (escapes_error_iff.mpr rfl) nul
  · rw [if_neg (by simpa using nul)]
    refine iff_of_false (FaultsAre.not_escapes ?_) nul
    split
    · exact .error rfl
    · exact .ok ()

/-- The path leads to a file with the content. -/
structure FileTree.HasFile (t : FileTree) (path : String) (content : ByteArray) : Prop where
  /-- The path can be given to a file system. -/
  valid : FileAction.checkText path = .ok ()
  /-- The path is not empty. -/
  some : path.isEmpty = false
  /-- The file is there. -/
  entry : t.entry (FilePath.ofText path) = .ok (.file content)
  /-- The path does not ask for a directory. -/
  plain : FileAction.asksDirectory path = false

/-- The path leads to a file with the text, once line ends of every kind are line feeds. -/
def FileTree.HasText (t : FileTree) (path text : String) : Prop :=
  ∃ content s, t.HasFile path content ∧ String.fromUTF8? content = some s ∧
    Text.unifyLineEnds s = text

/-- The path leads to a document that defines the registry. -/
def FileTree.HasDefinition (t : FileTree) (path : String) (d : RegistryDefinition) : Prop :=
  ∃ text value, t.HasText path text ∧ Json.read text = .ok value ∧
    RegistryDefinition.ofJson value = .ok d

/-- The first thing that the reader stops at is an escape for half of a surrogate pair alone. -/
def Json.HasLoneHalf (text : String) : Prop :=
  ∃ line column offset, Json.read text = .error (.notJson .loneHalf line column offset)

/-- Why loading what a path leads to ends at a fault that is not handled. -/
inductive BreaksLoading (t : FileTree) (path : String) : Prop where
  /-- The path has a NUL character. -/
  | nul (h : Char.ofNat 0 ∈ path.toList)
  /-- The bytes are no text. -/
  | bytes {content : ByteArray} (file : t.HasFile path content)
      (h : String.fromUTF8? content = none)
  /-- The text is no document. -/
  | document {text : String} (file : t.HasText path text) (paired : ¬ Json.HasLoneHalf text)
      (h : ∀ value, Json.read text ≠ .ok value)
  /-- The document has not the shape of a registry. -/
  | shape {text : String} {value : Json} (file : t.HasText path text)
      (read : Json.read text = .ok value) (h : ∀ d, RegistryDefinition.ofJson value ≠ .ok d)
  /-- Null stands where something is needed. -/
  | null {d : RegistryDefinition} (defined : t.HasDefinition path d) (h : d.MeetsNull)

namespace FileTree

variable {t : FileTree} {path : String}

/-- The bytes that a path leads to. -/
def bytesAt (t : FileTree) (path : String) : Except Fault ByteArray := do
  FileAction.checkText path
  if path.isEmpty then .error (.file .notFound (Text.quoted path)) else
    match t.entry (FilePath.ofText path) with
    | .error problem => .error (.file problem (Text.quoted path))
    | .ok .directory => .error (.file .isDirectory (Text.quoted path))
    | .ok (.file content) =>
      if FileAction.asksDirectory path then .error (.file .notDirectory (Text.quoted path))
      else .ok content

/-- The text of bytes. -/
def textOf (content : ByteArray) : Except Fault String :=
  match String.fromUTF8? content with
  | some s => .ok s
  | none => .error .notText

/-- The text that a path leads to. -/
def textAt (t : FileTree) (path : String) : Except Fault String := t.bytesAt path >>= textOf

theorem run_readText (path : String) (t : FileTree) :
    (FileAction.readText path).run t = (t.textAt path, t) := by
  rw [FileAction.readText, FileAction.run_get_bind, textAt, bytesAt]
  cases FileAction.checkText path with
  | error f => rfl
  | ok _ =>
    dsimp only [bind, Except.bind]
    by_cases none : path.isEmpty = true
    · rw [if_pos none, if_pos none]
      rfl
    · rw [if_neg none, if_neg none]
      cases t.entry (FilePath.ofText path) with
      | error problem => rfl
      | ok e =>
        cases e with
        | directory => rfl
        | file content =>
          dsimp only
          by_cases asks : FileAction.asksDirectory path = true
          · rw [if_pos asks, if_pos asks]
            rfl
          · rw [if_neg asks, if_neg asks]
            dsimp only [textOf]
            cases String.fromUTF8? content <;> rfl

/-- The bytes at a path are those of its file. -/
theorem bytesAt_eq_ok_iff {content : ByteArray} :
    t.bytesAt path = .ok content ↔ t.HasFile path content := by
  constructor
  · intro h
    obtain ⟨⟨⟩, valid, h⟩ := exists_of_bind_eq_ok h
    split at h
    · cases h
    rename_i some
    split at h
    · cases h
    · cases h
    rename_i entry
    split at h
    · cases h
    rename_i plain
    obtain rfl := Except.ok.inj h
    exact ⟨valid, by simpa using some, entry, by simpa using plain⟩
  · intro h
    rw [bytesAt, h.valid, h.some, h.entry, h.plain]
    rfl

/-- Finding bytes lets a fault escape if the path has a NUL character. -/
theorem escapes_bytesAt_iff : Escapes (t.bytesAt path) ↔ Char.ofNat 0 ∈ path.toList := by
  rw [bytesAt, escapes_bind_iff, escapes_checkText_iff, or_iff_left]
  rintro ⟨⟨⟩, -, fails⟩
  refine FaultsAre.not_escapes ?_ fails
  split
  · exact .error rfl
  split
  · exact .error rfl
  · exact .error rfl
  split
  · exact .error rfl
  · exact .ok _

/-- The text of bytes lets a fault escape if they are no text. -/
theorem escapes_textOf_iff {content : ByteArray} :
    Escapes (textOf content) ↔ String.fromUTF8? content = none := by
  unfold textOf
  cases String.fromUTF8? content with
  | some s => exact iff_of_false (not_escapes_ok s) (by simp)
  | none => exact iff_of_true (escapes_error_iff.mpr rfl) rfl

theorem textOf_eq_ok_iff {content : ByteArray} {s : String} :
    textOf content = .ok s ↔ String.fromUTF8? content = some s := by
  unfold textOf
  cases String.fromUTF8? content <;> simp

end FileTree

/-! ### Documents -/

section Documents

/-- A text that is no document is not reported. -/
theorem faultsAre_read (s : String) : FaultsAre false (Json.read s) := by
  unfold Json.read
  split
  · exact .ok _
  · exact .error rfl

theorem faultsAre_asRecord (v : Json) : FaultsAre false v.asRecord := by
  unfold Json.asRecord
  split
  · exact .ok _
  · exact .error rfl

theorem faultsAre_required (members : List (String × Json)) (key : String) :
    FaultsAre false (Json.required members key) := by
  unfold Json.required
  split
  · exact .ok _
  · exact .error rfl

theorem faultsAre_asId (v : Json) : FaultsAre false v.asId := by
  fun_cases Json.asId v
  all_goals first | exact .ok _ | exact .error rfl

theorem faultsAre_asList {α : Type} {decode : Json → Except Fault α}
    (h : ∀ v, FaultsAre false (decode v)) (v : Json) : FaultsAre false (v.asList decode) := by
  unfold Json.asList
  split
  · exact .ok _
  · refine .bind ?_ fun items => (FaultsSatisfy.mapM fun v _ => h v).bind fun _ => .ok _
    unfold Json.asItems
    split
    all_goals first | exact .ok _ | exact .error rfl

/-- A document of another shape than a registry is not reported. -/
theorem faultsAre_ofJson (v : Json) : FaultsAre false (RegistryDefinition.ofJson v) := by
  have field : ∀ v, FaultsAre false (FieldDefinition.ofJson v) := fun v =>
    (faultsAre_asRecord v).bind fun members => (faultsAre_required members _).bind fun _ =>
      (faultsAre_required members _).bind fun _ => .ok _
  have message : ∀ v, FaultsAre false (MessageDefinition.ofJson v) := fun v =>
    (faultsAre_asRecord v).bind fun members => (faultsAre_required members _).bind fun id =>
      (faultsAre_asId id).bind fun _ => (faultsAre_required members _).bind fun _ =>
        (faultsAre_asList field _).bind fun _ => .ok _
  exact (faultsAre_asRecord v).bind fun members =>
    (faultsAre_asList message _).bind fun _ => .ok _

end Documents

section Loading

variable {t : FileTree} {path : String}

theorem Registry.run_load (path : String) (t : FileTree) : (Registry.load path).run t =
    (t.textAt path >>= fun s => Registry.ofText (Text.unifyLineEnds s), t) := by
  rw [Registry.load, FileAction.run_bind, FileTree.run_readText]
  cases t.textAt path with
  | error f => rfl
  | ok s => rfl

/-- Loading a registry leaves the tree as it is. -/
theorem Registry.of_load {r : Registry} {u : FileTree} (h : (Registry.load path).run t = (.ok r, u)) :
    u = t ∧ ∃ d, Registry.ofDefinition d = .ok r := by
  rw [Registry.run_load] at h
  obtain ⟨made, rfl⟩ := Prod.mk.inj h
  obtain ⟨s, -, made⟩ := exists_of_bind_eq_ok made
  obtain ⟨value, -, made⟩ := exists_of_bind_eq_ok made
  obtain ⟨d, -, made⟩ := exists_of_bind_eq_ok made
  exact ⟨rfl, d, made⟩

/-- A text lets a fault escape if it is no document, if the document has not the shape of a registry,
or if null stands in it. -/
theorem Registry.escapes_ofText_iff {text : String} : Escapes (Registry.ofText text) ↔
    (∀ value, Json.read text ≠ .ok value) ∨ ∃ value, Json.read text = .ok value ∧
      ((∀ d, RegistryDefinition.ofJson value ≠ .ok d) ∨
        ∃ d, RegistryDefinition.ofJson value = .ok d ∧ d.MeetsNull) := by
  unfold Registry.ofText
  simp only [escapes_bind_iff, (faultsAre_read _).escapes_iff, (faultsAre_ofJson _).escapes_iff,
    Registry.escapes_ofDefinition_iff]

/-- Loading a registry lets a fault escape for the reasons given, or at half of a pair alone. -/
theorem Registry.escapes_load_iff : Escapes ((Registry.load path).run t).1 ↔
    BreaksLoading t path ∨ ∃ text, t.HasText path text ∧ Json.HasLoneHalf text := by
  rw [Registry.run_load, FileTree.textAt]
  simp only [escapes_bind_iff, FileTree.escapes_bytesAt_iff, FileTree.escapes_textOf_iff,
    FileTree.bytesAt_eq_ok_iff, Registry.escapes_ofText_iff]
  constructor
  · rintro ((nul | ⟨content, file, none⟩) | ⟨s, found, broken⟩)
    · exact .inl (.nul nul)
    · exact .inl (.bytes file none)
    · obtain ⟨content, bytes, decoded⟩ := exists_of_bind_eq_ok found
      have file : t.HasText path _ := ⟨content, s, FileTree.bytesAt_eq_ok_iff.mp bytes,
        FileTree.textOf_eq_ok_iff.mp decoded, rfl⟩
      rcases broken with none | ⟨value, read, none | ⟨d, defined, null⟩⟩
      · by_cases half : Json.HasLoneHalf (Text.unifyLineEnds s)
        · exact .inr ⟨_, file, half⟩
        · exact .inl (.document file half none)
      · exact .inl (.shape file read none)
      · exact .inl (.null ⟨_, value, file, read, defined⟩ null)
  · have found : ∀ {text}, t.HasText path text →
        ∃ s, (t.bytesAt path >>= FileTree.textOf) = .ok s ∧ Text.unifyLineEnds s = text := by
      rintro text ⟨content, s, file, decoded, rfl⟩
      refine ⟨s, ?_, rfl⟩
      rw [FileTree.bytesAt_eq_ok_iff.mpr file]
      exact FileTree.textOf_eq_ok_iff.mpr decoded
    rintro ((nul | ⟨file, none⟩ | ⟨file, -, none⟩ | ⟨file, read, none⟩ |
      ⟨⟨_, _, file, read, defined⟩, null⟩) | ⟨_, file, _, _, _, half⟩)
    · exact .inl (.inl nul)
    · exact .inl (.inr ⟨_, file, none⟩)
    · obtain ⟨s, made, rfl⟩ := found file
      exact .inr ⟨s, made, .inl none⟩
    · obtain ⟨s, made, rfl⟩ := found file
      exact .inr ⟨s, made, .inr ⟨_, read, .inl none⟩⟩
    · obtain ⟨s, made, rfl⟩ := found file
      exact .inr ⟨s, made, .inr ⟨_, read, .inr ⟨_, defined, null⟩⟩⟩
    · obtain ⟨s, made, rfl⟩ := found file
      exact .inr ⟨s, made, .inl (by simp [half])⟩

end Loading

end PacketSmith
