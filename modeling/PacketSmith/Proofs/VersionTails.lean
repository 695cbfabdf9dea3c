import PacketSmith.Proofs.Agreement
import PacketSmith.Proofs.PacketClasses
import PacketSmith.Proofs.TemplateSections

/-!
# The tail that older messages lack

A compatible field and all fields behind it are the tail of a message. The tail is found twice: a
field becomes compatible when a message is built and a field before it is, and the code that reads
fields checks before a field whether one up to it is compatible. The two agree
(`versionTail_of_ofDefinition`).

* Whether a field is in the tail is the same for the flags of a definition and for those of the
  message that is built from it (`InTail`).
* The code that reads fields depends on the tail alone (`readFields_eq_of_inTail`), and nothing else
  in a file depends on flags.
* The lines that read fields are a block for each field, behind a check if the field is in the tail
  (`exists_blocks`). No line of a block has the question in it that a check asks.
-/

namespace PacketSmith

open Code

/-! ### Tails -/

/-- A field up to this place is compatible. -/
def InTail (fs : List Field) (i : Nat) : Prop :=
  ∃ j ≤ i, ∃ f, fs[j]? = some f ∧ f.isCompatible = true

theorem inTail_cons_zero {f : Field} {fs : List Field} :
    InTail (f :: fs) 0 ↔ f.isCompatible = true := by
  simp [InTail]

theorem inTail_cons_succ {f : Field} {fs : List Field} {i : Nat} :
    InTail (f :: fs) (i + 1) ↔ f.isCompatible = true ∨ InTail fs i := by
  constructor
  · rintro ⟨j, le, g, here, flag⟩
    cases j with
    | zero =>
      obtain rfl : f = g := by simpa using here
      exact .inl flag
    | succ j => exact .inr ⟨j, Nat.le_of_succ_le_succ le, g, by simpa using here, flag⟩
  · rintro (flag | ⟨j, le, g, here, flag⟩)
    · exact ⟨0, Nat.zero_le _, f, rfl, flag⟩
    · exact ⟨j + 1, Nat.succ_le_succ le, g, by simpa using here, flag⟩

/-- Fields with a flag before them: the first field is in the tail if the flag is set or its own
is. -/
theorem or_inTail_cons_succ {tail : Bool} {f : Field} {fs : List Field} {i : Nat} :
    (tail = true ∨ InTail (f :: fs) (i + 1)) ↔
      ((tail || f.isCompatible) = true ∨ InTail fs i) := by
  rw [inTail_cons_succ, Bool.or_eq_true, or_assoc]

/-- The definition has a compatible field up to this place. -/
def MessageDefinition.InTail (d : MessageDefinition) (i : Nat) : Prop :=
  ∃ j ≤ i, ∃ e, d.fieldList[j]? = some e ∧ e.compatible = some true

/-- The field with the flag of a definition. -/
def Field.withFlag (f : Field) (e : FieldDefinition) : Field :=
  { f with compatible := e.compatible }

/-- The message with the flags of a definition. -/
def Message.withFlags (m : Message) (d : MessageDefinition) : Message :=
  { m with fields := List.zipWith Field.withFlag m.fields d.fieldList }

/-- Lists of one length have the same places. -/
theorem exists_getElem?_of_length_eq {α β : Type} {xs : List α} {ys : List β}
    (same : xs.length = ys.length) {i : Nat} {x : α} (here : xs[i]? = some x) :
    ∃ y, ys[i]? = some y := by
  have inside : i < ys.length := same ▸ (List.getElem?_eq_some_iff.mp here).1
  exact ⟨_, List.getElem?_eq_getElem inside⟩

section Built

variable {ids : TypeName.MessageIds} {d : MessageDefinition} {m : Message} (h : BuildsTo ids d m)
  {i : Nat}

include h

/-- The flags of a message are those of the tail. -/
theorem BuildsTo.isCompatible_iff {f : Field} (here : m.fields[i]? = some f) :
    f.isCompatible = true ↔ d.InTail i := by
  obtain ⟨e, there⟩ := exists_getElem?_of_length_eq h.length here
  exact (h.fields i e f there here).compatible

/-- The flags of a message that is built give the tail of its definition. -/
theorem BuildsTo.inTail_iff (inside : i < m.fields.length) : InTail m.fields i ↔ d.InTail i := by
  constructor
  · rintro ⟨j, le, f, here, flag⟩
    obtain ⟨k, before, e, there, own⟩ := (h.isCompatible_iff here).mp flag
    exact ⟨k, before.trans le, e, there, own⟩
  · intro tail
    have here := List.getElem?_eq_getElem inside
    exact ⟨i, le_rfl, _, here, (h.isCompatible_iff here).mpr tail⟩

/-- So do the flags of the definition. -/
theorem BuildsTo.inTail_withFlags_iff : InTail (m.withFlags d).fields i ↔ d.InTail i := by
  refine exists_congr fun j => and_congr_right fun _ => ?_
  simp only [Message.withFlags, List.getElem?_zipWith_eq_some]
  constructor
  · rintro ⟨g, ⟨f, e, -, there, rfl⟩, flag⟩
    exact ⟨e, there, by simpa [Field.isCompatible, Field.withFlag] using flag⟩
  · rintro ⟨e, there, flag⟩
    obtain ⟨f, here⟩ := exists_getElem?_of_length_eq h.length.symm there
    exact ⟨_, ⟨f, e, here, there, rfl⟩, by simpa [Field.isCompatible, Field.withFlag] using flag⟩

end Built

/-! ### Flags matter for the tail alone -/

/-- The code that reads fields depends on their tail alone. -/
theorem Code.Coder.readFields_eq_of_inTail {c : Coder} {fs gs : List Field} {tail tail' : Bool}
    (agrees : List.Forall₂ Field.Agrees fs gs)
    (same : ∀ i < fs.length, tail = true ∨ InTail fs i ↔ tail' = true ∨ InTail gs i) :
    c.readFields tail fs = c.readFields tail' gs := by
  induction agrees generalizing tail tail' with
  | nil => rfl
  | @cons f g fs gs first _ ih =>
    -- the flag before the other fields is the one before with that of the first field
    have here : (tail || f.isCompatible) = (tail' || g.isCompatible) := by
      rw [Bool.eq_iff_iff, Bool.or_eq_true, Bool.or_eq_true, ← inTail_cons_zero,
        ← inTail_cons_zero]
      exact same 0 (by simp)
    have behind : c.readFields (tail || f.isCompatible) fs =
        c.readFields (tail' || g.isCompatible) gs := by
      refine ih fun i inside => ?_
      rw [← or_inTail_cons_succ, ← or_inTail_cons_succ]
      exact same (i + 1) (by simpa using inside)
    rw [readFields, readFields, behind, here, first.name, first.type]

/-- What of a field's declaration goes into a file. -/
def Code.declaredText (p : DeclaredField × List String) : String × String × List String :=
  (p.1.type, p.1.identifier, p.2)

/-- Fields that differ in their flags are declared alike. -/
theorem Code.Coder.declarationLines_eq_of_agrees {c : Coder} {f g : Field} (agrees : f.Agrees g)
    (comment : f.comment = g.comment) :
    (c.declarationLines f).map declaredText = (c.declarationLines g).map declaredText := by
  have same : ∀ type, c.target.declaration ⟨f, type, shown f.name⟩ =
      c.target.declaration ⟨g, type, shown g.name⟩ := by
    intro type
    cases c.target with
    | cpp => exact congrArg (fun name => Except.ok (type ++ " " ++ shown name ++ ";")) agrees.name
    | typescript =>
      show TypeScript.declaration _ = TypeScript.declaration _
      unfold TypeScript.declaration
      rw [agrees.name, agrees.type]
  unfold declarationLines declare
  rw [agrees.type]
  cases c.serializer g.type with
  | error e => rfl
  | ok s =>
    show Except.map _ ((c.target.fieldType s g.type >>= fun type => _) >>= _) =
      Except.map _ ((c.target.fieldType s g.type >>= fun type => _) >>= _)
    cases c.target.fieldType s g.type with
    | error e => rfl
    | ok type =>
      show Except.map _ (c.target.declaration ⟨f, type, shown f.name⟩ >>= _) =
        Except.map _ (c.target.declaration ⟨g, type, shown g.name⟩ >>= _)
      rw [same]
      cases c.target.declaration ⟨g, type, shown g.name⟩ with
      | error e => rfl
      | ok text =>
        refine congrArg Except.ok ?_
        simp only [declaredText, agrees.name, comment]

/-- Lists that are made item by item look alike if the items do. -/
theorem mapM_map_eq {α β γ : Type} {f : α → Except Fault β} {look : β → γ} {xs ys : List α}
    (h : List.Forall₂ (fun x y => (f x).map look = (f y).map look) xs ys) :
    (xs.mapM f).map (List.map look) = (ys.mapM f).map (List.map look) := by
  have step : ∀ x (xs : List α), ((x :: xs).mapM f).map (List.map look) =
      (f x).map look >>= fun c => ((xs.mapM f).map (List.map look)).map (c :: ·) := by
    intro x xs
    rw [List.mapM_cons]
    cases f x with
    | error e => rfl
    | ok b => cases xs.mapM f <;> rfl
  induction h with
  | nil => rfl
  | cons first _ ih => rw [step, step, first, ih]

/-- What is done with two results is the same if it is for values that look alike. -/
theorem bind_eq_of_map_eq {α β γ : Type} {a b : Except Fault α} {look : α → β}
    {f g : α → Except Fault γ} (same : a.map look = b.map look)
    (h : ∀ x y, look x = look y → f x = g y) : (a >>= f) = (b >>= g) := by
  cases a with
  | error e =>
    cases b with
    | error e' => exact congrArg Except.error (Except.error.inj same)
    | ok y => cases same
  | ok x =>
    cases b with
    | error e' => cases same
    | ok y => exact h x y (Except.ok.inj same)

/-- Messages with the same documentation and the same tail have the same file, or the same fault. -/
theorem OutputContext.messageFile_eq_of_inTail {x : OutputContext} {r s : Registry} {m n : Message}
    (registries : r.Agrees s) (messages : m.Agrees n) (comment : m.comment = n.comment)
    (comments : List.Forall₂ (fun f g => f.comment = g.comment) m.fields n.fields)
    (same : ∀ i < m.fields.length, InTail m.fields i ↔ InTail n.fields i) :
    x.messageFile r m = x.messageFile s n := by
  have read : x.coder.readFields false m.fields = x.coder.readFields false n.fields :=
    Coder.readFields_eq_of_inTail messages.fields fun i inside => by simpa using same i inside
  have declared : (m.fields.mapM x.coder.declarationLines).map (List.map declaredText) =
      (n.fields.mapM x.coder.declarationLines).map (List.map declaredText) :=
    mapM_map_eq (List.Forall₂.mp (fun _ _ => Coder.declarationLines_eq_of_agrees) messages.fields
      comments)
  have path : x.messagePath m = x.messagePath n := by
    rw [OutputContext.messagePath, OutputContext.messagePath, messages.directory, messages.name]
  have log : x.log m = x.log n := by
    rw [OutputContext.log, OutputContext.log, messages.id]
  have values : (x.messageParts r m >>= x.target.messageValues) =
      (x.messageParts s n >>= x.target.messageValues) := by
    unfold OutputContext.messageParts
    rw [registries.dependencyLines messages, Coder.writeFields_eq_of_agrees messages.fields, read,
      comment]
    simp only [bind_assoc, pure_bind]
    refine bind_congr fun imports => bind_eq_of_map_eq declared fun ps qs look => ?_
    refine bind_congr fun _ => bind_congr fun _ => ?_
    have texts : ps.flatMap (·.2) = qs.flatMap (·.2) := by
      have mapped := congrArg (List.flatMap fun q => q.2.2) look
      simpa only [List.flatMap_map, declaredText] using mapped
    have fields : (ps.map (·.1)).map (fun d => (d.type, d.identifier)) =
        (qs.map (·.1)).map fun d => (d.type, d.identifier) := by
      have mapped := congrArg (List.map fun q => (q.1, q.2.1)) look
      simpa only [List.map_map, Function.comp_def, declaredText] using mapped
    rw [texts]
    exact messageValues_eq_of_agrees x.target messages fields rfl
  unfold OutputContext.messageFile
  rw [← bind_assoc, values, bind_assoc, path, log]

/-! ### Blocks and checks -/

/-- What a check asks: whether the buffer is at its end. -/
def Code.question : String := "!buffer.isReadable()"

/-- The line has the question in it. -/
def Code.Asks (line : String) : Prop := question.toList <:+: line.toList

/-- The text has no sign of negation. -/
def Code.isAffirmative (s : String) : Bool := !s.toList.contains '!'

namespace Code

theorem isAffirmative_iff {s : String} : isAffirmative s = true ↔ '!' ∉ s.toList := by
  simp [isAffirmative]

@[simp]
theorem isAffirmative_append (a b : String) :
    isAffirmative (a ++ b) = (isAffirmative a && isAffirmative b) := by
  unfold isAffirmative
  rw [String.toList_append, List.contains_append, Bool.not_or]

@[simp]
theorem isAffirmative_number (n : Nat) : isAffirmative (toString n) = true := by
  rw [isAffirmative_iff]
  intro mem
  exact absurd (isDigit_of_mem_toString mem) (by decide)

@[simp]
theorem isAffirmative_id (id : MessageId) : isAffirmative id.text = true :=
  isAffirmative_iff.mpr (MessageId.not_mem_text (by decide) id)

theorem isAffirmative_indent (depth : Int) : isAffirmative (indent depth) = true := by
  rw [isAffirmative_iff]
  simp [indent]

theorem isAffirmative_type {s : String} (h : TypeName.IsPlainText s) : isAffirmative s = true := by
  rw [isAffirmative_iff]
  intro mem
  exact absurd (List.all_eq_true.mp h.chars _ mem) (by decide)

/-- A text without the sign does not ask. -/
theorem not_asks {s : String} (h : isAffirmative s = true) : ¬ Asks s :=
  fun inside => isAffirmative_iff.mp h (inside.subset (by decide))

/-- The statements that read and store fields, where the texts in them have no sign of negation. -/
inductive IsPlainRead : Statement → Prop where
  | readScalar {n : Nat} {kind : Scalar} {type : Option String} :
      isAffirmative (type.getD "auto") = true → IsPlainRead (.readScalar n kind type)
  | newContainer {n : Nat} {type : String} :
      isAffirmative type = true → IsPlainRead (.newContainer n type)
  | readSize {n : Nat} : IsPlainRead (.readSize n)
  | forCount {n : Nat} : IsPlainRead (.forCount n)
  | addElement {n k : Nat} {kind : Sequence} : IsPlainRead (.addElement n kind (.result k))
  | addEntry {n k l : Nat} : IsPlainRead (.addEntry n (.result k) (.result l))
  | readMessage {n : Nat} {id : MessageId} {type : Option String} :
      isAffirmative (type.getD "auto") = true → IsPlainRead (.readMessage n id type)
  | close : IsPlainRead .close
  | store {n : Nat} {field : String} :
      isAffirmative field = true → IsPlainRead (.store field (.result n))

/-- The texts of such statements have no sign of negation. -/
theorem isAffirmative_of_isPlainRead (t : Target) {s : Statement} (h : IsPlainRead s) :
    isAffirmative (t.statement s) = true := by
  have suffix : ∀ kind, isAffirmative (Cpp.suffix kind) = true ∧
      isAffirmative (TypeScript.suffix kind) = true := by
    intro kind
    cases kind <;> decide
  have insertion : ∀ kind, isAffirmative (Cpp.insertion kind) = true ∧
      isAffirmative (TypeScript.insertion kind) = true := by
    intro kind
    cases kind <;> decide
  cases t with
  | cpp =>
    cases h with
    | close => rfl
    | _ =>
      dsimp only [Target.statement, Cpp.statement, Cpp.expression, Expr.render]
      simp only [isAffirmative_append, isAffirmative_number, isAffirmative_id, *]
      rfl
  | typescript =>
    cases h with
    | close => rfl
    | _ =>
      dsimp only [Target.statement, TypeScript.statement, TypeScript.expression, Expr.render]
      simp only [isAffirmative_append, isAffirmative_number, isAffirmative_id, *]
      rfl

/-- A type that is named in a declaration has no sign of negation. -/
theorem isAffirmative_annotated {t : Target} {ids : TypeName.MessageIds} {w : WireType}
    (resolved : w.Resolved ids) {type : String} (spelled : t.spelling.spell w.name = .ok type) :
    isAffirmative type = true ∧ isAffirmative ((t.annotated type).getD "auto") = true := by
  have plain := isAffirmative_type (t.isPlainText_of_spell resolved.wellFormed_name spelled)
  refine ⟨plain, ?_⟩
  unfold Target.annotated
  split
  · exact plain
  · rfl

/-- The code that reads a value has none but such statements. -/
theorem isPlainRead_of_readLines {t : Target} {ids : TypeName.MessageIds} {w : WireType}
    {depth : Int} {n next : Nat} {ls : List Line} (resolved : w.Resolved ids)
    (h : ReadLines t w depth n ls next) : ∀ l ∈ ls, IsPlainRead l.statement := by
  induction h with
  | scalar spelled =>
    exact List.forall_mem_singleton.mpr (.readScalar (isAffirmative_annotated resolved spelled).2)
  | sequence spelled _ ih =>
    have type := (isAffirmative_annotated resolved spelled).1
    cases resolved with
    | sequence inside =>
      simp only [List.forall_mem_cons, List.forall_mem_append]
      exact ⟨.newContainer type, .readSize, .forCount, ih inside, .addElement, .close, by simp⟩
  | map spelled _ _ ihk ihv =>
    have type := (isAffirmative_annotated resolved spelled).1
    cases resolved with
    | map key value =>
      simp only [List.forall_mem_cons, List.forall_mem_append]
      exact ⟨.newContainer type, .readSize, .forCount, ihk key, ihv value, .addEntry, .close,
        by simp⟩
  | message spelled =>
    exact List.forall_mem_singleton.mpr (.readMessage (isAffirmative_annotated resolved spelled).2)

end Code

/-- The line that stores the value that was read for a field. -/
def Target.keepLine (t : Target) (f : Field) (n : Nat) : Line :=
  ⟨t.bodyDepth, .store (shown f.name) (.result n)⟩

/-- The lines decode a field: they read a value and store it. -/
def Target.Decodes (t : Target) (f : Field) (block : List String) : Prop :=
  ∃ n ls next, ReadLines t f.type t.bodyDepth n ls next ∧
    block = (ls ++ [t.keepLine f n]).map t.line

/-- The lines decode fields in their order, and the check stands right before those of the tail. It
is made nowhere else: no line that decodes a field asks the question. -/
def Target.ChecksTail (t : Target) (fs : List Field) (tail : Nat → Prop) (body : List String) :
    Prop :=
  ∃ parts : List (List String × List String), parts.length = fs.length ∧
    body = parts.flatMap (fun p => p.1 ++ p.2) ∧
    ∀ i f check block, fs[i]? = some f → parts[i]? = some (check, block) →
      (tail i → check = (t.guard t.bodyDepth).map t.line) ∧ (¬ tail i → check = []) ∧
      t.Decodes f block ∧ ∀ line ∈ block, ¬ Asks line

/-- A tail is what it is at the places of fields. -/
theorem Target.ChecksTail.congr {t : Target} {fs : List Field} {tail tail' : Nat → Prop}
    {body : List String} (h : t.ChecksTail fs tail body)
    (same : ∀ i < fs.length, tail i ↔ tail' i) : t.ChecksTail fs tail' body := by
  obtain ⟨parts, length, whole, each⟩ := h
  refine ⟨parts, length, whole, fun i f check block here there => ?_⟩
  rw [← same i (List.getElem?_eq_some_iff.mp here).1]
  exact each i f check block here there

/-- The lines that decode a field do not ask. -/
theorem not_asks_of_decodes {t : Target} {ids : TypeName.MessageIds} {f : Field}
    {block : List String} (resolved : f.type.Resolved ids)
    (name : f.name.any TypeName.isName = true) (h : t.Decodes f block) :
    ∀ line ∈ block, ¬ Asks line := by
  obtain ⟨n, ls, next, lines, rfl⟩ := h
  have field : isAffirmative (shown f.name) = true := by
    obtain ⟨text, given, isName⟩ := (Option.any_eq_true _ _).mp name
    rw [given]
    exact isAffirmative_type (.of_isName isName)
  have all : ∀ l ∈ ls ++ [t.keepLine f n], IsPlainRead l.statement :=
    List.forall_mem_append.mpr
      ⟨isPlainRead_of_readLines resolved lines, List.forall_mem_singleton.mpr (.store field)⟩
  refine List.forall_mem_map.mpr fun l mem => not_asks ?_
  show isAffirmative (indent l.depth ++ t.statement l.statement) = true
  rw [isAffirmative_append, isAffirmative_indent, isAffirmative_of_isPlainRead t (all l mem)]
  rfl

/-- The code that reads fields checks their tail. -/
theorem checksTail_of_readFieldLines {t : Target} {ids : TypeName.MessageIds} {tail : Bool}
    {fs : List Field} {n next : Nat} {ls : List Line}
    (resolved : ∀ f ∈ fs, f.type.Resolved ids)
    (names : ∀ f ∈ fs, f.name.any TypeName.isName = true)
    (h : ReadFieldLines t tail fs n ls next) :
    t.ChecksTail fs (fun i => tail = true ∨ InTail fs i) (ls.map t.line) := by
  induction h with
  | nil => exact ⟨[], rfl, rfl, fun i f check block here => by simp at here⟩
  | @cons tail f fs n middle next ls ms lines _ ih =>
    obtain ⟨first, others⟩ := List.forall_mem_cons.mp resolved
    obtain ⟨name, rest⟩ := List.forall_mem_cons.mp names
    obtain ⟨parts, length, whole, each⟩ := ih others rest
    have decodes : t.Decodes f ((ls ++ [t.keepLine f n]).map t.line) :=
      ⟨n, ls, middle, lines, rfl⟩
    refine ⟨((Code.Target.checkLines t (tail || f.isCompatible)).map t.line,
      (ls ++ [t.keepLine f n]).map t.line) :: parts, ?_, ?_, ?_⟩
    · rw [List.length_cons, List.length_cons, length]
    · rw [List.flatMap_cons, ← whole]
      simp [Target.keepLine]
    · intro i g check block here there
      cases i with
      | zero =>
        obtain rfl : f = g := by simpa using here
        obtain ⟨rfl, rfl⟩ := Prod.mk.inj (Option.some.inj there)
        beta_reduce
        rw [inTail_cons_zero, ← Bool.or_eq_true]
        refine ⟨fun set => ?_, fun unset => ?_, decodes, not_asks_of_decodes first name decodes⟩
        · rw [Code.Target.checkLines, if_pos set]
        · rw [Code.Target.checkLines, if_neg unset]
          rfl
      | succ i =>
        -- the other fields have the first one before them
        beta_reduce
        rw [or_inTail_cons_succ]
        exact each i g check block (by simpa using here) (by simpa using there)

/-! ### Messages -/

/-- Every item goes with what it becomes together with an item of another list. -/
theorem forall₂_zipWith {α β : Type} {R : α → α → Prop} {f : α → β → α} (h : ∀ x y, R x (f x y))
    {xs : List α} {ys : List β} (same : xs.length = ys.length) :
    List.Forall₂ R xs (List.zipWith f xs ys) := by
  induction xs generalizing ys with
  | nil => exact .nil
  | cons x xs ih =>
    cases ys with
    | nil => cases same
    | cons y ys => exact .cons (h x y) (ih (Nat.succ.inj same))

section Flags

variable {ids : TypeName.MessageIds} {d : MessageDefinition} {m : Message} (h : BuildsTo ids d m)

include h

/-- A message agrees with the one that has the flags of its definition. -/
theorem BuildsTo.agrees_withFlags : m.Agrees (m.withFlags d) :=
  ⟨rfl, rfl, rfl, forall₂_zipWith (fun _ _ => ⟨rfl, rfl⟩) h.length⟩

/-- The flags of a definition do not matter for documentation. -/
theorem BuildsTo.comments_withFlags :
    List.Forall₂ (fun f g => f.comment = g.comment) m.fields (m.withFlags d).fields :=
  forall₂_zipWith (R := fun f g => f.comment = g.comment) (f := Field.withFlag) (fun _ _ => rfl)
    h.length

end Flags

namespace OutputContext

variable {x : OutputContext} {s : Registry} {m : Message} {file : OutputFile}

/-- A message that has a C++ file has a name. -/
theorem name_ne_none_of_messageFile (laid : x.messageFile s m = .ok file) (cpp : x.target = .cpp) :
    m.name ≠ none := by
  intro absent
  obtain ⟨parts, made, laid⟩ := exists_of_bind_eq_ok laid
  obtain ⟨values, valued, -⟩ := exists_of_bind_eq_ok laid
  obtain ⟨-, -, same, -⟩ := exists_of_messageParts made
  have fault : Target.cpp.messageValues parts = .error .nullName := by
    rw [Target.messageValues, Cpp.messageValues, same, absent]
  rw [cpp, fault] at valued
  cases valued

/-- The file of a message checks the tail. -/
theorem exists_checksTail {ids : TypeName.MessageIds}
    (prepared : Generator.prepare x.target = .ok x.coder)
    (resolved : ∀ f ∈ m.fields, f.type.Resolved ids)
    (names : ∀ f ∈ m.fields, f.name.any TypeName.isName = true)
    (laid : x.messageFile s m = .ok file) :
    ∃ imports fields written read,
      file.content = endLines (x.target.messageLayout.layOut
        (x.target.messageValue m (fields.map (·.1)))
        (x.target.messageSection m imports fields written read)) ∧
      x.target.ChecksTail m.fields (InTail m.fields) (read.map x.target.line) := by
  obtain ⟨fields, written, read, middle, last, -, -, -, readLines, -, form⟩ :=
    exists_layOut (r := s) prepared (name_ne_none_of_messageFile laid) resolved names
  obtain ⟨imports, -, content⟩ := exists_of_bind_eq_ok (form.symm.trans laid)
  obtain ⟨_, -, content⟩ := exists_of_bind_eq_ok content
  obtain ⟨path, -, content⟩ := exists_of_bind_eq_ok content
  refine ⟨imports, fields, written, read, by rw [← Except.ok.inj content], ?_⟩
  exact (checksTail_of_readFieldLines resolved names readLines).congr fun i _ => by simp

/-- Loading and reading agree on the tail that older messages lack. The flags of a message that is
loaded hold for every field behind a compatible one. With the flags of its definition in their place,
the message has the same file or the same fault. Both files check whether there is more to read right
before the fields of the tail, and nowhere else among the lines that read fields. -/
theorem versionTail_of_ofDefinition {ds : List MessageDefinition} {r : Registry}
    (h : Registry.ofDefinition ⟨some ds⟩ = .ok r) {k : Nat} {d : MessageDefinition} {m : Message}
    (defined : ds[k]? = some d) (loaded : r.messages[k]? = some m)
    (names : ∀ f ∈ m.fields, f.name.any TypeName.isName = true) :
    (∀ (i j : Nat) (f g : Field), i ≤ j → m.fields[i]? = some f → m.fields[j]? = some g →
      f.isCompatible = true → g.isCompatible = true) ∧
    (∀ (x : OutputContext) (s : Registry), r.Agrees s →
      x.messageFile s (m.withFlags d) = x.messageFile r m) ∧
    ∀ (x : OutputContext) (s : Registry), Generator.prepare x.target = .ok x.coder → r.Agrees s →
      ∀ n ∈ [m, m.withFlags d], ∀ file, x.messageFile s n = .ok file →
        ∃ imports fields written read,
          file.content = endLines (x.target.messageLayout.layOut
            (x.target.messageValue n (fields.map (·.1)))
            (x.target.messageSection n imports fields written read)) ∧
          x.target.ChecksTail n.fields d.InTail (read.map x.target.line) := by
  obtain ⟨-, made, -⟩ := Registry.checks_of_ofDefinition h
  obtain ⟨m', here, made⟩ := exists_getElem?_of_forall₂ (forall₂_of_mapM_eq_ok made) defined
  obtain rfl := Option.some.inj (loaded.symm.trans here)
  have builds := buildsTo_of_buildMessage made
  have agrees := builds.agrees_withFlags
  have resolved := (Registry.isBuilt_of_ofDefinition h).resolved m (List.mem_of_getElem? loaded)
  refine ⟨?_, fun x s registries => ?_, fun x s prepared registries n mem file laid => ?_⟩
  · intro i j f g le first second flag
    rw [builds.isCompatible_iff second]
    obtain ⟨k, before, e, there, own⟩ := (builds.isCompatible_iff first).mp flag
    exact ⟨k, before.trans le, e, there, own⟩
  · refine (messageFile_eq_of_inTail registries agrees rfl builds.comments_withFlags
      fun i inside => ?_).symm
    rw [builds.inTail_iff inside, builds.inTail_withFlags_iff]
  · rcases List.mem_pair.mp mem with rfl | rfl
    · obtain ⟨imports, fields, written, read, content, checks⟩ :=
        exists_checksTail prepared resolved names laid
      exact ⟨imports, fields, written, read, content,
        checks.congr fun i inside => builds.inTail_iff inside⟩
    · have each : ∀ g ∈ (m.withFlags d).fields,
          g.type.Resolved (Message.idsByName r.messages) ∧
            g.name.any TypeName.isName = true := by
        intro g inside
        obtain ⟨f, mem, same⟩ := exists_of_mem_forall₂ agrees.fields inside
        rw [← same.type, ← same.name]
        exact ⟨resolved f mem, names f mem⟩
      obtain ⟨imports, fields, written, read, content, checks⟩ :=
        exists_checksTail prepared (fun g inside => (each g inside).1)
          (fun g inside => (each g inside).2) laid
      exact ⟨imports, fields, written, read, content,
        checks.congr fun i _ => builds.inTail_withFlags_iff⟩

namespace Sample

open Registry.Sample (field)

/-- A message with a compatible field in the middle. -/
def grown : MessageDefinition where
  id := .number 1
  name := some "Grown"
  fields := some [field "first" "int", { field "more" "List<int>" with compatible := some true },
    field "last" "Map<int, String>"]

end Sample

/-- The last field gets its flag from the one before, and the check stands before both. -/
theorem versionTail_of_ofDefinition_grown : ∃ r m,
    Registry.ofDefinition ⟨some [Sample.grown]⟩ = .ok r ∧ r.messages[0]? = some m ∧
    m.fields.map Field.isCompatible = [false, true, true] ∧
    (m.withFlags Sample.grown).fields.map Field.isCompatible = [false, true, false] ∧
    ¬ Sample.grown.InTail 0 ∧ Sample.grown.InTail 2 ∧
    ∀ t : Target, ∃ (x : OutputContext) (file : OutputFile) (values : String → String)
      (sections : String → List String), x.target = t ∧ x.messageFile r m = .ok file ∧
      x.messageFile r (m.withFlags Sample.grown) = .ok file ∧
      file.content = endLines (t.messageLayout.layOut values sections) ∧
      t.ChecksTail m.fields Sample.grown.InTail (sections "read_body") := by
  have facts : ∀ r, Registry.ofDefinition ⟨some [Sample.grown]⟩ = .ok r →
      ∃ m, r.messages[0]? = some m ∧ m.fields.map Field.isCompatible = [false, true, true] ∧
        (m.withFlags Sample.grown).fields.map Field.isCompatible = [false, true, false] ∧
        (∀ f ∈ m.fields, f.name.any TypeName.isName = true) ∧
        (∀ m ∈ r.messages, m.module ≠ none) ∧ m.id ≠ .null ∧ m.name ≠ none ∧
        ∃ ids, r.dependencies m.id = .ok ids := by
    intro r made
    obtain rfl := Except.ok.inj (made.symm.trans (by cbv))
    refine ⟨_, rfl, rfl, rfl, ?_, ?_, by simp, by simp, _, by cbv⟩
    · simp only [List.forall_mem_cons]
      exact ⟨rfl, rfl, rfl, by simp⟩
    · exact List.forall_mem_singleton.mpr (by simp)
  obtain ⟨r, made⟩ : ∃ r, Registry.ofDefinition ⟨some [Sample.grown]⟩ = .ok r := ⟨_, by cbv⟩
  obtain ⟨m, here, flags, raw, names, modules, id, given, ids, told⟩ := facts r made
  obtain ⟨-, same, checked⟩ :=
    versionTail_of_ofDefinition made (k := 0) (d := Sample.grown) rfl here names
  refine ⟨r, m, made, here, flags, raw, ?_, ⟨1, by decide, _, rfl, rfl⟩, fun t => ?_⟩
  · rintro ⟨j, le, e, there, flag⟩
    obtain rfl := Nat.le_zero.mp le
    obtain rfl := Option.some.inj there
    cases flag
  · obtain ⟨c, prepared, rfl, -⟩ := Script.exists_prepare t
    obtain ⟨file, laid⟩ := exists_messageFile (x := ⟨⟨.here, ["out"]⟩, c, false⟩)
      (Registry.isBuilt_of_ofDefinition made) modules prepared (List.mem_of_getElem? here) id given
      told
    obtain ⟨imports, fields, written, read, content, checks⟩ :=
      checked ⟨⟨.here, ["out"]⟩, c, false⟩ r prepared (.refl r) m (by simp) file laid
    exact ⟨_, file, _, _, rfl, laid, (same _ r (.refl r)).trans laid, content, checks⟩

end OutputContext

end PacketSmith
