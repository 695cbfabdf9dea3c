import Mathlib
import PacketSmith.Proofs.DefinitionChecks
import PacketSmith.Proofs.EmittedLines
import PacketSmith.Proofs.GenerateOutcomes
import PacketSmith.Proofs.TypeNameText

/-!
# Serializers that are missing

A table of serializers may lack tags. Code is emitted in three passes then: the declarations of the
fields ask for the serializers of the fields' own types, and the code that writes and the code that
reads a field ask for those of all types inside it, by elements, keys and values.

* Emitted code stops at the first type on the walk of a field that has no serializer, wherever in
  the code the counter stands (`Emit.HasFault`, `hasFault_write`, `hasFault_read`).
* So what is reported of a message is the first field whose own tag is missing, or else the first
  type with a missing tag in all fields (`Coder.firstUnmapped?`, `faultOf?_messageParts`).
* Only the lines that make other messages known come before, and they fail for a message whose
  module is null (`unmapped_iff_of_messageFile`, `module_before_serializer`).
-/

namespace PacketSmith

open Code

/-! ### Faults of a setup -/

/-- The fault lies in how a generator is set up. -/
def Fault.isConfiguration : Fault → Bool
  | unknownLanguage .. | tableSealed .. | noSerializer .. | unmappedType ..
  | incompleteTable .. => true
  | _ => false

/-- Faults in how a generator is set up are reported. -/
theorem Fault.isReported_of_isConfiguration {e : Fault} (h : e.isConfiguration = true) :
    e.isReported = true := by
  cases e <;> simp_all [isConfiguration, isReported]

/-- Two steps fail as the first one does, or else as the second one does. -/
theorem faultOf?_bind {α β : Type} {r : Except Fault α} {k : α → Except Fault β}
    {fault : Option Fault} (rest : ∀ a, r = .ok a → faultOf? (k a) = fault) :
    faultOf? (r >>= k) = (faultOf? r).or fault := by
  cases r with
  | error e => rfl
  | ok a => exact rest a rfl

namespace Code

/-! ### Tables -/

namespace Table

variable {α : Type}

/-- The table is left of another one if some tags are left out of it. -/
structure IsPart (t u : Table α) : Prop where
  /-- It is for the same language. -/
  language : t.language = u.language
  /-- What it assigns is what the other one assigns. -/
  find : ∀ tag a, t.find? tag = some a → u.find? tag = some a

/-- The table without some tags. -/
def leaveOut (t : Table α) (tags : List Tag) : Table α :=
  { t with entries := t.entries.filter fun p => p.1 ∉ tags }

/-- What is found in a table without some tags. -/
theorem find?_leaveOut (t : Table α) (tags : List Tag) (tag : Tag) :
    (t.leaveOut tags).find? tag = if tag ∈ tags then none else t.find? tag := by
  unfold find? leaveOut
  induction t.entries with
  | nil => simp
  | cons p entries ih =>
    by_cases out : p.1 ∈ tags
    · rw [List.filter_cons_of_neg (by simpa using out), ih]
      by_cases same : tag = p.1
      · simp [same, out]
      · rw [List.lookup_cons, beq_false_of_ne same]
    · rw [List.filter_cons_of_pos (by simpa using out), List.lookup_cons, List.lookup_cons, ih]
      by_cases same : tag = p.1
      · simp [same, out]
      · rw [beq_false_of_ne same]

/-- A table without some tags is a part of it. -/
theorem isPart_leaveOut (t : Table α) (tags : List Tag) : (t.leaveOut tags).IsPart t where
  language := rfl
  find := by
    intro tag a found
    rw [find?_leaveOut] at found
    split at found
    · cases found
    · exact found

end Table

/-! ### Faults of emitted code -/

namespace Emit

variable {α β : Type}

/-- The code has the fault, if there is one, whatever the counter is. -/
def HasFault (code : Emit α) (fault : Option Fault) : Prop :=
  ∀ n, faultOf? (code n).result = fault

namespace HasFault

variable {first : Emit α} {rest : α → Emit β} {r : Except Fault α} {fault : Option Fault}

/-- Code behind other code, which stops it with its own fault. -/
theorem bind {own : Option Fault} (h : first.HasFault own)
    (behind : ∀ a n, (first n).result = .ok a → (rest a).HasFault fault) :
    (first >>= rest).HasFault (own.or fault) := by
  intro n
  have start := h n
  rw [bind_apply, andThen]
  cases result : (first n).result with
  | error e =>
    rw [result] at start
    rw [← start]
    rfl
  | ok a =>
    rw [result] at start
    rw [← start]
    exact behind a n result _

/-- Code behind code that cannot fail. -/
theorem after (h : first.HasFault none) (behind : ∀ a, (rest a).HasFault fault) :
    (first >>= rest).HasFault fault :=
  h.bind fun a _ _ => behind a

/-- Code in front of code that cannot fail. -/
theorem before {own : Option Fault} (h : first.HasFault own)
    (behind : ∀ a, (rest a).HasFault none) : (first >>= rest).HasFault own := by
  have whole := h.bind fun a _ _ => behind a
  rwa [Option.or_none] at whole

theorem pure (a : α) : (Pure.pure a : Emit α).HasFault none := fun _ => rfl

theorem fresh : Emit.fresh.HasFault none := fun _ => rfl

theorem line (depth : Int) (s : Statement) : (Emit.line depth s).HasFault none := fun _ => rfl

theorem lines (ls : List Line) : (Emit.lines ls).HasFault none := fun _ => rfl

/-- Code behind a result. -/
theorem ofExcept_bind (behind : ∀ a, r = .ok a → (rest a).HasFault fault) :
    (ofExcept r >>= rest).HasFault ((faultOf? r).or fault) :=
  bind (fun _ => rfl) fun a _ => behind a

/-- Code behind a result that is there. -/
theorem ofExcept_ok {a : α} (h : r = .ok a) (behind : (rest a).HasFault fault) :
    (ofExcept r >>= rest).HasFault fault := by
  subst h
  exact ofExcept_bind fun _ same => Except.ok.inj same ▸ behind

/-- Code behind a parameter that is there. -/
theorem parameter {items : List α} {i : Nat} {a : α} (h : items[i]? = some a)
    (behind : (rest a).HasFault fault) : (Emit.parameter items i >>= rest).HasFault fault :=
  ofExcept_ok (by rw [h]) behind

end HasFault

end Emit

namespace Coder

variable {c full : Coder} {ids : TypeName.MessageIds} {w : WireType}

/-! ### Serializers of a part -/

/-- The fault of a type without a serializer. -/
def unmapped (c : Coder) (w : WireType) : Fault :=
  .unmappedType c.table.language w.tag.name (w.name.text?.getD "")

/-- The type that a missing serializer is reported of: that of the first field whose own tag is
missing, and otherwise the first one with a missing tag among the types in all fields. -/
def firstUnmapped? (c : Coder) (fs : List Field) : Option WireType :=
  ((fs.map (·.type)).find? (!c.table.contains ·.tag)).or
    ((fs.flatMap (·.type.walk)).find? (!c.table.contains ·.tag))

/-- The first fault of looking up the serializers of some types. -/
def lookupFault? (c : Coder) (ws : List WireType) : Option Fault :=
  ws.findSome? fun w => faultOf? (c.serializer w)

theorem lookupFault?_cons (c : Coder) (w : WireType) (ws : List WireType) :
    c.lookupFault? (w :: ws) = (faultOf? (c.serializer w)).or (c.lookupFault? ws) := by
  rw [lookupFault?, List.findSome?_cons]
  cases faultOf? (c.serializer w) <;> rfl

theorem lookupFault?_append (c : Coder) (ws us : List WireType) :
    c.lookupFault? (ws ++ us) = (c.lookupFault? ws).or (c.lookupFault? us) :=
  List.findSome?_append

/-- The serializer of a type stands in the table. -/
theorem find?_of_serializer {s : Serializer} (h : c.serializer w = .ok s) :
    c.table.find? w.tag = some s := by
  unfold serializer Table.lookup at h
  cases found : c.table.find? w.tag with
  | none =>
    rw [found] at h
    obtain ⟨text, -, h⟩ := exists_of_bind_eq_ok h
    cases h
  | some s' =>
    rw [found] at h
    cases h
    rfl

/-- A resolved type has a serializer or is reported. -/
theorem faultOf?_serializer (h : w.Resolved ids) : faultOf? (c.serializer w) =
    if c.table.contains w.tag then none else some (c.unmapped w) := by
  unfold serializer Table.lookup Table.contains
  cases found : c.table.find? w.tag with
  | none =>
    obtain ⟨text, printed, -⟩ := TypeName.exists_text_of_wellFormed h.wellFormed_name
    simp [WireType.text, unmapped, printed, faultOf?, bind, Except.bind]
  | some s => simp [faultOf?]

/-- Of some types, the first one with a missing tag is reported. -/
theorem lookupFault?_eq {ws : List WireType} (h : ∀ w ∈ ws, w.Resolved ids) :
    c.lookupFault? ws = (ws.find? (!c.table.contains ·.tag)).map c.unmapped := by
  induction ws with
  | nil => rfl
  | cons w ws ih =>
    obtain ⟨own, others⟩ := List.forall_mem_cons.mp h
    rw [lookupFault?_cons, faultOf?_serializer own, ih others]
    cases there : c.table.contains w.tag with
    | true => simp [there]
    | false => simp [there]

/-- The serializers that a coder has are the standard ones. -/
def IsPlain (c : Coder) : Prop :=
  ∀ w s, Serializer.ofTag? w.tag = some s → ∀ s', c.serializer w = .ok s' → s' = s

/-- A part of the table of a prepared target assigns standard serializers alone. -/
theorem isPlain_of_isPart {t : Target} (prepared : Generator.prepare t = .ok full)
    (part : c.table.IsPart full.table) : c.IsPlain := by
  obtain ⟨-, std⟩ := of_prepare prepared
  intro w s standard s' found
  have whole := find?_of_serializer (std w s standard)
  have own := part.find _ _ (find?_of_serializer found)
  exact Option.some.inj (own.symm.trans whole)

/-- The table of a prepared target has the standard serializers for the target's language. -/
theorem table_of_prepare {t : Target} (prepared : Generator.prepare t = .ok full) :
    full.table = ⟨t.name, Serializer.standard.reverse, true⟩ := by
  have complete : Table.complete t.name Serializer.standard =
      .ok ⟨t.name, Serializer.standard.reverse, true⟩ := rfl
  obtain ⟨table, made, prepared⟩ := exists_of_bind_eq_ok prepared
  obtain ⟨_, -, prepared⟩ := exists_of_bind_eq_ok prepared
  obtain ⟨_, -, prepared⟩ := exists_of_bind_eq_ok prepared
  cases prepared
  exact Except.ok.inj (made.symm.trans complete)

/-! ### Code of types and of fields -/

section Types

variable (plain : c.IsPlain) (h : w.Resolved ids)

include plain h

/-- The code that writes a value stops at the first type on the walk without a serializer. -/
theorem hasFault_write (e : Expr) (depth : Int) :
    (c.write w e depth).HasFault (c.lookupFault? w.walk) := by
  induction h generalizing e depth with
  | scalar _ =>
    unfold write WireType.walk
    rw [lookupFault?_cons]
    refine .ofExcept_bind fun s found => ?_
    obtain rfl := plain _ _ rfl s found
    exact .line _ _
  | @sequence kind element _ ih =>
    have parameter : (c.writeAll [element])[0]? = some (c.write element) := by simp [writeAll]
    unfold write WireType.walk
    rw [lookupFault?_cons, WireType.walkAll, WireType.walkAll, List.append_nil]
    refine .ofExcept_bind fun s found => ?_
    obtain rfl := plain _ _ rfl s found
    refine .after .fresh fun n => .after (.line _ _) fun _ => .after (.line _ _) fun _ => ?_
    exact .parameter parameter ((ih _ _).before fun _ => .line _ _)
  | @map k v _ _ ihk ihv =>
    have first : (c.writeAll [k, v])[0]? = some (c.write k) := by simp [writeAll]
    have second : (c.writeAll [k, v])[1]? = some (c.write v) := by simp [writeAll]
    unfold write WireType.walk
    rw [lookupFault?_cons, WireType.walkAll, WireType.walkAll, WireType.walkAll, List.append_nil,
      lookupFault?_append]
    refine .ofExcept_bind fun s found => ?_
    obtain rfl := plain _ _ rfl s found
    refine .after .fresh fun n => .after (.line _ _) fun _ => .after (.line _ _) fun _ => ?_
    refine .parameter first ((ihk _ _).bind fun _ _ _ => ?_)
    exact .parameter second ((ihv _ _).before fun _ => .line _ _)
  | message _ _ _ =>
    unfold write WireType.walk
    rw [lookupFault?_cons]
    refine .ofExcept_bind fun s found => ?_
    obtain rfl := plain _ _ rfl s found
    exact .line _ _

/-- So does the code that reads a value. -/
theorem hasFault_read (depth : Int) : (c.read w depth).HasFault (c.lookupFault? w.walk) := by
  induction h generalizing depth with
  | @scalar word kind found =>
    obtain ⟨type, spelled, -⟩ := Script.spell_scalar c.target found
    have annotated := annotation_eq (w := .mk (.scalar kind) (.simple word) [] .null) spelled
    unfold read WireType.walk
    rw [lookupFault?_cons]
    refine .ofExcept_bind fun s found => ?_
    obtain rfl := plain _ _ rfl s found
    refine .after .fresh fun n => .ofExcept_ok annotated ?_
    exact .after (.line _ _) fun _ => .pure _
  | @sequence kind element resolved ih =>
    have parameter : (c.readAll [element])[0]? = some (c.read element) := by simp [readAll]
    obtain ⟨s, spelled, -⟩ := Script.spell_resolved c.target resolved
    obtain ⟨head, -, -, whole⟩ := Script.spell_sequence c.target kind spelled
    unfold read WireType.walk
    rw [lookupFault?_cons, WireType.walkAll, WireType.walkAll, List.append_nil]
    refine .ofExcept_bind fun s found => ?_
    obtain rfl := plain _ _ rfl s found
    refine .after .fresh fun n => .ofExcept_ok whole ?_
    refine .after (.line _ _) fun _ => .after (.line _ _) fun _ => .after (.line _ _) fun _ => ?_
    refine .parameter parameter ((ih _).before fun _ => ?_)
    exact .after (.line _ _) fun _ => .after (.line _ _) fun _ => .pure _
  | @map k v key value ihk ihv =>
    have first : (c.readAll [k, v])[0]? = some (c.read k) := by simp [readAll]
    have second : (c.readAll [k, v])[1]? = some (c.read v) := by simp [readAll]
    obtain ⟨a, spelledKey, -⟩ := Script.spell_resolved c.target key
    obtain ⟨b, spelledValue, -⟩ := Script.spell_resolved c.target value
    obtain ⟨head, -, -, whole⟩ := Script.spell_map c.target spelledKey spelledValue
    unfold read WireType.walk
    rw [lookupFault?_cons, WireType.walkAll, WireType.walkAll, WireType.walkAll, List.append_nil,
      lookupFault?_append]
    refine .ofExcept_bind fun s found => ?_
    obtain rfl := plain _ _ rfl s found
    refine .after .fresh fun n => .ofExcept_ok whole ?_
    refine .after (.line _ _) fun _ => .after (.line _ _) fun _ => .after (.line _ _) fun _ => ?_
    refine .parameter first ((ihk _).bind fun _ _ _ => ?_)
    refine .parameter second ((ihv _).before fun _ => ?_)
    exact .after (.line _ _) fun _ => .after (.line _ _) fun _ => .pure _
  | @message head id name other _ =>
    have annotated := annotation_eq (w := .mk .message (.simple head) [] id)
      (Script.spell_message c.target name other)
    unfold read WireType.walk
    rw [lookupFault?_cons]
    refine .ofExcept_bind fun s found => ?_
    obtain rfl := plain _ _ rfl s found
    refine .after .fresh fun n => .ofExcept_ok annotated ?_
    exact .after (.line _ _) fun _ => .pure _

end Types

section Fields

variable {fs : List Field} (plain : c.IsPlain) (h : ∀ f ∈ fs, f.type.Resolved ids)

include plain h

/-- The code that writes fields stops at the first type in them without a serializer. -/
theorem hasFault_writeFields :
    (c.writeFields fs).HasFault (c.lookupFault? (fs.flatMap (·.type.walk))) := by
  induction fs with
  | nil => exact .pure ()
  | cons f fs ih =>
    obtain ⟨own, others⟩ := List.forall_mem_cons.mp h
    rw [List.flatMap_cons, lookupFault?_append]
    exact (hasFault_write plain own _ _).bind fun _ _ _ => ih others

/-- So does the code that reads fields. -/
theorem hasFault_readFields (tail : Bool) :
    (c.readFields tail fs).HasFault (c.lookupFault? (fs.flatMap (·.type.walk))) := by
  induction fs generalizing tail with
  | nil => exact .pure ()
  | cons f fs ih =>
    obtain ⟨own, others⟩ := List.forall_mem_cons.mp h
    rw [List.flatMap_cons, lookupFault?_append]
    have field : Emit.HasFault (do
        let item ← c.read f.type c.target.bodyDepth
        Emit.line c.target.bodyDepth (.store (shown f.name) item)
        c.readFields (tail || f.isCompatible) fs)
        ((c.lookupFault? f.type.walk).or (c.lookupFault? (fs.flatMap (·.type.walk)))) :=
      (hasFault_read plain own _).bind fun _ _ _ => .after (.line _ _) fun _ => ih others _
    unfold readFields
    by_cases checked : (tail || f.isCompatible) = true
    · rw [if_pos checked]
      exact .after (.lines _) fun _ => field
    · rw [if_neg checked]
      exact field

omit plain in
/-- Declarations stop at the first field whose own type has no serializer. -/
theorem faultOf?_declarations :
    faultOf? (fs.mapM c.declarationLines) = c.lookupFault? (fs.map (·.type)) := by
  have own : ∀ f ∈ fs, faultOf? (c.declarationLines f) = faultOf? (c.serializer f.type) := by
    intro f mem
    cases serializer : c.serializer f.type with
    | error e =>
      rw [declarationLines, declare, serializer]
      rfl
    | ok s =>
      obtain ⟨lines, declared⟩ := exists_declarationLines_of_serializer serializer (h f mem)
      rw [declared]
      rfl
  rw [faultOf?_mapM, lookupFault?, List.findSome?_map, ← List.head?_filterMap,
    List.filterMap_congr own, List.head?_filterMap]
  rfl

end Fields

/-- A missing serializer is reported of some type exactly if a tag is missing in some field. -/
theorem firstUnmapped?_isSome_iff {fs : List Field} : (c.firstUnmapped? fs).isSome = true ↔
    ∃ f ∈ fs, ∃ w ∈ f.type.walk, c.table.contains w.tag = false := by
  rw [firstUnmapped?, Option.isSome_or, Bool.or_eq_true, List.find?_isSome, List.find?_isSome]
  constructor
  · rintro (⟨w, mem, missing⟩ | ⟨w, mem, missing⟩)
    · obtain ⟨f, inside, rfl⟩ := List.mem_map.mp mem
      exact ⟨f, inside, f.type, WireType.mem_walk.mpr (.inl rfl), by simpa using missing⟩
    · obtain ⟨f, inside, deeper⟩ := List.mem_flatMap.mp mem
      exact ⟨f, inside, w, deeper, by simpa using missing⟩
  · rintro ⟨f, inside, w, deeper, missing⟩
    exact .inr ⟨w, List.mem_flatMap.mpr ⟨f, inside, deeper⟩, by simpa using missing⟩

/-- The fault of the type that is reported has the text of its name. -/
theorem exists_text_of_firstUnmapped? {fs : List Field} (h : ∀ f ∈ fs, f.type.Resolved ids)
    (first : c.firstUnmapped? fs = some w) : ∃ text, w.text = .ok text ∧
      c.unmapped w = .unmappedType c.table.language w.tag.name text := by
  have resolved : w.Resolved ids := by
    rcases Option.or_eq_some_iff.mp first with found | ⟨-, found⟩
    · obtain ⟨f, mem, rfl⟩ := List.mem_map.mp (List.mem_of_find?_eq_some found)
      exact h f mem
    · obtain ⟨f, mem, deeper⟩ := List.mem_flatMap.mp (List.mem_of_find?_eq_some found)
      exact (h f mem).of_mem_walk deeper
  obtain ⟨text, printed, -⟩ := TypeName.exists_text_of_wellFormed resolved.wellFormed_name
  refine ⟨text, by rw [WireType.text, printed], ?_⟩
  rw [unmapped, printed, Option.getD_some]

end Coder

end Code

/-! ### Files of messages -/

/-- A directory cannot be told because the module is null. -/
theorem Message.eq_nullText_of_directory {m : Message} {e : Fault} (h : m.directory = .error e) :
    e = .nullText := by
  unfold directory at h
  split at h
  · cases h
  · exact (Except.error.inj h).symm

/-- A message cannot be made known because a module is null. -/
theorem Target.eq_nullText_of_dependencyLine {t : Target} {m b : Message} {e : Fault}
    (h : t.dependencyLine m b = .error e) : e = .nullText := by
  cases t with
  | cpp =>
    rcases cases_of_bind_eq_error h with none | ⟨_, -, h⟩
    · exact Message.eq_nullText_of_directory none
    · cases h
  | typescript =>
    rcases cases_of_bind_eq_error h with none | ⟨_, -, h⟩
    · exact Message.eq_nullText_of_directory none
    · rcases cases_of_bind_eq_error h with none | ⟨_, -, h⟩
      · exact Message.eq_nullText_of_directory none
      · cases h

namespace OutputContext

variable {x : OutputContext} {r : Registry} {m : Message} {ids : TypeName.MessageIds}

/-- Once other messages are made known, what can stop the pieces of a file is a missing serializer.
-/
theorem faultOf?_messageParts (plain : x.coder.IsPlain) (h : ∀ f ∈ m.fields, f.type.Resolved ids)
    {lines : List String} (known : x.dependencyLines r m = .ok lines) :
    faultOf? (x.messageParts r m) =
      (x.coder.firstUnmapped? m.fields).map x.coder.unmapped := by
  have own : ∀ w ∈ m.fields.map (·.type), w.Resolved ids := List.forall_mem_map.mpr h
  have inside : ∀ w ∈ m.fields.flatMap (·.type.walk), w.Resolved ids := by
    intro w mem
    obtain ⟨f, among, deeper⟩ := List.mem_flatMap.mp mem
    exact (h f among).of_mem_walk deeper
  have written := Coder.hasFault_writeFields plain h 0
  have read := Coder.hasFault_readFields plain h false (x.coder.writeFields m.fields 0).next
  have passes : faultOf? (x.messageParts r m) =
      (faultOf? (m.fields.mapM x.coder.declarationLines)).or
        ((faultOf? (x.coder.writeFields m.fields 0).result).or
          ((faultOf? (x.coder.readFields false m.fields
            (x.coder.writeFields m.fields 0).next).result).or none)) := by
    rw [messageParts, known]
    show faultOf? (m.fields.mapM x.coder.declarationLines >>= _) = _
    exact faultOf?_bind fun _ _ => faultOf?_bind fun _ _ => faultOf?_bind fun _ _ => rfl
  -- reading asks for the serializers that writing has asked for, so it stops nothing any more
  rw [passes, Coder.faultOf?_declarations h, written, read, Option.or_none, Option.or_self,
    Coder.lookupFault?_eq own, Coder.lookupFault?_eq inside, Coder.firstUnmapped?, Option.map_or]

section Built

variable (built : r.IsBuilt) (hm : m ∈ r.messages) (module : m.module ≠ none)
  {found : List MessageId} (told : r.dependencies m.id = .ok found)

include built hm module told

/-- A message that depends on one without a module has no file, whatever serializers there are. -/
theorem messageFile_eq_nullText (gap : ∃ id ∈ found, ∃ b, r.find? id = some b ∧ b.module = none) :
    x.messageFile r m = .error .nullText := by
  cases known : x.dependencyLines r m with
  | ok lines =>
    have modules := (exists_dependencyLines_iff built hm module told).mp ⟨lines, known⟩
    exact absurd gap modules
  | error e =>
    have null : e = .nullText := by
      rw [dependencyLines, told] at known
      rcases cases_of_bind_eq_error (r := found.mapM _) known with fails | ⟨_, -, known⟩
      · obtain ⟨id, mem, fails⟩ := exists_of_mapM_eq_error fails
        obtain ⟨b, got⟩ := Registry.exists_find?_of_mem_dependencies built hm told mem
        rw [Registry.get, got] at fails
        exact Target.eq_nullText_of_dependencyLine fails
      · cases known
    rw [messageFile, messageParts, known, null]
    rfl

/-- A message that depends on messages with modules has no file if a serializer is missing. -/
theorem messageFile_eq_unmapped (plain : x.coder.IsPlain)
    (modules : ¬∃ id ∈ found, ∃ b, r.find? id = some b ∧ b.module = none) {w : WireType}
    (first : x.coder.firstUnmapped? m.fields = some w) :
    x.messageFile r m = .error (x.coder.unmapped w) := by
  obtain ⟨lines, known⟩ := (exists_dependencyLines_iff (x := x) built hm module told).mpr modules
  have parts := faultOf?_messageParts plain (built.resolved m hm) known
  rw [first, Option.map_some, faultOf?_eq_some_iff] at parts
  rw [messageFile, parts]
  rfl

omit module in
/-- Without a missing serializer, no fault of a message's file is one of the setup. -/
theorem isConfiguration_eq_false (plain : x.coder.IsPlain)
    (none : x.coder.firstUnmapped? m.fields = none) {e : Fault}
    (fails : x.messageFile r m = .error e) : e.isConfiguration = false := by
  have parts : FaultsAre false (x.messageParts r m) := by
    cases known : x.dependencyLines r m with
    | error e =>
      rw [messageParts, known]
      exact .error (faultsAre_dependencyLines built hm told e known)
    | ok lines =>
      have fine := faultOf?_messageParts plain (built.resolved m hm) known
      rw [none, Option.map_none, faultOf?_eq_none_iff] at fine
      obtain ⟨p, made⟩ := fine
      rw [made]
      exact .ok p
  have escapes : e.isReported = false := faultsAre_messageFile_of_messageParts parts e fails
  by_contra setup
  rw [Fault.isReported_of_isConfiguration (by simpa using setup)] at escapes
  cases escapes

end Built

/-- A missing serializer is reported, and the right one. For a part of the serializers of a target,
and a message whose dependencies can be told, laying out the file fails with a fault of the setup
exactly if some type inside a field has a tag that is missing, unless a message that it depends on
has no module, which is met before. The fault names the first field whose own tag is missing, or
else the first type with a missing tag in the fields. -/
theorem unmapped_iff_of_messageFile {d : RegistryDefinition} (h : Registry.ofDefinition d = .ok r)
    (hm : m ∈ r.messages) (module : m.module ≠ none) {found : List MessageId}
    (told : r.dependencies m.id = .ok found) {full : Coder}
    (prepared : Generator.prepare x.target = .ok full) (part : x.coder.table.IsPart full.table) :
    ((∃ e, x.messageFile r m = .error e ∧ e.isConfiguration = true) ↔
      (∀ id ∈ found, ∀ b, r.find? id = some b → b.module ≠ none) ∧
        ∃ f ∈ m.fields, ∃ w ∈ f.type.walk, x.coder.table.contains w.tag = false) ∧
    (∀ e, x.messageFile r m = .error e → e.isConfiguration = true →
      ∃ w text, x.coder.firstUnmapped? m.fields = some w ∧ w.text = .ok text ∧
        e = .unmappedType x.target.name w.tag.name text) ∧
    ((∃ id ∈ found, ∃ b, r.find? id = some b ∧ b.module = none) →
      x.messageFile r m = .error .nullText) := by
  have built := Registry.isBuilt_of_ofDefinition h
  have resolved := built.resolved m hm
  have plain := Coder.isPlain_of_isPart prepared part
  have modules : (∀ id ∈ found, ∀ b, r.find? id = some b → b.module ≠ none) ↔
      ¬∃ id ∈ found, ∃ b, r.find? id = some b ∧ b.module = none := by
    simp only [not_exists, not_and, ne_eq]
  -- a fault of the setup means that some serializer is missing and that no module is
  have reported : ∀ e, x.messageFile r m = .error e → e.isConfiguration = true →
      (¬∃ id ∈ found, ∃ b, r.find? id = some b ∧ b.module = none) ∧
        ∃ w, x.coder.firstUnmapped? m.fields = some w ∧ e = x.coder.unmapped w := by
    intro e fails setup
    have noGap : ¬∃ id ∈ found, ∃ b, r.find? id = some b ∧ b.module = none := by
      intro gap
      rw [messageFile_eq_nullText built hm module told gap] at fails
      cases fails
      cases setup
    refine ⟨noGap, ?_⟩
    cases first : x.coder.firstUnmapped? m.fields with
    | none =>
      rw [isConfiguration_eq_false built hm told plain first fails] at setup
      cases setup
    | some w =>
      rw [messageFile_eq_unmapped built hm module told plain noGap first] at fails
      exact ⟨w, rfl, (Except.error.inj fails).symm⟩
  refine ⟨?_, ?_, messageFile_eq_nullText built hm module told⟩
  · rw [modules, ← Coder.firstUnmapped?_isSome_iff]
    constructor
    · rintro ⟨e, fails, setup⟩
      obtain ⟨noGap, w, first, -⟩ := reported e fails setup
      exact ⟨noGap, by rw [first, Option.isSome_some]⟩
    · rintro ⟨noGap, missing⟩
      obtain ⟨w, first⟩ := Option.isSome_iff_exists.mp missing
      exact ⟨_, messageFile_eq_unmapped built hm module told plain noGap first, rfl⟩
  · intro e fails setup
    obtain ⟨-, w, first, rfl⟩ := reported e fails setup
    obtain ⟨text, printed, named⟩ := Coder.exists_text_of_firstUnmapped? resolved first
    refine ⟨w, text, first, printed, ?_⟩
    rw [named, part.language, Coder.table_of_prepare prepared]

namespace Sample

open Registry.Sample (field)

/-- A message with types inside types. -/
def nested : RegistryDefinition where
  messages := some [
    { id := .number 1, name := some "Item", fields := some [field "weight" "float"] },
    { id := .number 2, name := some "Box", fields := some [
      field "sizes" "int[]", field "items" "Map<String, List<Item>>"] }]

/-- A message that depends on one whose module is null. -/
def unplaced : RegistryDefinition where
  messages := some [
    { id := .number 1, name := some "Box", fields := some [
      field "item" "Item", field "size" "int"] },
    { id := .number 2, name := some "Item", module := none }]

/-- The context of a target whose table lacks some tags. -/
def context (t : Target) (c : Coder) (tags : List Tag) : OutputContext where
  root := ⟨.here, ["out"]⟩
  coder := ⟨t, c.table.leaveOut tags⟩

end Sample

/-- A type inside the first field has a missing tag, and so has the second field itself: it is the
one that is reported. If the tags of all fields are there, it is the first type inside them. -/
theorem unmapped_iff_of_messageFile_sample : ∃ (r : Registry) (m : Message),
    Registry.ofDefinition Sample.nested = .ok r ∧ m ∈ r.messages ∧ m.name = some "Box" ∧
    ∀ t : Target, ∃ c, Generator.prepare t = .ok c ∧
      (Sample.context t c [.scalar .int, .map]).messageFile r m =
        .error (.unmappedType t.name "map" "Map<String, List<Item>>") ∧
      (Sample.context t c [.sequence .list, .message]).messageFile r m =
        .error (.unmappedType t.name "list" "List<Item>") := by
  obtain ⟨r, made⟩ : ∃ r, Registry.ofDefinition Sample.nested = .ok r := ⟨_, by cbv⟩
  have facts : ∃ m ∈ r.messages, m.name = some "Box" ∧ (∀ m ∈ r.messages, m.module ≠ none) ∧
      (∃ found, r.dependencies m.id = .ok found) ∧ ∀ (t : Target) (language : String),
        (Coder.firstUnmapped? ⟨t, Table.leaveOut ⟨language, Serializer.standard.reverse, true⟩
          [.scalar .int, .map]⟩ m.fields).map (fun w => (w.tag.name, w.text)) =
            some ("map", .ok "Map<String, List<Item>>") ∧
        (Coder.firstUnmapped? ⟨t, Table.leaveOut ⟨language, Serializer.standard.reverse, true⟩
          [.sequence .list, .message]⟩ m.fields).map (fun w => (w.tag.name, w.text)) =
            some ("list", .ok "List<Item>") := by
    obtain rfl := Except.ok.inj (made.symm.trans (by cbv))
    refine ⟨_, .tail _ (.head _), rfl, ?_, ⟨_, by cbv⟩, fun t language => ⟨by cbv, by cbv⟩⟩
    exact List.forall_mem_cons.mpr ⟨by simp, List.forall_mem_singleton.mpr (by simp)⟩
  obtain ⟨m, hm, name, modules, ⟨found, told⟩, first⟩ := facts
  refine ⟨r, m, made, hm, name, fun t => ?_⟩
  obtain ⟨c, prepared, -⟩ := Script.exists_prepare t
  have reported : ∀ tags tag text,
      ((Sample.context t c tags).coder.firstUnmapped? m.fields).map
        (fun w => (w.tag.name, w.text)) = some (tag, .ok text) →
      (Sample.context t c tags).messageFile r m = .error (.unmappedType t.name tag text) := by
    intro tags tag text first
    obtain ⟨w, unmapped, same⟩ := Option.map_eq_some_iff.mp first
    obtain ⟨exactly, named, -⟩ := unmapped_iff_of_messageFile (x := Sample.context t c tags) made hm
      (modules m hm) told prepared (Table.isPart_leaveOut c.table tags)
    have missing := Coder.firstUnmapped?_isSome_iff.mp (Option.isSome_of_mem unmapped)
    obtain ⟨e, fails, setup⟩ := exactly.mpr
      ⟨fun id _ b got => modules b (Registry.mem_of_find? got).1, missing⟩
    obtain ⟨v, printed, own, read, rfl⟩ := named e fails setup
    obtain rfl := Option.some.inj (unmapped.symm.trans own)
    obtain ⟨rfl, text⟩ := Prod.mk.inj same
    obtain rfl := Except.ok.inj (read.symm.trans text)
    exact fails
  obtain ⟨own, inside⟩ := first t t.name
  rw [← Coder.table_of_prepare prepared] at own inside
  exact ⟨c, prepared, reported _ _ _ own, reported _ _ _ inside⟩

/-- A message that depends on one without a module, and has a field without a serializer. Its
dependencies can be told, its own name and module are given, and yet the missing serializer is not
what is reported. -/
theorem module_before_serializer : ∃ (r : Registry) (m : Message) (found : List MessageId),
    Registry.ofDefinition Sample.unplaced = .ok r ∧ m ∈ r.messages ∧ m.name = some "Box" ∧
    m.module = some "" ∧ r.dependencies m.id = .ok found ∧
    ∀ t : Target, ∃ c, Generator.prepare t = .ok c ∧
      (Sample.context t c [.scalar .int]).coder.table.IsPart c.table ∧
      (∃ f ∈ m.fields, ∃ w ∈ f.type.walk,
        (Sample.context t c [.scalar .int]).coder.table.contains w.tag = false) ∧
      (Sample.context t c [.scalar .int]).messageFile r m = .error .nullText ∧
      Fault.nullText.isConfiguration = false := by
  obtain ⟨r, made⟩ : ∃ r, Registry.ofDefinition Sample.unplaced = .ok r := ⟨_, by cbv⟩
  have facts : ∃ m ∈ r.messages, m.name = some "Box" ∧ m.module = some "" ∧
      (∃ f ∈ m.fields, ∃ w ∈ f.type.walk, w.tag = .scalar .int) ∧
      ∃ found, r.dependencies m.id = .ok found ∧
        ∃ id ∈ found, ∃ b, r.find? id = some b ∧ b.module = none := by
    obtain rfl := Except.ok.inj (made.symm.trans (by cbv))
    refine ⟨_, .head _, rfl, rfl, ⟨_, .tail _ (.head _), _, .head _, rfl⟩, [.number 2], by cbv, ?_⟩
    exact ⟨_, .head _, _, by cbv, rfl⟩
  obtain ⟨m, hm, name, module, ⟨f, inside, w, deeper, tag⟩, found, told, gap⟩ := facts
  refine ⟨r, m, found, made, hm, name, module, told, fun t => ?_⟩
  obtain ⟨c, prepared, -⟩ := Script.exists_prepare t
  refine ⟨c, prepared, Table.isPart_leaveOut _ _, ⟨f, inside, w, deeper, ?_⟩, ?_, rfl⟩
  · show (c.table.leaveOut [.scalar .int]).contains w.tag = false
    rw [Table.contains, Table.find?_leaveOut, tag]
    rfl
  · have built := Registry.isBuilt_of_ofDefinition made
    exact messageFile_eq_nullText built hm (by simp [module]) told gap

end OutputContext

end PacketSmith
