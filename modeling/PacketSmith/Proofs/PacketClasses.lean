import PacketSmith.Proofs.FileLayout
import PacketSmith.Proofs.PacketCalls

/-!
# Ids and classes match

An id that generated code sends or expects stands for one class, everywhere. For each nested message
in a registry (`exists_class_of_ofDefinition`):

* the registry has the message of the type's id, and its name is the name in the type;
* C++ code casts what it reads with the id to the class of that name, and writes with the same id
  (`IsCodedAs`);
* the manager of each target registers the messages in order, and of its statements exactly one is
  for the id, with that name (`IsRegisteredAs`).

A statement registers an id if it opens as such statements do, with the text of the id. The id can
be told from the opening because ids have different texts, none of which has a bracket or a comma
(`registers_iff`).
-/

namespace PacketSmith

open Code

/-! ### Ids in text -/

/-- The text of a number below zero is a dash and the digits of its size. -/
theorem toString_negSucc (n : Nat) :
    (toString (Int.negSucc n)).toList = '-' :: (toString (n + 1)).toList :=
  String.toList_append

/-- The text of a number that is not below zero has digits alone. -/
theorem isDigit_of_mem_toString {c : Char} {n : Nat} (mem : c ∈ (toString n).toList) :
    c.isDigit = true := by
  rw [Nat.toString_eq_repr, Nat.toList_repr] at mem
  exact Nat.isDigit_of_mem_toDigits (by decide) le_rfl mem

/-- The text of a number has digits and dashes alone. -/
theorem isDigit_or_dash_of_mem_toString {c : Char} {k : Int} (mem : c ∈ (toString k).toList) :
    c.isDigit = true ∨ c = '-' := by
  cases k with
  | ofNat n => exact .inl (isDigit_of_mem_toString mem)
  | negSucc n =>
    rw [toString_negSucc] at mem
    rcases List.mem_cons.mp mem with dash | inside
    · exact .inr dash
    · exact .inl (isDigit_of_mem_toString inside)

/-- Different numbers have different texts. -/
theorem toString_inj {j k : Int} (h : (toString j).toList = (toString k).toList) : j = k := by
  have apart : ∀ n i : Nat, (toString n).toList ≠ '-' :: (toString (i + 1)).toList := by
    intro n i same
    have dash : '-' ∈ (toString n).toList := same ▸ List.mem_cons_self
    exact absurd (isDigit_of_mem_toString dash) (by decide)
  cases j with
  | ofNat n =>
    cases k with
    | ofNat i => exact congrArg _ (Nat.repr_inj.mp (String.toList_inj.mp h))
    | negSucc i => exact absurd (h.trans (toString_negSucc i)) (apart n i)
  | negSucc n =>
    cases k with
    | ofNat i => exact absurd (h.symm.trans (toString_negSucc n)) (apart i n)
    | negSucc i =>
      rw [toString_negSucc, toString_negSucc] at h
      have digits : n + 1 = i + 1 := Nat.repr_inj.mp (String.toList_inj.mp (List.cons.inj h).2)
      rw [Nat.succ.inj digits]

namespace MessageId

/-- The character has no place in the text of an id. -/
def divides (c : Char) : Bool := !c.isDigit && c != '-' && !c.isAlpha

/-- No text of an id has a character that divides. -/
theorem not_mem_text {c : Char} (h : divides c = true) (id : MessageId) : c ∉ id.text.toList := by
  have word : ∀ s : String, s.toList.all (!divides ·) = true → c ∉ s.toList := by
    intro s all mem
    simpa [h] using List.all_eq_true.mp all c mem
  cases id with
  | null => exact word _ (by decide)
  | flag b => cases b <;> exact word _ (by decide)
  | number k =>
    intro mem
    rcases isDigit_or_dash_of_mem_toString mem with digit | rfl
    · simp [divides, digit] at h
    · cases h

/-- Different ids have different texts. -/
theorem text_inj {a b : MessageId} (h : a.text.toList = b.text.toList) : a = b := by
  -- the words for null and the truth values have a letter in common that no number has
  have word : ∀ (k : Int) (s : String), 'e' ∈ s.toList → (number k).text.toList ≠ s.toList := by
    intro k s mem same
    rw [← same] at mem
    rcases isDigit_or_dash_of_mem_toString mem with digit | dash
    · cases digit
    · cases dash
  cases a with
  | null =>
    cases b with
    | null => rfl
    | flag v => cases v <;> exact absurd h (by decide)
    | number k => exact absurd h.symm (word k _ (by decide))
  | flag u =>
    cases b with
    | null => cases u <;> exact absurd h (by decide)
    | flag v =>
      cases u <;> cases v
      · rfl
      · exact absurd h (by decide)
      · exact absurd h (by decide)
      · rfl
    | number k => cases u <;> exact absurd h.symm (word k _ (by decide))
  | number j =>
    cases b with
    | null => exact absurd h (word j _ (by decide))
    | flag v => cases v <;> exact absurd h (word j _ (by decide))
    | number k => rw [toString_inj h]

end MessageId

/-! ### Registrations -/

namespace Target

/-- How a statement that registers an id opens. -/
def registrationOpening : Target → MessageId → String
  | cpp, id => "protocols[" ++ id.text ++ "] = new "
  | typescript, id => "protocols.set(" ++ id.text ++ ", "

/-- The statement registers an id. -/
def registers (t : Target) (id : MessageId) (s : String) : Bool :=
  (t.registrationOpening id).toList.isPrefixOf s.toList

/-- The statement that registers an id for the class of a name. -/
def registrationOf : Target → MessageId → String → String
  | cpp, id, name => "protocols[" ++ id.text ++ "] = new " ++ name ++ "Registration();"
  | typescript, id, name => "protocols.set(" ++ id.text ++ ", " ++ name ++ ");"

/-- A message is registered by the statement for its id and its name. -/
theorem registration_eq (t : Target) (m : Message) :
    t.registration m = t.registrationOf m.id (shown m.name) := by
  cases t <;> rfl

/-- The statement for an id registers that id alone. -/
theorem registers_iff (t : Target) {id other : MessageId} (name : String) :
    t.registers id (t.registrationOf other name) = true ↔ other = id := by
  -- behind the common start stands the id, and then a character that no id has
  have split : ∃ start divider xs ys, MessageId.divides divider = true ∧
      (t.registrationOpening id).toList = start ++ (id.text.toList ++ divider :: xs) ∧
      (t.registrationOf other name).toList = start ++ (other.text.toList ++ divider :: ys) ∧
      xs <+: ys := by
    cases t with
    | cpp =>
      refine ⟨"protocols[".toList, ']', " = new ".toList,
        " = new ".toList ++ (name ++ "Registration();").toList, by decide, ?_, ?_,
        List.prefix_append _ _⟩
      · show ("protocols[" ++ id.text ++ "] = new ").toList = _
        simp
      · show ("protocols[" ++ other.text ++ "] = new " ++ name ++ "Registration();").toList = _
        simp
    | typescript =>
      refine ⟨"protocols.set(".toList, ',', " ".toList, " ".toList ++ (name ++ ");").toList,
        by decide, ?_, ?_, List.prefix_append _ _⟩
      · show ("protocols.set(" ++ id.text ++ ", ").toList = _
        simp
      · show ("protocols.set(" ++ other.text ++ ", " ++ name ++ ");").toList = _
        simp
  obtain ⟨start, divider, xs, ys, divides, opening, statement, goesOn⟩ := split
  rw [registers, List.isPrefixOf_iff_prefix, opening, statement, List.prefix_append_right_inj]
  constructor
  · intro same
    have texts := eq_of_prefix_divided (MessageId.not_mem_text divides id)
      (MessageId.not_mem_text divides other) same
    exact (MessageId.text_inj texts).symm
  · rintro rfl
    rw [List.prefix_append_right_inj, List.cons_prefix_cons]
    exact ⟨rfl, goesOn⟩

end Target

/-- An item of a list without repetitions is what is left of the list if no other item passes. -/
theorem filter_eq_singleton {α : Type} {xs : List α} {a : α} {p : α → Bool} (distinct : xs.Nodup)
    (mem : a ∈ xs) (passes : p a = true) (alone : ∀ b ∈ xs, p b = true → b = a) :
    xs.filter p = [a] := by
  obtain ⟨before, after, rfl⟩ := List.append_of_mem mem
  have out : a ∉ before ∧ a ∉ after := by
    rw [List.nodup_middle, List.nodup_cons, List.mem_append, not_or] at distinct
    exact distinct.1
  have none : ∀ ys : List α, a ∉ ys → (∀ b ∈ ys, p b = true → b = a) → ys.filter p = [] := by
    intro ys missing others
    rw [List.filter_eq_nil_iff]
    intro b inside holds
    exact missing (others b inside holds ▸ inside)
  rw [List.filter_append, List.filter_cons_of_pos passes, none before out.1, none after out.2,
    List.nil_append]
  · intro b inside
    exact alone b (by simp [inside])
  · intro b inside
    exact alone b (by simp [inside])

/-- The manager's files register the messages of a registry in order, and an id once, for the class
of a name. -/
structure Registry.IsRegisteredAs (r : Registry) (x : OutputContext) (id : MessageId)
    (name : String) : Prop where
  /-- The file of the manager is there if every message has a module, and only then. -/
  exists_iff : (∃ file, x.managerFile r = .ok file) ↔ ∀ m ∈ r.messages, m.module ≠ none
  /-- The file registers the messages in order. -/
  layout : ∀ file, x.managerFile r = .ok file →
    ∃ imports, file.content =
      x.target.managerText imports (r.messages.map x.target.registration)
  /-- One statement registers the id, and it registers it for the class. -/
  once : (r.messages.map x.target.registration).filter (x.target.registers id) =
    [x.target.registrationOf id name]

/-- A message is registered once, with its id and its name. -/
theorem Registry.isRegisteredAs {r : Registry} {b : Message} (hb : b ∈ r.messages)
    (x : OutputContext) : r.IsRegisteredAs x b.id (shown b.name) := by
  refine ⟨OutputContext.exists_managerFile_iff, ?_, ?_⟩
  · intro file h
    obtain ⟨imports, -, rfl⟩ := OutputContext.exists_of_managerFile h
    exact ⟨_, rfl⟩
  · have alone : ∀ m ∈ r.messages, x.target.registers b.id (x.target.registration m) = true →
        m = b := by
      intro m mem holds
      rw [Target.registration_eq, Target.registers_iff] at holds
      exact eq_of_key_eq mem hb (congrArg MessageId.key holds)
    have itself : x.target.registers b.id (x.target.registration b) = true := by
      rw [Target.registration_eq, Target.registers_iff]
    have distinct : r.messages.Nodup := List.Nodup.of_map _ r.distinct
    have left : r.messages.filter (x.target.registers b.id ∘ x.target.registration) = [b] :=
      filter_eq_singleton distinct hb itself alone
    rw [List.filter_map, left, List.map_singleton, Target.registration_eq]

/-! ### Code of nested messages -/

namespace Code

/-- C++ code of a type casts what it reads with the type's id to the class of a name, and writes
with that id. -/
structure IsCodedAs (c : Coder) (w : WireType) (name : String) : Prop where
  /-- The line that reads. -/
  read : ∀ depth n, (c.read w depth n).lines.map Target.cpp.line =
    [indent depth ++ ("auto result" ++ toString n ++ " = *((" ++ name ++
      " *) buffer.readPacket(" ++ w.id.text ++ ").get());")]
  /-- The line that writes. -/
  write : ∀ e depth n, (c.write w e depth n).lines.map Target.cpp.line =
    [indent depth ++ ("buffer.writePacket(&" ++ Cpp.expression e ++ ", " ++ w.id.text ++ ");")]

/-- The code of a nested message. -/
theorem isCodedAs {c : Coder} (std : Script.IsStandard c) (target : c.target = .cpp)
    {head : String} (name : TypeName.isName head = true)
    (other : TypeName.primitives.lookup head = none) (id : MessageId) :
    IsCodedAs c (.mk .message (.simple head) [] id) head := by
  constructor
  · intro depth n
    have type : readAs c.target (.mk .message (.simple head) [] id) = some head := by
      rw [target]
      rfl
    rw [lines_read_message std name other, type]
    rfl
  · intro e depth n
    rw [lines_write_message std]
    rfl

end Code

namespace Registry

variable {r : Registry} {m : Message} {f : Field} {w : WireType}

/-- Ids and classes match. A nested message at any depth in any field has the id of a message of the
registry whose name is its own. C++ code reads it with the id and casts it to the class of the name,
and writes it with the id; the two functions of the message around it call for its nested messages
in order, each in this way. Every manager registers the messages in order, the id once, and for that
class. -/
theorem exists_class_of_ofDefinition {d : RegistryDefinition} (h : ofDefinition d = .ok r)
    (hm : m ∈ r.messages) (hf : f ∈ m.fields) (hw : w ∈ f.type.walk) (tag : w.tag = .message) :
    ∃ b ∈ r.messages, r.get w.id = .ok b ∧ b.id = w.id ∧ b.name = some w.name.head ∧
      (∀ c, Generator.prepare .cpp = .ok c → IsCodedAs c w w.name.head ∧
        (∀ tail n, packets (c.readFields tail m.fields n).lines =
          (Field.messages m.fields).map fun v => (v.id, some v.name.head)) ∧
        ∀ n, packets (c.writeFields m.fields n).lines =
          (Field.messages m.fields).map fun v => (v.id, none)) ∧
      ∀ x : OutputContext, r.IsRegisteredAs x w.id w.name.head := by
  have built := isBuilt_of_ofDefinition h
  obtain ⟨b, hb, name, id⟩ := built.exists_message hm hf hw tag
  have got : r.get w.id = .ok b := by
    rw [Registry.get, find?_of_mem hb (congrArg MessageId.key id)]
  have fields : ∀ g ∈ m.fields, g.type.Resolved (Message.idsByName r.messages) :=
    built.resolved m hm
  refine ⟨b, hb, got, id, name, ?_, ?_⟩
  · intro c prepared
    obtain ⟨target, std⟩ := of_prepare prepared
    refine ⟨?_, ?_, fun n => (calls_writeFields std fields n).packets⟩
    · obtain ⟨head, own, rfl, isName, other, -⟩ := (built.resolved_of_mem hm hf hw).eq_message tag
      exact isCodedAs std target isName other own
    · intro tail n
      have calls := (calls_readFields std fields tail n).packets
      rw [target] at calls
      exact calls
  · intro x
    have registered := isRegisteredAs hb x
    rwa [id, name] at registered

namespace Sample

/-- A message that nests another one, whose number is part of its own, in a list of maps. -/
def nested : RegistryDefinition where
  messages := some [
    { id := .number 12, name := some "Bag",
      fields := some [field "all" "List<Map<String, Item>>"] },
    { id := .number 1, name := some "Item" }]

/-- The nested message. -/
def item : WireType := .mk .message (.simple "Item") [] (.number 1)

/-- The list of maps. -/
def items : WireType :=
  let text : WireType := .mk (.scalar .string) (.simple "String") [] .null
  let map : WireType := .mk .map (.mk "Map" [text.name, item.name]) [text, item] .null
  .mk (.sequence .list) (.mk "List" [map.name]) [map] .null

end Sample

/-- The manager registers the nested message under the number in its type, and the message around it
under another one. -/
theorem exists_class_of_ofDefinition_sample : ∃ r, ofDefinition Sample.nested = .ok r ∧
    Sample.item ∈ Sample.items.walk ∧ (∃ m ∈ r.messages, ∃ f ∈ m.fields, f.type = Sample.items) ∧
      ∀ x : OutputContext, r.IsRegisteredAs x (.number 1) "Item" := by
  have inside : Sample.item ∈ Sample.items.walk := by
    simp [Sample.items, Sample.item, WireType.walk, WireType.walkAll]
  refine ⟨_, by cbv, inside, ⟨_, .head _, _, .head _, rfl⟩, ?_⟩
  obtain ⟨b, -, -, -, -, -, registered⟩ := exists_class_of_ofDefinition (d := Sample.nested)
    (by cbv) (.head _) (.head _) inside rfl
  exact registered

end Registry

end PacketSmith
