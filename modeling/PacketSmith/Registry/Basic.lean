import PacketSmith.Path.Basic
import PacketSmith.Wire.Type

/-!
# Registries

A registry is an ordered collection of messages, each with its id, its fields in wire order, and the
module it belongs to. No two messages of a registry have one id, so a message can be found by its
id.

Names, modules, comments and flags come from a file that may have null in their place; a name that
is null shows as `None` in text.
-/

namespace PacketSmith

/-- A text that may be null, as it shows in other text. -/
def shown (s : Option String) : String := s.getD "None"

/-- A field of a message. -/
structure Field where
  /-- The name. -/
  name : Option String
  /-- The type of its values. -/
  type : WireType
  /-- The field belongs to the tail that older messages lack. -/
  compatible : Option Bool := some false
  /-- The documentation. -/
  comment : Option String := none
deriving Repr

/-- The field belongs to the tail that older messages lack; null counts as no. -/
def Field.isCompatible (f : Field) : Bool := f.compatible == some true

/-- A message: its id, its fields in wire order, and its module. -/
structure Message where
  /-- The id. -/
  id : MessageId
  /-- The name. -/
  name : Option String
  /-- The fields, in wire order. -/
  fields : List Field := []
  /-- The module that the message belongs to. -/
  module : Option String := some ""
  /-- The documentation. -/
  comment : Option String := none
deriving Repr

/-- The directory of a message; a module that is null is a fault. -/
def Message.directory (m : Message) : Except Fault String :=
  match m.module with
  | some s => .ok (Path.directory s)
  | none => .error .nullText

/-- What the ids of messages are compared by, in order. -/
def Message.keys (ms : List Message) : List (Option Int) := ms.map (·.id.key)

/-- An ordered collection of messages with distinct ids. -/
structure Registry where
  /-- The messages, in order. -/
  messages : List Message
  /-- No two messages have one id. -/
  distinct : (Message.keys messages).Nodup

namespace Registry

/-- The first id that repeats an earlier one, where `seen` holds the ids before. -/
def repeatedId? (seen : List (Option Int)) : List Message → Option MessageId
  | [] => none
  | m :: ms =>
    if seen.contains m.id.key then some m.id else repeatedId? (m.id.key :: seen) ms

theorem nodup_of_repeatedId? {seen : List (Option Int)} {ms : List Message}
    (h : repeatedId? seen ms = none) :
    (Message.keys ms).Nodup ∧ ∀ k ∈ Message.keys ms, k ∉ seen := by
  induction ms generalizing seen with
  | nil => simp [Message.keys]
  | cons m ms ih =>
    unfold repeatedId? at h
    split at h
    · simp at h
    · rename_i fresh
      obtain ⟨distinct, apart⟩ := ih h
      simp only [List.contains_eq_mem, decide_eq_true_eq] at fresh
      simp only [Message.keys, List.map_cons, List.nodup_cons, List.mem_cons, forall_eq_or_imp]
      refine ⟨⟨fun repeated => ?_, distinct⟩, fresh, fun k hk hs => ?_⟩
      · exact apart _ repeated (List.mem_cons_self ..)
      · exact apart k hk (List.mem_cons_of_mem _ hs)

/-- The registry of some messages; the first id that repeats an earlier one is a fault. -/
def ofMessages (ms : List Message) : Except Fault Registry :=
  match h : repeatedId? [] ms with
  | some id => .error (.duplicateId id)
  | none => .ok ⟨ms, (nodup_of_repeatedId? h).1⟩

/-- The message of an id. -/
def find? (r : Registry) (id : MessageId) : Option Message :=
  r.messages.find? (·.id.same id)

/-- The message of an id; an id without a message is a fault. -/
def get (r : Registry) (id : MessageId) : Except Fault Message :=
  match r.find? id with
  | some m => .ok m
  | none => .error (.unknownId id)

end Registry
end PacketSmith
