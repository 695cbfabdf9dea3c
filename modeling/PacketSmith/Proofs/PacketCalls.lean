import PacketSmith.Proofs.BuiltRegistry
import PacketSmith.Proofs.Script.Emission

/-!
# Calls for nested messages

The code of a resolved type is emitted without a fault, for every expression, depth and counter, and
hands each nested message in the type to the buffer by one call, in the order of the type: a call
that writes or reads with the id that the type carries, and that reads as the type's own name where
the target declares what it reads (`calls_write`, `calls_read`). The code of fields is that of their
types one after the other (`calls_writeFields`, `calls_readFields`).

Nothing is asked of the names of fields. `Calls` follows the emission step by step and drops every
line that is no such call.
-/

namespace PacketSmith

/-- The nested messages in a type, at any depth, in order. -/
def WireType.messages (w : WireType) : List WireType := w.walk.filter (·.tag == .message)

/-- The nested messages in a container are those in its parameters. -/
theorem WireType.messages_container {tag : Tag} {name : TypeName} {params : List WireType}
    {id : MessageId} (other : tag ≠ .message) :
    (WireType.mk tag name params id).messages = params.flatMap WireType.messages := by
  have inside : (walkAll params).filter (·.tag == .message) = params.flatMap WireType.messages := by
    induction params with
    | nil => simp [walkAll]
    | cons w ws ih => simp [walkAll, ih, WireType.messages]
  have itself : ((WireType.mk tag name params id).tag == .message) = false :=
    beq_eq_false_iff_ne.mpr other
  rw [WireType.messages, walk, List.filter_cons, itself, inside]
  rfl

/-- The nested messages in the fields of a message, at any depth, in order. -/
def Field.messages (fs : List Field) : List WireType := fs.flatMap (·.type.messages)

namespace Code

open PacketSmith.Script (IsStandard annotation_resolved spell_scalar spell_message spell_resolved
  spell_sequence spell_map)

/-- The id that a statement writes or reads a nested message with, and the type that it is read as.
-/
def Statement.packet? : Statement → Option (MessageId × Option String)
  | writeMessage _ id => some (id, none)
  | readMessage _ id type => some (id, type)
  | _ => none

/-- The calls for nested messages in lines. -/
def packets (ls : List Line) : List (MessageId × Option String) :=
  ls.filterMap (·.statement.packet?)

/-- The emission succeeds with a result, and its lines have the given calls for nested messages. -/
structure Calls {α : Type} (e : Emission α) (ps : List (MessageId × Option String)) (a : α) :
    Prop where
  /-- The result. -/
  result : e.result = .ok a
  /-- The calls. -/
  packets : packets e.lines = ps

namespace Calls

variable {α β : Type}

/-- Two emissions after each other. -/
theorem bind {first : Emit α} {rest : α → Emit β} {n : Nat}
    {ps qs : List (MessageId × Option String)} {a : α} {b : β} (h : Calls (first n) ps a)
    (r : Calls (rest a (first n).next) qs b) :
    Calls ((first >>= rest) n) (ps ++ qs) b := by
  have emission : first n = ⟨(first n).lines, (first n).next, .ok a⟩ := by rw [← h.result]
  rw [Emit.bind_apply, Emit.andThen_of_ok emission]
  refine ⟨r.result, ?_⟩
  rw [Code.packets, List.filterMap_append]
  exact congrArg₂ _ h.packets r.packets

/-- An emission behind one without calls. -/
theorem after {first : Emit α} {rest : α → Emit β} {n : Nat} {qs : List (MessageId × Option String)}
    {a : α} {b : β} (h : Calls (first n) [] a) (r : Calls (rest a (first n).next) qs b) :
    Calls ((first >>= rest) n) qs b :=
  h.bind r

/-- An emission before one without calls. -/
theorem before {first : Emit α} {rest : α → Emit β} {n : Nat}
    {ps : List (MessageId × Option String)} {a : α} {b : β} (h : Calls (first n) ps a)
    (r : Calls (rest a (first n).next) [] b) : Calls ((first >>= rest) n) ps b := by
  have both := h.bind r
  rwa [List.append_nil] at both

/-- A result without lines. -/
theorem pure (a : α) (n : Nat) : Calls ((Pure.pure a : Emit α) n) [] a := ⟨rfl, rfl⟩

/-- Taking a number. -/
theorem fresh (n : Nat) : Calls (Emit.fresh n) [] n := ⟨rfl, rfl⟩

/-- A line. -/
theorem line (depth : Int) (s : Statement) (n : Nat) :
    Calls (Emit.line depth s n) s.packet?.toList () := by
  refine ⟨rfl, ?_⟩
  cases call : s.packet? <;> simp [Code.packets, Emit.line, call]

/-- A result that is there. -/
theorem ofExcept {r : Except Fault α} {a : α} (h : r = .ok a) (n : Nat) :
    Calls (Emit.ofExcept r n) [] a := ⟨h, rfl⟩

/-- A parameter that is there. -/
theorem parameter {items : List α} {i : Nat} {a : α} (h : items[i]? = some a) (n : Nat) :
    Calls (Emit.parameter items i n) [] a :=
  ofExcept (by rw [h]) n

end Calls

/-! ### The code of a type -/

section Types

variable {c : Coder} {ids : TypeName.MessageIds} {w : WireType}

/-- The code that writes a value of a resolved type writes each nested message with its id. -/
theorem calls_write (std : IsStandard c) (h : w.Resolved ids) (e : Expr) (depth : Int) (n : Nat) :
    Calls (c.write w e depth n) (w.messages.map fun v => (v.id, none)) () := by
  induction h generalizing e depth n with
  | @scalar word kind found =>
    unfold Coder.write
    refine (Calls.ofExcept (std _ _ rfl) n).after ?_
    exact Calls.line depth (.writeScalar kind e) _
  | @sequence kind element resolved ih =>
    have parameter : (c.writeAll [element])[0]? = some (c.write element) := by simp [Coder.writeAll]
    rw [WireType.messages_container (by simp), List.flatMap_singleton]
    unfold Coder.write
    refine (Calls.ofExcept (std _ _ rfl) n).after ?_
    refine (Calls.fresh _).after <| (Calls.line depth (.writeSize (.sequence kind) e) _).after <|
      (Calls.line depth (.forElements n e) _).after <| (Calls.parameter parameter _).after ?_
    exact (ih _ _ _).before (Calls.line depth .close _)
  | @map k v key value ihk ihv =>
    have first : (c.writeAll [k, v])[0]? = some (c.write k) := by simp [Coder.writeAll]
    have second : (c.writeAll [k, v])[1]? = some (c.write v) := by simp [Coder.writeAll]
    rw [WireType.messages_container (by simp), List.flatMap_cons, List.flatMap_singleton,
      List.map_append]
    unfold Coder.write
    refine (Calls.ofExcept (std _ _ rfl) n).after ?_
    refine (Calls.fresh _).after <| (Calls.line depth (.writeSize .map e) _).after <|
      (Calls.line depth (.forEntries n e) _).after <| (Calls.parameter first _).after ?_
    refine (ihk _ _ _).bind <| (Calls.parameter second _).after ?_
    exact (ihv _ _ _).before (Calls.line depth .close _)
  | @message head id name other found =>
    unfold Coder.write
    refine (Calls.ofExcept (std _ _ rfl) n).after ?_
    exact Calls.line depth (.writeMessage e id) _

/-- The type that a target reads a nested message as: its name, where the target declares it. -/
def readAs (t : Target) (w : WireType) : Option String :=
  if t.annotates then some w.name.head else none

/-- The spelling of a nested message is its name, so it is declared as that. -/
theorem annotation_message {head : String} {id : MessageId} (name : TypeName.isName head = true)
    (other : TypeName.primitives.lookup head = none) :
    c.annotation (.mk .message (.simple head) [] id) =
      .ok (readAs c.target (.mk .message (.simple head) [] id)) := by
  have spelled : c.spell (.mk .message (.simple head) [] id) = .ok head :=
    spell_message c.target name other
  unfold Coder.annotation readAs
  rw [spelled]
  cases c.target.annotates <;> rfl

/-- The code that reads a value of a resolved type reads each nested message with its id and as its
name. -/
theorem calls_read (std : IsStandard c) (h : w.Resolved ids) (depth : Int) (n : Nat) :
    Calls (c.read w depth n) (w.messages.map fun v => (v.id, readAs c.target v)) (.result n) := by
  induction h generalizing depth n with
  | @scalar word kind found =>
    obtain ⟨s, spelled, -⟩ := spell_scalar c.target found
    obtain ⟨type, annotated, -⟩ :=
      annotation_resolved (w := .mk (.scalar kind) (.simple word) [] .null) spelled
    unfold Coder.read
    refine (Calls.ofExcept (std _ _ rfl) n).after ?_
    refine (Calls.fresh _).after <| (Calls.ofExcept annotated _).after ?_
    exact (Calls.line depth (.readScalar n kind type) _).after (Calls.pure _ _)
  | @sequence kind element resolved ih =>
    have parameter : (c.readAll [element])[0]? = some (c.read element) := by simp [Coder.readAll]
    obtain ⟨s, spelled, -⟩ := spell_resolved c.target resolved
    obtain ⟨head, -, -, whole⟩ := spell_sequence c.target kind spelled
    rw [WireType.messages_container (by simp), List.flatMap_singleton]
    unfold Coder.read
    refine (Calls.ofExcept (std _ _ rfl) n).after ?_
    refine (Calls.fresh _).after <| (Calls.ofExcept whole _).after <|
      (Calls.line depth (.newContainer n _) _).after <| (Calls.line depth (.readSize n) _).after <|
      (Calls.line depth (.forCount n) _).after <| (Calls.parameter parameter _).after ?_
    refine (ih _ _).before <| (Calls.line _ (.addElement n kind _) _).after <|
      (Calls.line depth .close _).after (Calls.pure _ _)
  | @map k v key value ihk ihv =>
    have first : (c.readAll [k, v])[0]? = some (c.read k) := by simp [Coder.readAll]
    have second : (c.readAll [k, v])[1]? = some (c.read v) := by simp [Coder.readAll]
    obtain ⟨a, spelledKey, -⟩ := spell_resolved c.target key
    obtain ⟨b, spelledValue, -⟩ := spell_resolved c.target value
    obtain ⟨head, -, -, whole⟩ := spell_map c.target spelledKey spelledValue
    rw [WireType.messages_container (by simp), List.flatMap_cons, List.flatMap_singleton,
      List.map_append]
    unfold Coder.read
    refine (Calls.ofExcept (std _ _ rfl) n).after ?_
    refine (Calls.fresh _).after <| (Calls.ofExcept whole _).after <|
      (Calls.line depth (.newContainer n _) _).after <| (Calls.line depth (.readSize n) _).after <|
      (Calls.line depth (.forCount n) _).after <| (Calls.parameter first _).after ?_
    refine (ihk _ _).bind <| (Calls.parameter second _).after ?_
    refine (ihv _ _).before <| (Calls.line _ (.addEntry n _ _) _).after <|
      (Calls.line depth .close _).after (Calls.pure _ _)
  | @message head id name other found =>
    unfold Coder.read
    refine (Calls.ofExcept (std _ _ rfl) n).after ?_
    refine (Calls.fresh _).after <| (Calls.ofExcept (annotation_message name other) _).after ?_
    exact (Calls.line depth (.readMessage n id _) _).before (Calls.pure _ _)

/-- The code that writes a nested message is one line. -/
theorem lines_write_message (std : IsStandard c) (name : TypeName) (id : MessageId) (e : Expr)
    (depth : Int) (n : Nat) : (c.write (.mk .message name [] id) e depth n).lines =
      [⟨depth, .writeMessage e id⟩] := by
  have serializer : Emit.ofExcept (c.serializer (.mk .message name [] id)) n =
      ⟨[], n, .ok .message⟩ := by rw [std _ .message rfl]; rfl
  unfold Coder.write Coder.writeWith
  rw [Emit.bind_apply, Emit.andThen_of_ok serializer]
  rfl

/-- The code that reads a nested message is one line. -/
theorem lines_read_message (std : IsStandard c) {head : String} {id : MessageId}
    (name : TypeName.isName head = true) (other : TypeName.primitives.lookup head = none)
    (depth : Int) (n : Nat) : (c.read (.mk .message (.simple head) [] id) depth n).lines =
      [⟨depth, .readMessage n id (readAs c.target (.mk .message (.simple head) [] id))⟩] := by
  have serializer : Emit.ofExcept (c.serializer (.mk .message (.simple head) [] id)) n =
      ⟨[], n, .ok .message⟩ := by rw [std _ .message rfl]; rfl
  unfold Coder.read Coder.readWith
  rw [Emit.bind_apply, Emit.andThen_of_ok serializer, annotation_message name other]
  rfl

end Types

/-! ### The code of fields -/

section Fields

variable {c : Coder} {ids : TypeName.MessageIds} {fs : List Field}

/-- The code that writes fields writes their nested messages. -/
theorem calls_writeFields (std : IsStandard c) (h : ∀ f ∈ fs, f.type.Resolved ids) (n : Nat) :
    Calls (c.writeFields fs n) ((Field.messages fs).map fun v => (v.id, none)) () := by
  induction fs generalizing n with
  | nil => exact Calls.pure () n
  | cons f fs ih =>
    obtain ⟨resolved, others⟩ := List.forall_mem_cons.mp h
    rw [Field.messages, List.flatMap_cons, List.map_append]
    unfold Coder.writeFields
    exact (calls_write std resolved _ _ n).bind (ih others _)

/-- The check before a field calls no nested message. -/
theorem packets_guard (t : Target) (depth : Int) : packets (t.guard depth) = [] := by
  cases t <;> rfl

/-- The code that reads fields reads their nested messages. -/
theorem calls_readFields (std : IsStandard c) (h : ∀ f ∈ fs, f.type.Resolved ids) (tail : Bool)
    (n : Nat) : Calls (c.readFields tail fs n)
      ((Field.messages fs).map fun v => (v.id, readAs c.target v)) () := by
  induction fs generalizing tail n with
  | nil => exact Calls.pure () n
  | cons f fs ih =>
    obtain ⟨resolved, others⟩ := List.forall_mem_cons.mp h
    have field : ∀ k, Calls ((c.read f.type c.target.bodyDepth >>= fun item =>
        Emit.line c.target.bodyDepth (.store (shown f.name) item) >>= fun _ =>
          c.readFields (tail || f.isCompatible) fs) k)
        ((Field.messages (f :: fs)).map fun v => (v.id, readAs c.target v)) () := by
      intro k
      rw [Field.messages, List.flatMap_cons, List.map_append]
      refine (calls_read std resolved _ k).bind ?_
      exact (Calls.line _ (.store _ _) _).after (ih others _ _)
    unfold Coder.readFields
    by_cases compatible : (tail || f.isCompatible) = true
    · have check : Calls (Emit.lines (c.target.guard c.target.bodyDepth) n) [] () :=
        ⟨rfl, packets_guard _ _⟩
      rw [if_pos compatible]
      exact check.after (field _)
    · rw [if_neg compatible]
      exact field n

end Fields

/-- The coder of a prepared target is the target's, with the standard serializers. -/
theorem of_prepare {t : Target} {c : Coder} (h : Generator.prepare t = .ok c) :
    c.target = t ∧ IsStandard c := by
  obtain ⟨prepared, same, target, std⟩ := Script.exists_prepare t
  obtain rfl := Except.ok.inj (h.symm.trans same)
  exact ⟨target, std⟩

end Code

end PacketSmith
