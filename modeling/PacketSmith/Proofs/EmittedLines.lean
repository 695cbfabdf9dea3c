import PacketSmith.Proofs.PacketCalls

/-!
# The lines that are emitted

What the code of a type is, line by line, with the counter before and behind it: `WriteLines` and
`ReadLines` follow the type, one case for each tag. The code of a type that can be spelled is emitted
without a fault and has this form for every expression, depth and counter (`exists_writeLines`,
`exists_readLines`), and so has the code of fields.

The relations give the emission as a whole, so what is claimed about the lines of generated code can
be proved by induction on them, without the steps that emitted the lines.
-/

namespace PacketSmith

/-- What a declaration names as its type, where the target declares values with their types. -/
def Target.annotated (t : Target) (type : String) : Option String :=
  if t.annotates then some type else none

namespace WireType

/-- The type has the parameters of its tag and a spelling, and so have all types inside it. -/
inductive Spelled (t : Target) : WireType → Prop where
  | scalar {kind : Scalar} {name : TypeName} {id : MessageId} {type : String} :
      t.spelling.spell name = .ok type → Spelled t (.mk (.scalar kind) name [] id)
  | sequence {kind : Sequence} {name : TypeName} {e : WireType} {id : MessageId} {type : String} :
      t.spelling.spell name = .ok type → Spelled t e → Spelled t (.mk (.sequence kind) name [e] id)
  | map {name : TypeName} {k v : WireType} {id : MessageId} {type : String} :
      t.spelling.spell name = .ok type → Spelled t k → Spelled t v →
      Spelled t (.mk .map name [k, v] id)
  | message {name : TypeName} {id : MessageId} {type : String} :
      t.spelling.spell name = .ok type → Spelled t (.mk .message name [] id)

theorem Spelled.exists_spell {t : Target} {w : WireType} (h : w.Spelled t) :
    ∃ s, t.spelling.spell w.name = .ok s := by
  cases h <;> exact ⟨_, by assumption⟩

/-- A resolved type can be spelled. -/
theorem Resolved.spelled {ids : TypeName.MessageIds} {w : WireType} (h : w.Resolved ids)
    (t : Target) : w.Spelled t := by
  obtain ⟨type, spelled, -⟩ := Script.spell_resolved t h
  induction h generalizing type with
  | scalar => exact .scalar spelled
  | sequence inside ih =>
    obtain ⟨s, inner, -⟩ := Script.spell_resolved t inside
    exact .sequence spelled (ih s inner)
  | map key value ihk ihv =>
    obtain ⟨a, spelledKey, -⟩ := Script.spell_resolved t key
    obtain ⟨b, spelledValue, -⟩ := Script.spell_resolved t value
    exact .map spelled (ihk a spelledKey) (ihv b spelledValue)
  | message => exact .message spelled

end WireType

/-- The meaning of a name can be spelled, also if the name is not well-formed. -/
theorem TypeName.Means.spelled {ids : TypeName.MessageIds} {name : TypeName} {w : WireType}
    (h : name.Means ids w) (t : Target) : w.Spelled t := by
  induction h with
  | @array p ps e inside ih =>
    obtain ⟨s, spelled⟩ := inside.name_eq ▸ ih.exists_spell
    obtain ⟨head, -, -, filled⟩ := Script.fill_array t s
    have whole : t.spelling.spell (mk arrayHead (p :: ps)) = .ok (head ++ "<" ++ s ++ ">") := by
      unfold Spelling.spell
      rw [if_pos (by decide), Spelling.spellFirst, spelled]
      exact filled
    exact .sequence whole ih
  | list inside ih =>
    obtain ⟨s, spelled⟩ := inside.name_eq ▸ ih.exists_spell
    obtain ⟨head, -, -, whole⟩ := Script.spell_sequence t .list spelled
    exact .sequence whole ih
  | set inside ih =>
    obtain ⟨s, spelled⟩ := inside.name_eq ▸ ih.exists_spell
    obtain ⟨head, -, -, whole⟩ := Script.spell_sequence t .set spelled
    exact .sequence whole ih
  | map key value ihk ihv =>
    obtain ⟨a, spelledKey⟩ := key.name_eq ▸ ihk.exists_spell
    obtain ⟨b, spelledValue⟩ := value.name_eq ▸ ihv.exists_spell
    obtain ⟨head, -, -, whole⟩ := Script.spell_map t spelledKey spelledValue
    exact .map whole ihk ihv
  | scalar plain => exact .scalar (Script.spell_simple _ plain)
  | message plain => exact .message (Script.spell_simple _ plain)

namespace Code

open PacketSmith.Script (IsStandard)

/-! ### The code of a type -/

/-- The lines that write a value of a type, given by an expression, at a depth. The numbers are the
counter before and behind them. -/
inductive WriteLines : WireType → Expr → Int → Nat → List Line → Nat → Prop where
  | scalar {kind : Scalar} {name : TypeName} {id : MessageId} {e : Expr} {depth : Int} {n : Nat} :
      WriteLines (.mk (.scalar kind) name [] id) e depth n [⟨depth, .writeScalar kind e⟩] n
  | sequence {kind : Sequence} {name : TypeName} {element : WireType} {id : MessageId} {e : Expr}
      {depth : Int} {n next : Nat} {body : List Line} :
      WriteLines element (.element n) (depth + 1) (n + 1) body next →
      WriteLines (.mk (.sequence kind) name [element] id) e depth n
        (⟨depth, .writeSize (.sequence kind) e⟩ :: ⟨depth, .forElements n e⟩ ::
          (body ++ [⟨depth, .close⟩])) next
  | map {name : TypeName} {k v : WireType} {id : MessageId} {e : Expr} {depth : Int}
      {n middle next : Nat} {keys values : List Line} :
      WriteLines k (.key n) (depth + 1) (n + 1) keys middle →
      WriteLines v (.value n) (depth + 1) middle values next →
      WriteLines (.mk .map name [k, v] id) e depth n
        (⟨depth, .writeSize .map e⟩ :: ⟨depth, .forEntries n e⟩ ::
          (keys ++ (values ++ [⟨depth, .close⟩]))) next
  | message {name : TypeName} {id : MessageId} {e : Expr} {depth : Int} {n : Nat} :
      WriteLines (.mk .message name [] id) e depth n [⟨depth, .writeMessage e id⟩] n

/-- The lines that read a value of a type into the variable of the first number, at a depth. The
numbers are the counter before and behind them. -/
inductive ReadLines (t : Target) : WireType → Int → Nat → List Line → Nat → Prop where
  | scalar {kind : Scalar} {name : TypeName} {id : MessageId} {type : String} {depth : Int}
      {n : Nat} : t.spelling.spell name = .ok type →
      ReadLines t (.mk (.scalar kind) name [] id) depth n
        [⟨depth, .readScalar n kind (t.annotated type)⟩] (n + 1)
  | sequence {kind : Sequence} {name : TypeName} {element : WireType} {id : MessageId}
      {type : String} {depth : Int} {n next : Nat} {body : List Line} :
      t.spelling.spell name = .ok type →
      ReadLines t element (depth + 1) (n + 1) body next →
      ReadLines t (.mk (.sequence kind) name [element] id) depth n
        (⟨depth, .newContainer n type⟩ :: ⟨depth, .readSize n⟩ :: ⟨depth, .forCount n⟩ ::
          (body ++ [⟨depth + 1, .addElement n kind (.result (n + 1))⟩, ⟨depth, .close⟩])) next
  | map {name : TypeName} {k v : WireType} {id : MessageId} {type : String} {depth : Int}
      {n middle next : Nat} {keys values : List Line} : t.spelling.spell name = .ok type →
      ReadLines t k (depth + 1) (n + 1) keys middle →
      ReadLines t v (depth + 1) middle values next →
      ReadLines t (.mk .map name [k, v] id) depth n
        (⟨depth, .newContainer n type⟩ :: ⟨depth, .readSize n⟩ :: ⟨depth, .forCount n⟩ ::
          (keys ++ (values ++ [⟨depth + 1, .addEntry n (.result (n + 1)) (.result middle)⟩,
            ⟨depth, .close⟩]))) next
  | message {name : TypeName} {id : MessageId} {type : String} {depth : Int} {n : Nat} :
      t.spelling.spell name = .ok type →
      ReadLines t (.mk .message name [] id) depth n
        [⟨depth, .readMessage n id (t.annotated type)⟩] (n + 1)

section Types

variable {c : Coder} {ids : TypeName.MessageIds} {w : WireType}

/-- Two emissions after each other: the second goes on from the counter of the first. -/
theorem Emit.bind_eq {α β : Type} {first : Emit α} {rest : α → Emit β} {n k m : Nat}
    {ls ms : List Line} {a : α} {b : β} (h : first n = ⟨ls, k, .ok a⟩)
    (r : rest a k = ⟨ms, m, .ok b⟩) : (first >>= rest) n = ⟨ls ++ ms, m, .ok b⟩ := by
  rw [Emit.bind_apply, Emit.andThen_of_ok h, r]

/-- An emission behind one without lines. -/
theorem Emit.after_eq {α β : Type} {first : Emit α} {rest : α → Emit β} {n k m : Nat}
    {ms : List Line} {a : α} {b : β} (h : first n = ⟨[], k, .ok a⟩)
    (r : rest a k = ⟨ms, m, .ok b⟩) : (first >>= rest) n = ⟨ms, m, .ok b⟩ :=
  Emit.bind_eq h r

/-- An emission behind a line. -/
theorem Emit.line_eq {α : Type} {depth : Int} {s : Statement} {rest : Unit → Emit α} {n m : Nat}
    {ms : List Line} {a : α} (r : rest () n = ⟨ms, m, .ok a⟩) :
    (Emit.line depth s >>= rest) n = ⟨⟨depth, s⟩ :: ms, m, .ok a⟩ :=
  Emit.bind_eq (Eq.refl (Emit.line depth s n)) r

/-- An emission with the next number. -/
theorem Emit.fresh_eq {α : Type} {rest : Nat → Emit α} {n m : Nat} {ms : List Line} {a : α}
    (r : rest n (n + 1) = ⟨ms, m, .ok a⟩) : (Emit.fresh >>= rest) n = ⟨ms, m, .ok a⟩ :=
  Emit.after_eq (Eq.refl (Emit.fresh n)) r

/-- A result that is there adds no line. -/
theorem Emit.ofExcept_eq {α : Type} {r : Except Fault α} {a : α} (h : r = .ok a) (n : Nat) :
    Emit.ofExcept r n = ⟨[], n, .ok a⟩ := by
  rw [h]
  rfl

/-- A parameter that is there adds no line. -/
theorem Emit.parameter_eq {α : Type} {items : List α} {i : Nat} {a : α} (h : items[i]? = some a)
    (n : Nat) : Emit.parameter items i n = ⟨[], n, .ok a⟩ :=
  Emit.ofExcept_eq (by rw [h]) n

/-- The code that writes a value of a type. -/
theorem exists_writeLines (std : IsStandard c) (h : w.Spelled c.target) (e : Expr) (depth : Int)
    (n : Nat) : ∃ ls next, WriteLines w e depth n ls next ∧
      c.write w e depth n = ⟨ls, next, .ok ()⟩ := by
  induction h generalizing e depth n with
  | scalar =>
    refine ⟨_, _, .scalar, ?_⟩
    unfold Coder.write
    exact Emit.after_eq (Emit.ofExcept_eq (std _ _ rfl) n) rfl
  | @sequence kind name element id type _ _ ih =>
    have parameter : (c.writeAll [element])[0]? = some (c.write element) := by simp [Coder.writeAll]
    obtain ⟨body, next, form, inner⟩ := ih (.element n) (depth + 1) (n + 1)
    refine ⟨_, _, .sequence form, ?_⟩
    unfold Coder.write
    refine Emit.after_eq (Emit.ofExcept_eq (std _ _ rfl) n) ?_
    refine Emit.fresh_eq <| Emit.line_eq <| Emit.line_eq <|
      Emit.after_eq (Emit.parameter_eq parameter _) ?_
    exact Emit.bind_eq inner rfl
  | @map name k v id type _ _ _ ihk ihv =>
    have first : (c.writeAll [k, v])[0]? = some (c.write k) := by simp [Coder.writeAll]
    have second : (c.writeAll [k, v])[1]? = some (c.write v) := by simp [Coder.writeAll]
    obtain ⟨keys, middle, keyForm, innerKey⟩ := ihk (.key n) (depth + 1) (n + 1)
    obtain ⟨values, next, valueForm, innerValue⟩ := ihv (.value n) (depth + 1) middle
    refine ⟨_, _, .map keyForm valueForm, ?_⟩
    unfold Coder.write
    refine Emit.after_eq (Emit.ofExcept_eq (std _ _ rfl) n) ?_
    refine Emit.fresh_eq <| Emit.line_eq <| Emit.line_eq <|
      Emit.after_eq (Emit.parameter_eq first _) ?_
    refine Emit.bind_eq innerKey <| Emit.after_eq (Emit.parameter_eq second _) ?_
    exact Emit.bind_eq innerValue rfl
  | message =>
    refine ⟨_, _, .message, ?_⟩
    unfold Coder.write
    exact Emit.after_eq (Emit.ofExcept_eq (std _ _ rfl) n) rfl

/-- A type that has a spelling is declared by it. -/
theorem annotation_eq {type : String} (h : c.target.spelling.spell w.name = .ok type) :
    c.annotation w = .ok (c.target.annotated type) := by
  unfold Coder.annotation Coder.spell Target.annotated
  rw [h]
  cases c.target.annotates <;> rfl

/-- The code that reads a value of a type. -/
theorem exists_readLines (std : IsStandard c) (h : w.Spelled c.target) (depth : Int) (n : Nat) :
    ∃ ls next, ReadLines c.target w depth n ls next ∧
      c.read w depth n = ⟨ls, next, .ok (.result n)⟩ := by
  induction h generalizing depth n with
  | @scalar kind name id type spelled =>
    have annotated := annotation_eq (w := .mk (.scalar kind) name [] id) spelled
    refine ⟨_, _, .scalar spelled, ?_⟩
    unfold Coder.read
    refine Emit.after_eq (Emit.ofExcept_eq (std _ _ rfl) n) ?_
    exact Emit.fresh_eq <| Emit.after_eq (Emit.ofExcept_eq annotated _) rfl
  | @sequence kind name element id type spelled _ ih =>
    have parameter : (c.readAll [element])[0]? = some (c.read element) := by simp [Coder.readAll]
    obtain ⟨body, next, form, inner⟩ := ih (depth + 1) (n + 1)
    refine ⟨_, _, .sequence spelled form, ?_⟩
    unfold Coder.read
    refine Emit.after_eq (Emit.ofExcept_eq (std _ _ rfl) n) ?_
    refine Emit.fresh_eq <| Emit.after_eq (Emit.ofExcept_eq spelled _) <| Emit.line_eq <|
      Emit.line_eq <| Emit.line_eq <| Emit.after_eq (Emit.parameter_eq parameter _) ?_
    exact Emit.bind_eq inner rfl
  | @map name k v id type spelled _ _ ihk ihv =>
    have first : (c.readAll [k, v])[0]? = some (c.read k) := by simp [Coder.readAll]
    have second : (c.readAll [k, v])[1]? = some (c.read v) := by simp [Coder.readAll]
    obtain ⟨keys, middle, keyForm, innerKey⟩ := ihk (depth + 1) (n + 1)
    obtain ⟨values, next, valueForm, innerValue⟩ := ihv (depth + 1) middle
    refine ⟨_, _, .map spelled keyForm valueForm, ?_⟩
    unfold Coder.read
    refine Emit.after_eq (Emit.ofExcept_eq (std _ _ rfl) n) ?_
    refine Emit.fresh_eq <| Emit.after_eq (Emit.ofExcept_eq spelled _) <| Emit.line_eq <|
      Emit.line_eq <| Emit.line_eq <| Emit.after_eq (Emit.parameter_eq first _) ?_
    refine Emit.bind_eq innerKey <| Emit.after_eq (Emit.parameter_eq second _) ?_
    exact Emit.bind_eq innerValue rfl
  | @message name id type spelled =>
    have annotated := annotation_eq (w := .mk .message name [] id) spelled
    refine ⟨_, _, .message spelled, ?_⟩
    unfold Coder.read
    refine Emit.after_eq (Emit.ofExcept_eq (std _ _ rfl) n) ?_
    exact Emit.fresh_eq <| Emit.after_eq (Emit.ofExcept_eq annotated _) rfl

/-- The code that writes a value of a resolved type. -/
theorem exists_write (std : IsStandard c) (h : w.Resolved ids) (e : Expr) (depth : Int) (n : Nat) :
    ∃ ls next, WriteLines w e depth n ls next ∧ c.write w e depth n = ⟨ls, next, .ok ()⟩ :=
  exists_writeLines std (h.spelled _) e depth n

/-- The code that reads a value of a resolved type. -/
theorem exists_read (std : IsStandard c) (h : w.Resolved ids) (depth : Int) (n : Nat) :
    ∃ ls next, ReadLines c.target w depth n ls next ∧
      c.read w depth n = ⟨ls, next, .ok (.result n)⟩ :=
  exists_readLines std (h.spelled _) depth n

end Types

/-! ### The code of fields -/

/-- The lines that write fields, with the counter before and behind them. -/
inductive WriteFieldLines (t : Target) : List Field → Nat → List Line → Nat → Prop where
  | nil {n : Nat} : WriteFieldLines t [] n [] n
  | cons {f : Field} {fs : List Field} {n middle next : Nat} {ls ms : List Line} :
      WriteLines f.type (.field (shown f.name)) t.bodyDepth n ls middle →
      WriteFieldLines t fs middle ms next → WriteFieldLines t (f :: fs) n (ls ++ ms) next

/-- The check that stands before a field: none, unless the field or one before it is compatible. -/
def Target.checkLines (t : Target) (tail : Bool) : List Line :=
  if tail then t.guard t.bodyDepth else []

/-- The lines that read fields, with the counter before and behind them. -/
inductive ReadFieldLines (t : Target) : Bool → List Field → Nat → List Line → Nat → Prop where
  | nil {tail : Bool} {n : Nat} : ReadFieldLines t tail [] n [] n
  | cons {tail : Bool} {f : Field} {fs : List Field} {n middle next : Nat} {ls ms : List Line} :
      ReadLines t f.type t.bodyDepth n ls middle →
      ReadFieldLines t (tail || f.isCompatible) fs middle ms next →
      ReadFieldLines t tail (f :: fs) n
        (Target.checkLines t (tail || f.isCompatible) ++
          (ls ++ (⟨t.bodyDepth, .store (shown f.name) (.result n)⟩ :: ms))) next

section Fields

variable {c : Coder} {ids : TypeName.MessageIds} {fs : List Field}

/-- The code that writes fields. -/
theorem exists_writeFieldLines (std : IsStandard c) (h : ∀ f ∈ fs, f.type.Spelled c.target)
    (n : Nat) : ∃ ls next, WriteFieldLines c.target fs n ls next ∧
      c.writeFields fs n = ⟨ls, next, .ok ()⟩ := by
  induction fs generalizing n with
  | nil => exact ⟨_, _, .nil, rfl⟩
  | cons f fs ih =>
    obtain ⟨spelled, others⟩ := List.forall_mem_cons.mp h
    obtain ⟨ls, middle, form, written⟩ :=
      exists_writeLines std spelled (.field (shown f.name)) c.target.bodyDepth n
    obtain ⟨ms, next, rest, emitted⟩ := ih others middle
    exact ⟨_, _, .cons form rest, Emit.bind_eq written emitted⟩

/-- The code that reads fields. -/
theorem exists_readFieldLines (std : IsStandard c) (h : ∀ f ∈ fs, f.type.Spelled c.target)
    (tail : Bool) (n : Nat) : ∃ ls next, ReadFieldLines c.target tail fs n ls next ∧
      c.readFields tail fs n = ⟨ls, next, .ok ()⟩ := by
  induction fs generalizing tail n with
  | nil => exact ⟨_, _, .nil, rfl⟩
  | cons f fs ih =>
    obtain ⟨spelled, others⟩ := List.forall_mem_cons.mp h
    obtain ⟨ls, middle, form, read⟩ := exists_readLines std spelled c.target.bodyDepth n
    obtain ⟨ms, next, rest, emitted⟩ := ih others (tail || f.isCompatible) middle
    refine ⟨_, _, .cons form rest, ?_⟩
    unfold Coder.readFields Target.checkLines
    by_cases checked : (tail || f.isCompatible) = true
    · rw [if_pos checked, if_pos checked]
      exact Emit.bind_eq (Eq.refl (Emit.lines _ _)) <| Emit.bind_eq read <| Emit.line_eq emitted
    · rw [if_neg checked, if_neg checked, List.nil_append]
      exact Emit.bind_eq read <| Emit.line_eq emitted

/-- The code that writes fields of resolved types. -/
theorem exists_writeFields (std : IsStandard c) (h : ∀ f ∈ fs, f.type.Resolved ids) (n : Nat) :
    ∃ ls next, WriteFieldLines c.target fs n ls next ∧
      c.writeFields fs n = ⟨ls, next, .ok ()⟩ :=
  exists_writeFieldLines std (fun f mem => (h f mem).spelled _) n

/-- The code that reads fields of resolved types. -/
theorem exists_readFields (std : IsStandard c) (h : ∀ f ∈ fs, f.type.Resolved ids) (tail : Bool)
    (n : Nat) : ∃ ls next, ReadFieldLines c.target tail fs n ls next ∧
      c.readFields tail fs n = ⟨ls, next, .ok ()⟩ :=
  exists_readFieldLines std (fun f mem => (h f mem).spelled _) tail n

end Fields

end Code

end PacketSmith
