import PacketSmith.Generator
import PacketSmith.Proofs.Script.TypeText

/-!
# The code of a type

What a serializer emits for a resolved type is read back as code of a fixed form. `WriteCode` and
`ReadCode` give the form, one rule for each kind of type, and `emits_write` and `emits_read` say
that emission succeeds and that the text of its lines is that code. `WriteFields` and `ReadFields`
do the same for the fields of a message, where reading has a check before each field of the
compatible tail.

`bodies` are the texts of the two functions of a message, and `ofText?_bodies` puts all of it
together: both texts exist and are read as the code of the fields.
-/

namespace PacketSmith.Script

open PacketSmith.Code
open PacketSmith.TypeName (isName)

/-! ### Pieces of code -/

mutual

/-- The pieces that code is nested from. -/
def Code.pieces : Code → List Piece
  | .plain i => [.plain i]
  | .block h body => .opening h :: (piecesAll body ++ [.closing])

/-- The pieces of code, one after the other. -/
def piecesAll : List Code → List Piece
  | [] => []
  | c :: cs => c.pieces ++ piecesAll cs

end

@[simp] theorem piecesAll_nil : piecesAll [] = [] := by rw [piecesAll]

@[simp] theorem piecesAll_cons (c : Code) (cs : List Code) :
    piecesAll (c :: cs) = c.pieces ++ piecesAll cs := by rw [piecesAll]

@[simp] theorem pieces_plain (i : Instruction) : (Code.plain i).pieces = [.plain i] := by
  rw [Code.pieces]

@[simp] theorem pieces_block (h : Header) (body : List Code) :
    (Code.block h body).pieces = .opening h :: (piecesAll body ++ [.closing]) := by
  rw [Code.pieces]

/-- The pieces of code follow those of the code before. -/
@[simp] theorem piecesAll_append (cs ds : List Code) :
    piecesAll (cs ++ ds) = piecesAll cs ++ piecesAll ds := by
  induction cs with
  | nil => simp
  | cons c cs ih => simp [ih]

mutual

/-- The pieces of a piece of code are nested to that code. -/
theorem nestFrom?_pieces (done : List Code) (outer : List (Header × List Code)) (ps : List Piece) :
    ∀ c : Code, nestFrom? done outer (c.pieces ++ ps) = nestFrom? (c :: done) outer ps
  | .plain i => by rw [pieces_plain, List.singleton_append, nestFrom?]
  | .block h body => by
    rw [pieces_block, List.cons_append, nestFrom?, List.append_assoc, List.singleton_append,
      nestFrom?_piecesAll [] ((h, done) :: outer) (.closing :: ps) body, nestFrom?]
    simp

/-- The pieces of code are nested to that code. -/
theorem nestFrom?_piecesAll (done : List Code) (outer : List (Header × List Code))
    (ps : List Piece) : ∀ cs : List Code,
      nestFrom? done outer (piecesAll cs ++ ps) = nestFrom? (cs.reverse ++ done) outer ps
  | [] => by simp
  | c :: cs => by
    rw [piecesAll_cons, List.append_assoc, nestFrom?_pieces done outer (piecesAll cs ++ ps) c,
      nestFrom?_piecesAll (c :: done) outer ps cs]
    simp

end

/-- Code is nested from its pieces. -/
theorem nest?_piecesAll (cs : List Code) : nest? (piecesAll cs) = some cs := by
  have nested := nestFrom?_piecesAll [] [] [] cs
  rw [List.append_nil, List.append_nil] at nested
  rw [nest?, nested, nestFrom?]
  simp

/-! ### Emissions -/

/-- The lexemes of lines. -/
def lexemesOf (t : Target) (ls : List Line) : List Lexeme :=
  ls.flatMap fun l => lexemes (t.statement l.statement)

/-- The emission succeeds with a result and a counter, and its lines say the pieces. -/
structure Emits (t : Target) {α : Type} (e : Emission α) (ps : List Piece) (next : Nat) (a : α) :
    Prop where
  /-- The result. -/
  result : e.result = .ok a
  /-- The counter behind it. -/
  next : e.next = next
  /-- What the lines say. -/
  meaning : Says t (lexemesOf t e.lines) ps

namespace Emits

variable {t : Target} {α β : Type}

/-- Two emissions after each other. -/
theorem bind {first : Emit α} {rest : α → Emit β} {n k m : Nat} {ps qs : List Piece} {a : α} {b : β}
    (h : Emits t (first n) ps k a) (r : Emits t (rest a k) qs m b) :
    Emits t ((first >>= rest) n) (ps ++ qs) m b := by
  have emission : first n = ⟨(first n).lines, k, .ok a⟩ := by rw [← h.result, ← h.next]
  rw [Emit.bind_apply, Emit.andThen_of_ok emission]
  refine ⟨r.result, r.next, ?_⟩
  have both := h.meaning.append r.meaning
  rwa [lexemesOf, lexemesOf, ← List.flatMap_append] at both

/-- An emission behind one without lines. -/
theorem after {first : Emit α} {rest : α → Emit β} {n k m : Nat} {qs : List Piece} {a : α} {b : β}
    (h : Emits t (first n) [] k a) (r : Emits t (rest a k) qs m b) :
    Emits t ((first >>= rest) n) qs m b :=
  h.bind r

/-- A result without lines. -/
theorem pure (a : α) (n : Nat) : Emits t ((Pure.pure a : Emit α) n) [] n a :=
  ⟨rfl, rfl, Says.nil t⟩

/-- Taking a number. -/
theorem fresh (n : Nat) : Emits t (Emit.fresh n) [] (n + 1) n :=
  ⟨rfl, rfl, Says.nil t⟩

/-- A line. -/
theorem line {s : Statement} {ps : List Piece} (h : Says t (lexemes (t.statement s)) ps)
    (depth : Int) (n : Nat) : Emits t (Emit.line depth s n) ps n () := by
  refine ⟨rfl, rfl, ?_⟩
  rw [lexemesOf, Emit.line, List.flatMap_cons, List.flatMap_nil, List.append_nil]
  exact h

/-- A result that is there. -/
theorem ofExcept {r : Except Fault α} {a : α} (h : r = .ok a) (n : Nat) :
    Emits t (Emit.ofExcept r n) [] n a :=
  ⟨h, rfl, Says.nil t⟩

/-- A parameter that is there. -/
theorem parameter {items : List α} {i : Nat} {a : α} (h : items[i]? = some a) (n : Nat) :
    Emits t (Emit.parameter items i n) [] n a :=
  ofExcept (by rw [h]) n

/-- The same pieces may be put together in another way. -/
theorem congr {e : Emission α} {ps qs : List Piece} {next : Nat} {a : α} (h : Emits t e ps next a)
    (same : ps = qs) : Emits t e qs next a :=
  same ▸ h

/-- The text of the lines is the code of the pieces. -/
theorem ofText? {e : Emission α} {code : List Code} {next : Nat} {a : α}
    (h : Emits t e (piecesAll code) next a) : Code.ofText? t (t.fragment e.lines) = some code := by
  rw [Code.ofText?, lexemes_fragment]
  have pieces := h.meaning.pieces
  rw [lexemesOf] at pieces
  rw [pieces]
  exact nest?_piecesAll code

end Emits

/-! ### The standard coder -/

/-- The coder has the serializers of all standard tags. -/
def IsStandard (c : Coder) : Prop :=
  ∀ (w : WireType) (s : Serializer), Serializer.ofTag? w.tag = some s → c.serializer w = .ok s

/-- The table of a target assigns the standard serializers. -/
theorem lookup_standard {tag : Tag} {s : Serializer} (h : Serializer.ofTag? tag = some s) :
    Serializer.standard.reverse.lookup tag = some s := by
  cases tag with
  | scalar k => cases h; cases k <;> rfl
  | sequence k => cases h; cases k <;> rfl
  | map => cases h; rfl
  | message => cases h; rfl
  | custom name => cases h

/-- Every target can be prepared, and its coder is standard. -/
theorem exists_prepare (t : Target) :
    ∃ c, Generator.prepare t = .ok c ∧ c.target = t ∧ IsStandard c := by
  have succeeds : (Generator.prepare t).isOk = true := by cases t <;> decide +kernel
  have table : Table.complete t.name Serializer.standard =
      .ok ⟨t.name, Serializer.standard.reverse, true⟩ := rfl
  cases prepared : Generator.prepare t with
  | error fault => rw [prepared] at succeeds; cases succeeds
  | ok c =>
    refine ⟨c, rfl, ?_⟩
    unfold Generator.prepare at prepared
    obtain ⟨found, same, prepared⟩ := exists_of_bind_eq_ok prepared
    obtain ⟨-, -, prepared⟩ := exists_of_bind_eq_ok prepared
    obtain ⟨-, -, prepared⟩ := exists_of_bind_eq_ok prepared
    cases prepared
    obtain rfl : _ = found := Except.ok.inj (table.symm.trans same)
    refine ⟨rfl, fun w s standard => ?_⟩
    simp [Coder.serializer, Table.lookup, Table.find?, lookup_standard standard]

/-! ### The code of a type -/

/-- The code that writes the value of an operand of a resolved type. The numbers are the counter
before and behind it. -/
inductive WriteCode (t : Target) : WireType → Operand → Nat → List Code → Nat → Prop where
  | scalar {k : Scalar} {name : TypeName} {id : MessageId} {o : Operand} {n : Nat} :
      WriteCode t (.mk (.scalar k) name [] id) o n [.plain (.write k o)] n
  | sequence {k : Sequence} {name : TypeName} {e : WireType} {id : MessageId} {o : Operand}
      {n next : Nat} {body : List Code} :
      WriteCode t e (.temp (numbered "element" n)) (n + 1) body next →
      WriteCode t (.mk (.sequence k) name [e] id) o n
        [.plain (.writeSize (measureOf t (.sequence k)) o),
          .block (.forEach (numbered "element" n) o) body] next
  | map {name : TypeName} {k v : WireType} {id : MessageId} {o : Operand} {n mid next : Nat}
      {keyCode valueCode : List Code} :
      WriteCode t k (.temp (numbered "key" n)) (n + 1) keyCode mid →
      WriteCode t v (.temp (numbered "value" n)) mid valueCode next →
      WriteCode t (.mk .map name [k, v] id) o n
        [.plain (.writeSize (measureOf t .map) o),
          .block (.forPairs (numbered "key" n) (numbered "value" n) o) (keyCode ++ valueCode)] next
  | message {name : TypeName} {id : MessageId} {o : Operand} {n : Nat} :
      WriteCode t (.mk .message name [] id) o n [.plain (.writePacket o id.text)] n

section Emission

variable {c : Coder} {ids : TypeName.MessageIds} {w : WireType}

/-- The code that writes a value of a resolved type is emitted. -/
theorem emits_write (std : IsStandard c) (h : w.Resolved ids) {e : Expr} (plain : isPlain e = true)
    (depth : Int) (n : Nat) : ∃ code next, WriteCode c.target w (operandOf e) n code next ∧
      Emits c.target (c.write w e depth n) (piecesAll code) next () := by
  induction h generalizing e depth n with
  | @scalar word kind =>
    refine ⟨_, _, .scalar, ?_⟩
    unfold Coder.write
    refine (Emits.ofExcept (std _ _ rfl) n).after ?_
    exact (Emits.line (says_writeScalar c.target kind plain) depth n).congr (by simp)
  | @sequence kind element _ ih =>
    obtain ⟨body, next, form, inner⟩ :=
      ih (e := .element n) rfl (depth + 1) (n + 1)
    refine ⟨_, _, .sequence form, ?_⟩
    unfold Coder.write
    refine (Emits.ofExcept (std _ _ rfl) n).after ?_
    have parameter : (c.writeAll [element])[0]? = some (c.write element) := by simp [Coder.writeAll]
    refine Emits.congr (Emits.bind (Emits.fresh n) <|
      Emits.bind (Emits.line (says_writeSize c.target (.sequence kind) plain) depth (n + 1)) <|
      Emits.bind (Emits.line (says_forElements c.target n plain) depth (n + 1)) <|
      Emits.bind (Emits.parameter parameter (n + 1)) <|
      Emits.bind inner (Emits.line (says_close c.target) depth next)) ?_
    simp
  | @map k v _ _ ihk ihv =>
    obtain ⟨keyCode, mid, keyForm, key⟩ := ihk (e := .key n) rfl (depth + 1) (n + 1)
    obtain ⟨valueCode, next, valueForm, value⟩ := ihv (e := .value n) rfl (depth + 1) mid
    refine ⟨_, _, .map keyForm valueForm, ?_⟩
    unfold Coder.write
    refine (Emits.ofExcept (std _ _ rfl) n).after ?_
    have first : (c.writeAll [k, v])[0]? = some (c.write k) := by simp [Coder.writeAll]
    have second : (c.writeAll [k, v])[1]? = some (c.write v) := by simp [Coder.writeAll]
    refine Emits.congr (Emits.bind (Emits.fresh n) <|
      Emits.bind (Emits.line (says_writeSize c.target .map plain) depth (n + 1)) <|
      Emits.bind (Emits.line (says_forEntries c.target n plain) depth (n + 1)) <|
      Emits.bind (Emits.parameter first (n + 1)) <| Emits.bind key <|
      Emits.bind (Emits.parameter second mid) <| Emits.bind value <|
      Emits.line (says_close c.target) depth next) ?_
    simp
  | @message head id _ _ _ =>
    refine ⟨_, _, .message, ?_⟩
    unfold Coder.write
    refine (Emits.ofExcept (std _ _ rfl) n).after ?_
    exact (Emits.line (says_writeMessage c.target id plain) depth n).congr (by simp)

/-- A resolved type has the spelling that its declaration needs. -/
theorem annotation_resolved {s : String} (h : c.target.spelling.spell w.name = .ok s) :
    ∃ type, c.annotation w = .ok type ∧ (c.target.annotates = true → type = some s) := by
  unfold Coder.annotation Coder.spell
  rw [h]
  by_cases annotates : c.target.annotates = true
  · exact ⟨some s, by rw [if_pos annotates]; rfl, fun _ => rfl⟩
  · exact ⟨none, by rw [if_neg annotates]; rfl, fun yes => absurd yes annotates⟩

end Emission

/-- The code that reads a value of a resolved type into the variable of the first number. The
numbers are the counter before and behind it. -/
inductive ReadCode (t : Target) : WireType → Nat → List Code → Nat → Prop where
  | scalar {k : Scalar} {name : TypeName} {id : MessageId} {n : Nat} :
      ReadCode t (.mk (.scalar k) name [] id) n [.plain (.read (numbered "result" n) k)] (n + 1)
  | sequence {k : Sequence} {name : TypeName} {e : WireType} {id : MessageId} {n next : Nat}
      {body : List Code} :
      ReadCode t e (n + 1) body next →
      ReadCode t (.mk (.sequence k) name [e] id) n
        [.plain (.create (numbered "result" n) (collectionOf k)),
          .plain (.read (numbered "size" n) .int),
          .block (.forCount (numbered "index" n) (numbered "size" n))
            (body ++ [.plain (insertionOf k (numbered "result" n) (numbered "result" (n + 1)))])]
        next
  | map {name : TypeName} {k v : WireType} {id : MessageId} {n mid next : Nat}
      {keyCode valueCode : List Code} :
      ReadCode t k (n + 1) keyCode mid → ReadCode t v mid valueCode next →
      ReadCode t (.mk .map name [k, v] id) n
        [.plain (.create (numbered "result" n) .map),
          .plain (.read (numbered "size" n) .int),
          .block (.forCount (numbered "index" n) (numbered "size" n))
            (keyCode ++ (valueCode ++ [.plain (entryOf t (numbered "result" n)
              (numbered "result" (n + 1)) (numbered "result" mid))]))]
        next
  | message {name : TypeName} {id : MessageId} {n : Nat} :
      ReadCode t (.mk .message name [] id) n
        [.plain (.readPacket (numbered "result" n) id.text)] (n + 1)

section Emission

variable {c : Coder} {ids : TypeName.MessageIds} {w : WireType}

/-- The code that reads a value of a resolved type is emitted, and gives its first variable. -/
theorem emits_read (std : IsStandard c) (h : w.Resolved ids) (depth : Int) (n : Nat) :
    ∃ code next, ReadCode c.target w n code next ∧
      Emits c.target (c.read w depth n) (piecesAll code) next (.result n) := by
  induction h generalizing depth n with
  | @scalar word kind found =>
    obtain ⟨s, spelled, isType⟩ := spell_scalar c.target found
    obtain ⟨type, annotated, given⟩ :=
      annotation_resolved (w := .mk (.scalar kind) (.simple word) [] .null) spelled
    refine ⟨_, _, .scalar, ?_⟩
    unfold Coder.read
    refine (Emits.ofExcept (std _ _ rfl) n).after ?_
    have line := says_readScalar c.target n kind type fun yes => ⟨s, given yes, isType⟩
    refine Emits.congr (Emits.bind (Emits.fresh n) <|
      Emits.bind (Emits.ofExcept annotated (n + 1)) <|
      Emits.bind (Emits.line line depth (n + 1)) (Emits.pure _ (n + 1))) ?_
    simp
  | @sequence kind element resolved ih =>
    obtain ⟨body, next, form, inner⟩ := ih (depth + 1) (n + 1)
    obtain ⟨s, spelled, text⟩ := spell_resolved c.target resolved
    obtain ⟨head, segment, collection, whole⟩ := spell_sequence c.target kind spelled
    refine ⟨_, _, .sequence form, ?_⟩
    unfold Coder.read
    refine (Emits.ofExcept (std _ _ rfl) n).after ?_
    have parameter : (c.readAll [element])[0]? = some (c.read element) := by simp [Coder.readAll]
    have declares := declaresCollection_applied segment collection text
    refine Emits.congr (Emits.bind (Emits.fresh n) <|
      Emits.bind (Emits.ofExcept whole (n + 1)) <|
      Emits.bind (Emits.line (says_newContainer c.target n declares) depth (n + 1)) <|
      Emits.bind (Emits.line (says_readSize c.target n) depth (n + 1)) <|
      Emits.bind (Emits.line (says_forCount c.target n) depth (n + 1)) <|
      Emits.bind (Emits.parameter parameter (n + 1)) <|
      Emits.bind inner <|
      Emits.bind (Emits.line (says_addElement c.target n kind (n + 1)) (depth + 1) next) <|
      Emits.bind (Emits.line (says_close c.target) depth next) (Emits.pure _ next)) ?_
    simp
  | @map k v keyResolved valueResolved ihk ihv =>
    obtain ⟨keyCode, mid, keyForm, key⟩ := ihk (depth + 1) (n + 1)
    obtain ⟨valueCode, next, valueForm, value⟩ := ihv (depth + 1) mid
    obtain ⟨a, spelledKey, keyText⟩ := spell_resolved c.target keyResolved
    obtain ⟨b, spelledValue, valueText⟩ := spell_resolved c.target valueResolved
    obtain ⟨head, segment, collection, whole⟩ := spell_map c.target spelledKey spelledValue
    refine ⟨_, _, .map keyForm valueForm, ?_⟩
    unfold Coder.read
    refine (Emits.ofExcept (std _ _ rfl) n).after ?_
    have first : (c.readAll [k, v])[0]? = some (c.read k) := by simp [Coder.readAll]
    have second : (c.readAll [k, v])[1]? = some (c.read v) := by simp [Coder.readAll]
    have declares := declaresCollection_applied segment collection (keyText.pair valueText)
    refine Emits.congr (Emits.bind (Emits.fresh n) <|
      Emits.bind (Emits.ofExcept whole (n + 1)) <|
      Emits.bind (Emits.line (says_newContainer c.target n declares) depth (n + 1)) <|
      Emits.bind (Emits.line (says_readSize c.target n) depth (n + 1)) <|
      Emits.bind (Emits.line (says_forCount c.target n) depth (n + 1)) <|
      Emits.bind (Emits.parameter first (n + 1)) <| Emits.bind key <|
      Emits.bind (Emits.parameter second mid) <| Emits.bind value <|
      Emits.bind (Emits.line (says_addEntry c.target n (n + 1) mid) (depth + 1) next) <|
      Emits.bind (Emits.line (says_close c.target) depth next) (Emits.pure _ next)) ?_
    simp
  | @message head id name other found =>
    have spelled := spell_message c.target name other
    obtain ⟨type, annotated, given⟩ :=
      annotation_resolved (w := .mk .message (.simple head) [] id) spelled
    refine ⟨_, _, .message, ?_⟩
    unfold Coder.read
    refine (Emits.ofExcept (std _ _ rfl) n).after ?_
    have line := says_readMessage c.target n id type fun yes =>
      ⟨head, given yes, isSegment_of_isName name⟩
    refine Emits.congr (Emits.bind (Emits.fresh n) <|
      Emits.bind (Emits.ofExcept annotated (n + 1)) <|
      Emits.bind (Emits.line line depth (n + 1)) (Emits.pure _ (n + 1))) ?_
    simp

end Emission

/-! ### The code of fields -/

/-- The field has a type that a text gives, and its name can stand in generated code. -/
structure IsUsable (ids : TypeName.MessageIds) (f : Field) : Prop where
  /-- A text gives the type. -/
  type : ∃ text, typeOfText ids text = .ok f.type
  /-- The name is a name. -/
  name : isName (shown f.name) = true

/-- The code that writes fields, with the counter before and behind it. -/
inductive WriteFields (t : Target) : List Field → Nat → List Code → Nat → Prop where
  | nil {n : Nat} : WriteFields t [] n [] n
  | cons {f : Field} {fs : List Field} {n mid next : Nat} {code rest : List Code} :
      WriteCode t f.type (.field (shown f.name)) n code mid → WriteFields t fs mid rest next →
      WriteFields t (f :: fs) n (code ++ rest) next

/-- The check before a field, if it has one. -/
def guardCode (tail : Bool) : List Code :=
  if tail then [.block .ifUnreadable [.plain .finish]] else []

/-- The code that reads fields, with the counter before and behind it; the truth value says that a
compatible field came before. -/
inductive ReadFields (t : Target) : Bool → List Field → Nat → List Code → Nat → Prop where
  | nil {tail : Bool} {n : Nat} : ReadFields t tail [] n [] n
  | cons {tail : Bool} {f : Field} {fs : List Field} {n mid next : Nat} {code rest : List Code} :
      ReadCode t f.type n code mid → ReadFields t (tail || f.isCompatible) fs mid rest next →
      ReadFields t tail (f :: fs) n
        (guardCode (tail || f.isCompatible) ++
          (code ++ .plain (.store (shown f.name) (numbered "result" n)) :: rest)) next

section Emission

variable {c : Coder} {ids : TypeName.MessageIds} {fs : List Field}

/-- The code that writes fields is emitted. -/
theorem emits_writeFields (std : IsStandard c) (h : ∀ f ∈ fs, IsUsable ids f) (n : Nat) :
    ∃ code next, WriteFields c.target fs n code next ∧
      Emits c.target (c.writeFields fs n) (piecesAll code) next () := by
  induction fs generalizing n with
  | nil => exact ⟨[], n, .nil, (Emits.pure () n).congr piecesAll_nil.symm⟩
  | cons f fs ih =>
    obtain ⟨⟨⟨text, type⟩, name⟩, others⟩ := List.forall_mem_cons.mp h
    obtain ⟨code, mid, form, emitted⟩ := emits_write std (resolved_of_typeOfText type)
      (e := .field (shown f.name)) name c.target.bodyDepth n
    obtain ⟨rest, next, restForm, restEmitted⟩ := ih others mid
    refine ⟨_, _, .cons form restForm, ?_⟩
    rw [piecesAll_append]
    exact emitted.bind restEmitted

/-- The check before a field is emitted if the field has one. -/
theorem emits_guarded {t : Target} {rest : Emit Unit} {ps : List Piece} {n next : Nat}
    (h : Emits t (rest n) ps next ()) (tail : Bool) (depth : Int) :
    Emits t ((if tail then Emit.lines (t.guard depth) >>= fun _ => rest else rest) n)
      (piecesAll (guardCode tail) ++ ps) next () := by
  cases tail with
  | false => simpa [guardCode] using h
  | true =>
    have pieces : piecesAll (guardCode true) =
        [.opening .ifUnreadable, .plain .finish, .closing] := by simp [guardCode]
    have check : Emits t (Emit.lines (t.guard depth) n) (piecesAll (guardCode true)) n () :=
      ⟨rfl, rfl, pieces ▸ says_guard t depth⟩
    exact check.bind h

/-- The code that reads fields is emitted. -/
theorem emits_readFields (std : IsStandard c) (h : ∀ f ∈ fs, IsUsable ids f) (tail : Bool)
    (n : Nat) : ∃ code next, ReadFields c.target tail fs n code next ∧
      Emits c.target (c.readFields tail fs n) (piecesAll code) next () := by
  induction fs generalizing tail n with
  | nil => exact ⟨[], n, .nil, (Emits.pure () n).congr piecesAll_nil.symm⟩
  | cons f fs ih =>
    obtain ⟨⟨⟨text, type⟩, name⟩, others⟩ := List.forall_mem_cons.mp h
    obtain ⟨code, mid, form, emitted⟩ := emits_read std (resolved_of_typeOfText type)
      c.target.bodyDepth n
    obtain ⟨rest, next, restForm, restEmitted⟩ := ih others (tail || f.isCompatible) mid
    refine ⟨_, _, .cons form restForm, ?_⟩
    unfold Coder.readFields
    refine Emits.congr (emits_guarded (Emits.bind emitted <|
      Emits.bind (Emits.line (says_store c.target name n) c.target.bodyDepth mid) restEmitted)
      (tail || f.isCompatible) c.target.bodyDepth) ?_
    simp

/-- The texts of the functions that write and read the fields of a message, as its file has them
(`bodies_of_messageParts`): the numbers of the variables go on from the one to the other. -/
def bodies (c : Coder) (fs : List Field) : Except Fault (String × String) := do
  let written := c.writeFields fs 0
  written.result
  let read := c.readFields false fs written.next
  read.result
  return (c.target.fragment written.lines, c.target.fragment read.lines)

/-- The bodies exist if the code of both functions is emitted. -/
theorem bodies_eq (written : (c.writeFields fs 0).result = .ok ())
    (read : (c.readFields false fs (c.writeFields fs 0).next).result = .ok ()) :
    bodies c fs = .ok (c.target.fragment (c.writeFields fs 0).lines,
      c.target.fragment (c.readFields false fs (c.writeFields fs 0).next).lines) := by
  simp only [bodies, written, read]
  rfl

/-- The file of a message has the bodies of its fields. -/
theorem bodies_of_messageParts {x : OutputContext} {r : Registry} {m : Message} {p : MessageParts}
    (h : x.messageParts r m = .ok p) :
    bodies x.coder m.fields = .ok (p.writeBody, p.readBody) := by
  unfold OutputContext.messageParts at h
  obtain ⟨dependencies, -, h⟩ := exists_of_bind_eq_ok h
  obtain ⟨declared, -, h⟩ := exists_of_bind_eq_ok h
  obtain ⟨_, written, h⟩ := exists_of_bind_eq_ok h
  obtain ⟨_, read, h⟩ := exists_of_bind_eq_ok h
  cases h
  exact bodies_eq written read

/-- The bodies of usable fields exist, and are read as the code of the fields. -/
theorem ofText?_bodies (std : IsStandard c) (h : ∀ f ∈ fs, IsUsable ids f) :
    ∃ write read writeCode readCode n next, bodies c fs = .ok (write, read) ∧
      Code.ofText? c.target write = some writeCode ∧ WriteFields c.target fs 0 writeCode n ∧
      Code.ofText? c.target read = some readCode ∧
      ReadFields c.target false fs n readCode next := by
  obtain ⟨writeCode, n, writeForm, written⟩ := emits_writeFields std h 0
  obtain ⟨readCode, next, readForm, read⟩ := emits_readFields std h false n
  rw [← written.next] at read
  exact ⟨_, _, writeCode, readCode, n, next, bodies_eq written.result read.result, written.ofText?,
    writeForm, read.ofText?, readForm⟩

end Emission

/-! ### Fields to try -/

namespace Sample

/-- One other message that fields can hold. -/
def ids : TypeName.MessageIds := [("Item", .number (-5))]

/-- The type `Set<Item>`. -/
def itemSet : WireType :=
  .mk (.sequence .set) (.mk "Set" [.simple "Item"])
    [.mk .message (.simple "Item") [] (.number (-5))] .null

/-- A field of type `Map<Integer, Set<Item>>`. -/
def places : Field where
  name := some "places"
  type := .mk .map (.mk "Map" [.simple "Integer", itemSet.name])
    [.mk (.scalar .int) (.simple "Integer") [] .null, itemSet] .null

/-- A field of type `String[]`, which older messages may lack. -/
def tags (compatible : Bool) : Field where
  name := some "tags"
  type := .mk (.sequence .array) (.array (.simple "String"))
    [.mk (.scalar .string) (.simple "String") [] .null] .null
  compatible := some compatible

theorem usable_places : IsUsable ids places :=
  ⟨⟨"Map<Integer, Set<Item>>", by cbv⟩, by decide⟩

theorem usable_tags (compatible : Bool) : IsUsable ids (tags compatible) :=
  ⟨⟨"String[]", by cbv⟩, (by decide : isName "tags" = true)⟩

/-- Both fields can be used. -/
theorem usable (compatible : Bool) : ∀ f ∈ [places] ++ [tags compatible], IsUsable ids f := by
  simp [usable_places, usable_tags]

end Sample

end PacketSmith.Script
