import PacketSmith.Proofs.Script.Emission

/-!
# One wire format for all generated code

The tokens that travel for a value have a form that its type alone determines (`shapeOf`): a
scalar is one token of its kind, a sequence is a size and a loop over its element, a map is a size
and a loop over its key and then its value, and a nested message is one token with its id.

Code has a form too, once its variables are left out (`shapeAll`). Writing and reading code of a
type have the form of the type in both targets (`shapeAll_writeCode`, `shapeAll_readCode`), so
everything that is generated for a message agrees on what travels (`exists_shape_of_fragments`).
-/

namespace PacketSmith.Script

open PacketSmith.Code

/-! ### Forms -/

/-- What travels, without the values. -/
inductive Shape where
  /-- One token of a scalar. -/
  | scalar (kind : Scalar)
  /-- One token of a nested message under an id. -/
  | packet (id : String)
  /-- The same again for each item of a container. -/
  | loop (body : List Shape)
deriving Repr

/-- What travels for a value of the type. -/
def shapeOf : WireType → List Shape
  | .mk (.scalar k) _ _ _ => [.scalar k]
  | .mk (.sequence _) _ [e] _ => [.scalar .int, .loop (shapeOf e)]
  | .mk .map _ [k, v] _ => [.scalar .int, .loop (shapeOf k ++ shapeOf v)]
  | .mk .message _ _ id => [.packet id.text]
  | _ => []

/-- What an instruction writes or reads. -/
def Instruction.shape : Instruction → List Shape
  | write k _ => [.scalar k]
  | writeSize _ _ => [.scalar .int]
  | writePacket _ id => [.packet id]
  | read _ k => [.scalar k]
  | readPacket _ id => [.packet id]
  | create _ _ => []
  | append _ _ => []
  | addMember _ _ => []
  | putNew _ _ _ => []
  | put _ _ _ => []
  | store _ _ => []
  | finish => []

/-- What a block writes or reads, given what its body does. -/
def Header.shape (body : List Shape) : Header → List Shape
  | forEach _ _ => [.loop body]
  | forPairs _ _ _ => [.loop body]
  | forCount _ _ => [.loop body]
  | ifUnreadable => body

mutual

/-- What a piece of code writes or reads. -/
def Code.shape : Code → List Shape
  | .plain i => i.shape
  | .block h body => h.shape (shapeAll body)

/-- What code writes or reads. -/
def shapeAll : List Code → List Shape
  | [] => []
  | c :: cs => c.shape ++ shapeAll cs

end

@[simp] theorem shapeAll_nil : shapeAll [] = [] := by rw [shapeAll]

@[simp] theorem shapeAll_cons (c : Code) (cs : List Code) :
    shapeAll (c :: cs) = c.shape ++ shapeAll cs := by rw [shapeAll]

@[simp] theorem shape_plain (i : Instruction) : (Code.plain i).shape = i.shape := by rw [Code.shape]

@[simp] theorem shape_block (h : Header) (body : List Code) :
    (Code.block h body).shape = h.shape (shapeAll body) := by rw [Code.shape]

@[simp] theorem shapeAll_append (cs ds : List Code) :
    shapeAll (cs ++ ds) = shapeAll cs ++ shapeAll ds := by
  induction cs with
  | nil => simp
  | cons c cs ih => simp [ih]

/-! ### Code of types and of fields -/

section Code

variable {t : Target} {w : WireType} {n next : Nat} {code : List Code} {fs : List Field}

/-- Adding an element to a container leaves the buffer alone. -/
theorem shape_insertionOf (k : Sequence) (x item : String) : (insertionOf k x item).shape = [] := by
  cases k <;> rfl

/-- Adding an entry to a map leaves the buffer alone. -/
theorem shape_entryOf (t : Target) (x key value : String) : (entryOf t x key value).shape = [] := by
  cases t <;> rfl

/-- Writing code has the form of its type. -/
theorem shapeAll_writeCode {o : Operand} (form : WriteCode t w o n code next) :
    shapeAll code = shapeOf w := by
  induction form with
  | scalar => simp [Instruction.shape, shapeOf]
  | sequence _ ih => simp [Instruction.shape, Header.shape, shapeOf, ih]
  | map _ _ ihk ihv => simp [Instruction.shape, Header.shape, shapeOf, ihk, ihv]
  | message => simp [Instruction.shape, shapeOf]

/-- Reading code has the form of its type. -/
theorem shapeAll_readCode (form : ReadCode t w n code next) : shapeAll code = shapeOf w := by
  induction form with
  | scalar => simp [Instruction.shape, shapeOf]
  | sequence _ ih =>
    simp only [shapeAll_cons, shapeAll_append, shape_plain, shape_block, shape_insertionOf, ih]
    simp [Instruction.shape, Header.shape, shapeOf]
  | map _ _ ihk ihv =>
    simp only [shapeAll_cons, shapeAll_append, shape_plain, shape_block, shape_entryOf, ihk, ihv]
    simp [Instruction.shape, Header.shape, shapeOf]
  | message => simp [Instruction.shape, shapeOf]

/-- The code that writes fields has their forms, in their order. -/
theorem shapeAll_writeFields (form : WriteFields t fs n code next) :
    shapeAll code = fs.flatMap fun f => shapeOf f.type := by
  induction form with
  | nil => simp
  | cons form _ ih => simp [shapeAll_writeCode form, ih]

/-- A check leaves the buffer alone. -/
theorem shapeAll_guardCode (tail : Bool) : shapeAll (guardCode tail) = [] := by
  cases tail <;> simp [guardCode, Header.shape, Instruction.shape]

/-- The code that reads fields has their forms, in their order. -/
theorem shapeAll_readFields {tail : Bool} (form : ReadFields t tail fs n code next) :
    shapeAll code = fs.flatMap fun f => shapeOf f.type := by
  induction form with
  | nil => simp
  | cons form _ ih => simp [shapeAll_guardCode, shapeAll_readCode form, Instruction.shape, ih]

end Code

/-! ### Generated texts -/

/-- The text is code that writes or reads tokens of the given form. -/
def HasShape (t : Target) (text : String) (shape : List Shape) : Prop :=
  ∃ code, Code.ofText? t text = some code ∧ shapeAll code = shape

/-- In each target, the fragment that writes a value of a type and the fragment that reads one have
the form of the type, wherever they stand; and the bodies of a message have the forms of its fields,
in their order. The form does not depend on the target, so all generated code agrees on it. -/
theorem exists_shape_of_fragments {ids : TypeName.MessageIds} {text : String} {w : WireType}
    {fs : List Field} (type : typeOfText ids text = .ok w) (usable : ∀ f ∈ fs, IsUsable ids f)
    (t : Target) :
    ∃ c write read, Generator.prepare t = .ok c ∧
      (∀ e depth n, isPlain e = true → (c.write w e depth n).result = .ok () ∧
        HasShape t (t.fragment (c.write w e depth n).lines) (shapeOf w)) ∧
      (∀ depth n, (c.read w depth n).result = .ok (.result n) ∧
        HasShape t (t.fragment (c.read w depth n).lines) (shapeOf w)) ∧
      bodies c fs = .ok (write, read) ∧
      HasShape t write (fs.flatMap fun f => shapeOf f.type) ∧
      HasShape t read (fs.flatMap fun f => shapeOf f.type) := by
  obtain ⟨c, prepared, rfl, std⟩ := exists_prepare t
  have resolved := resolved_of_typeOfText type
  obtain ⟨write, read, writeCode, readCode, _, _, texts, writeText, writeForm, readText,
    readForm⟩ := ofText?_bodies std usable
  refine ⟨c, write, read, prepared, fun e depth n plain => ?_, fun depth n => ?_, texts,
    ⟨writeCode, writeText, shapeAll_writeFields writeForm⟩,
    ⟨readCode, readText, shapeAll_readFields readForm⟩⟩
  · obtain ⟨code, next, form, emitted⟩ := emits_write std resolved plain depth n
    exact ⟨emitted.result, code, emitted.ofText?, shapeAll_writeCode form⟩
  · obtain ⟨code, next, form, emitted⟩ := emits_read std resolved depth n
    exact ⟨emitted.result, code, emitted.ofText?, shapeAll_readCode form⟩

/-- A map of sets of messages and an array, in TypeScript. -/
theorem exists_shape_of_fragments_sample :
    ∃ c write read, Generator.prepare .typescript = .ok c ∧
      HasShape .typescript (Target.typescript.fragment (c.read Sample.places.type 0 0).lines)
        [.scalar .int, .loop [.scalar .int, .scalar .int, .loop [.packet "-5"]]] ∧
      bodies c ([Sample.places] ++ [Sample.tags true]) = .ok (write, read) ∧
      HasShape .typescript write [.scalar .int, .loop [.scalar .int, .scalar .int,
        .loop [.packet "-5"]], .scalar .int, .loop [.scalar .string]] := by
  obtain ⟨text, type⟩ := Sample.usable_places.type
  obtain ⟨c, write, read, prepared, -, reads, texts, writes, -⟩ :=
    exists_shape_of_fragments type (Sample.usable true) .typescript
  exact ⟨c, write, read, prepared, (reads 0 0).2, texts, writes⟩

end PacketSmith.Script
