import PacketSmith.Proofs.Script.Reading

/-!
# Running generated code

Generated code works on a buffer of tokens, on its variables, and on the fields of one message. This
module gives each instruction its meaning and runs code as a tree (`runAll`).

* The buffer is first in, first out: writing puts one token at the end, reading takes one from the
  front. Reading fails at the end of the input and on a token of another kind.
* Variables live in the block that declares them. A block is run once for each of its frames, the
  variables that its header binds; what the body declares is gone behind the closing brace, and what
  it changed stays.
* A list takes every item, a set only one that it lacks, and a map has one entry for each key.
* `return packet` ends the run with the message as it is.

The content of a nested message is a parameter: nested messages are written and read as one token
with their id.
-/

namespace PacketSmith.Script

/-! ### Values and tokens -/

/-- The content of a scalar. Numbers with a fraction are given by their bits. -/
inductive Datum where
  | bool (b : Bool)
  | byte (n : Int)
  | short (n : Int)
  | int (n : Int)
  | long (n : Int)
  | float (bits : UInt32)
  | double (bits : UInt64)
  | char (c : Char)
  | string (s : String)
deriving DecidableEq, Repr

/-- The scalar that a content belongs to. -/
def Datum.kind : Datum → Scalar
  | bool _ => .bool
  | byte _ => .byte
  | short _ => .short
  | int _ => .int
  | long _ => .long
  | float _ => .float
  | double _ => .double
  | char _ => .char
  | string _ => .string

/-- A value of generated code. A map is a collection of pairs, and a collection is the sequence of
items that a loop over it meets. -/
inductive Value (α : Type) where
  | scalar (d : Datum)
  | message (content : α)
  | pair (key value : Value α)
  | collection (kind : Collection) (items : List (Value α))
deriving Repr

namespace Value

variable {α : Type} [DecidableEq α]

mutual

/-- Values are compared by what they hold. -/
def decEq : (a b : Value α) → Decidable (a = b)
  | .scalar d, .scalar e => decidable_of_iff (d = e) (by simp)
  | .message x, .message y => decidable_of_iff (x = y) (by simp)
  | .pair k v, .pair l w =>
    match decEq k l, decEq v w with
    | .isTrue hk, .isTrue hv => .isTrue (by rw [hk, hv])
    | .isFalse hk, _ => .isFalse (by simp [hk])
    | _, .isFalse hv => .isFalse (by simp [hv])
  | .collection k xs, .collection l ys =>
    match decEqAll xs ys with
    | .isTrue h => decidable_of_iff (k = l) (by simp [h])
    | .isFalse h => .isFalse (by simp [h])
  | .scalar _, .message _ | .scalar _, .pair _ _ | .scalar _, .collection _ _
  | .message _, .scalar _ | .message _, .pair _ _ | .message _, .collection _ _
  | .pair _ _, .scalar _ | .pair _ _, .message _ | .pair _ _, .collection _ _
  | .collection _ _, .scalar _ | .collection _ _, .message _ | .collection _ _, .pair _ _ =>
    .isFalse nofun

/-- Sequences of values are compared item by item. -/
def decEqAll : (xs ys : List (Value α)) → Decidable (xs = ys)
  | [], [] => .isTrue rfl
  | x :: xs, y :: ys =>
    match decEq x y, decEqAll xs ys with
    | .isTrue h, .isTrue hs => .isTrue (by rw [h, hs])
    | .isFalse h, _ => .isFalse (by simp [h])
    | _, .isFalse hs => .isFalse (by simp [hs])
  | [], _ :: _ | _ :: _, [] => .isFalse nofun

end

instance : DecidableEq (Value α) := decEq

/-- The value is an entry with the given key. -/
def hasKey : (entry key : Value α) → Bool
  | .pair k _, key => decide (k = key)
  | _, _ => false

end Value

/-- What the buffer holds. -/
inductive Token (α : Type) where
  /-- A scalar. -/
  | scalar (d : Datum)
  /-- A nested message under an id. -/
  | packet (id : String) (content : α)
deriving DecidableEq, Repr

/-! ### The machine -/

/-- The variables that are in scope, last declared first. -/
abbrev Temps (α : Type) := List (String × Value α)

/-- What generated code works on. -/
structure Machine (α : Type) where
  /-- The tokens of the buffer, first in first out. -/
  buffer : List (Token α)
  /-- The variables in scope. -/
  temps : Temps α
  /-- The fields of the message that is being written or read. -/
  fields : String → Value α

/-- Why code cannot go on. -/
inductive Failure where
  /-- The buffer was read past its end. -/
  | endOfInput
  /-- The buffer held a token of another kind than the one read. -/
  | wrongToken
  /-- A variable is not in scope, or its value does not allow the operation. -/
  | illTyped
deriving DecidableEq, Repr

/-- How a run of code ends. -/
inductive Run (α : Type) where
  /-- It comes to the end of the code. -/
  | on (m : Machine α)
  /-- It returns the message before. -/
  | back (m : Machine α)
  /-- It fails. -/
  | failed (f : Failure)

namespace Run

variable {α : Type}

/-- Goes on with the machine unless the run has returned or failed. -/
def andThen (r : Run α) (next : Machine α → Run α) : Run α :=
  match r with
  | on m => next m
  | back m => back m
  | failed f => failed f

@[simp] theorem on_andThen (m : Machine α) (next : Machine α → Run α) :
    (on m).andThen next = next m := rfl

@[simp] theorem back_andThen (m : Machine α) (next : Machine α → Run α) :
    (back m).andThen next = back m := rfl

@[simp] theorem failed_andThen (f : Failure) (next : Machine α → Run α) :
    (failed f : Run α).andThen next = failed f := rfl

end Run

section

variable {α : Type} [DecidableEq α]

/-- The value of an operand. -/
def Operand.value? (m : Machine α) : Operand → Option (Value α)
  | field name => some (m.fields name)
  | temp name => m.temps.lookup name

/-- The size of a collection by a measure. -/
def Measure.of? : Measure → Value α → Option Nat
  | any, .collection _ items => some items.length
  | length, .collection .list items => some items.length
  | size, .collection .set items => some items.length
  | size, .collection .map items => some items.length
  | _, _ => none

namespace Machine

/-- Puts a token at the end of the buffer; no token is a failure. -/
def give (m : Machine α) : Option (Token α) → Run α
  | some t => .on { m with buffer := m.buffer ++ [t] }
  | none => .failed .illTyped

/-- Takes the token at the front of the buffer, and declares a variable with what it gives. -/
def take (m : Machine α) (x : String) (accept : Token α → Option (Value α)) : Run α :=
  match m.buffer with
  | [] => .failed .endOfInput
  | t :: rest =>
    match accept t with
    | some v => .on { m with buffer := rest, temps := (x, v) :: m.temps }
    | none => .failed .wrongToken

/-- The variables with one of them changed. -/
def changeIn (x : String) (f : Value α → Option (Value α)) : Temps α → Option (Temps α)
  | [] => none
  | (y, v) :: temps =>
    if x = y then (f v).map fun w => (y, w) :: temps
    else (changeIn x f temps).map fun rest => (y, v) :: rest

/-- Changes a variable. -/
def change (m : Machine α) (x : String) (f : Value α → Option (Value α)) : Run α :=
  match changeIn x f m.temps with
  | some temps => .on { m with temps := temps }
  | none => .failed .illTyped

/-- The machine inside a block with the variables of a frame. -/
def enter (m : Machine α) (frame : Temps α) : Machine α := { m with temps := frame ++ m.temps }

/-- The machine behind a block: of the variables only the given number that were there before. -/
def leave (m : Machine α) (outer : Nat) : Machine α :=
  { m with temps := m.temps.drop (m.temps.length - outer) }

end Machine

/-- The token that writes a scalar of a kind. -/
def scalarToken? (kind : Scalar) : Value α → Option (Token α)
  | .scalar d => if d.kind = kind then some (.scalar d) else none
  | _ => none

/-- The token that writes a nested message. -/
def packetToken? (id : String) : Value α → Option (Token α)
  | .message content => some (.packet id content)
  | _ => none

/-- The scalar of a kind that a token holds. -/
def acceptScalar (kind : Scalar) : Token α → Option (Value α)
  | .scalar d => if d.kind = kind then some (.scalar d) else none
  | _ => none

/-- The nested message that a token holds under an id. -/
def acceptPacket (id : String) : Token α → Option (Value α)
  | .packet i content => if i = id then some (.message content) else none
  | _ => none

/-- A list with one more item. -/
def appended (v : Value α) : Value α → Option (Value α)
  | .collection .list items => some (.collection .list (items ++ [v]))
  | _ => none

/-- A set with one more item, unless it is there. -/
def included (v : Value α) : Value α → Option (Value α)
  | .collection .set items =>
    some (.collection .set (if v ∈ items then items else items ++ [v]))
  | _ => none

/-- A map with one more entry, unless the key is there. -/
def putInNew (k v : Value α) : Value α → Option (Value α)
  | .collection .map items =>
    some (.collection .map (if items.any (·.hasKey k) then items else items ++ [.pair k v]))
  | _ => none

/-- A map with one more entry, or with a new value for the key. -/
def putIn (k v : Value α) : Value α → Option (Value α)
  | .collection .map items =>
    some (.collection .map (
      if items.any (·.hasKey k) then items.map fun i => if i.hasKey k then .pair k v else i
      else items ++ [.pair k v]))
  | _ => none

/-- Goes on with the value of a variable. -/
def Machine.withTemp (m : Machine α) (x : String) (next : Value α → Run α) : Run α :=
  match m.temps.lookup x with
  | some v => next v
  | none => .failed .illTyped

/-- Runs an instruction. -/
def Instruction.run (m : Machine α) : Instruction → Run α
  | write kind source => m.give ((source.value? m).bind (scalarToken? kind))
  | writeSize measure source =>
    m.give (((source.value? m).bind measure.of?).map fun (n : Nat) => .scalar (.int n))
  | writePacket source id => m.give ((source.value? m).bind (packetToken? id))
  | read x kind => m.take x (acceptScalar kind)
  | readPacket x id => m.take x (acceptPacket id)
  | create x kind => .on { m with temps := (x, .collection kind []) :: m.temps }
  | append x item => m.withTemp item fun v => m.change x (appended v)
  | addMember x item => m.withTemp item fun v => m.change x (included v)
  | putNew x key value =>
    m.withTemp key fun k => m.withTemp value fun v => m.change x (putInNew k v)
  | put x key value => m.withTemp key fun k => m.withTemp value fun v => m.change x (putIn k v)
  | store f item => m.withTemp item fun v =>
      .on { m with fields := fun name => if name = f then v else m.fields name }
  | finish => .back m

/-- The variables that each round of a block begins with. -/
def Header.frames? (m : Machine α) : Header → Option (List (Temps α))
  | forEach x source =>
    match source.value? m with
    | some (.collection _ items) => some (items.map fun v => [(x, v)])
    | _ => none
  | forPairs k v source =>
    match source.value? m with
    | some (.collection .map items) => items.mapM fun
      | .pair a b => some [(k, a), (v, b)]
      | _ => none
    | _ => none
  | forCount i bound =>
    match m.temps.lookup bound with
    | some (.scalar (.int n)) =>
      some ((List.range n.toNat).map fun (j : Nat) => [(i, .scalar (.int j))])
    | _ => none
  | ifUnreadable => some (if m.buffer.isEmpty then [[]] else [])

/-- Runs the body of a block once for each frame. -/
def rounds (body : Machine α → Run α) : List (Temps α) → Machine α → Run α
  | [], m => .on m
  | frame :: frames, m =>
    (body (m.enter frame)).andThen fun n => rounds body frames (n.leave m.temps.length)

mutual

/-- Runs one piece of code. -/
def Code.run : Code → Machine α → Run α
  | .plain i, m => i.run m
  | .block h body, m =>
    match h.frames? m with
    | some frames => rounds (fun n => runAll body n) frames m
    | none => .failed .illTyped

/-- Runs code from its first piece to its last. -/
def runAll : List Code → Machine α → Run α
  | [], m => .on m
  | c :: cs, m => (c.run m).andThen fun n => runAll cs n

end

/-- Reads a text as code and runs it; a text that is no code has no run. -/
def execute (t : Target) (text : String) (m : Machine α) : Option (Run α) :=
  (Code.ofText? t text).map fun code => runAll code m

end

/-! ### First lemmas -/

section

variable {α : Type} [DecidableEq α]

@[simp] theorem runAll_nil (m : Machine α) : runAll [] m = .on m := by rw [runAll]

@[simp] theorem runAll_cons (c : Code) (cs : List Code) (m : Machine α) :
    runAll (c :: cs) m = (c.run m).andThen (runAll cs) := by rw [runAll]

/-- Code that follows other code runs on from where that code ends. -/
theorem runAll_append (cs ds : List Code) (m : Machine α) :
    runAll (cs ++ ds) m = (runAll cs m).andThen (runAll ds) := by
  induction cs generalizing m with
  | nil => simp
  | cons c cs ih =>
    simp only [List.cons_append, runAll_cons]
    cases c.run m with
    | on n => simpa using ih n
    | back n => rfl
    | failed f => rfl

@[simp] theorem run_plain (i : Instruction) (m : Machine α) : (Code.plain i).run m = i.run m := by
  rw [Code.run]

/-- A block whose header gives frames runs its body once for each. -/
theorem run_block {h : Header} {m : Machine α} {frames : List (Temps α)}
    (some : h.frames? m = some frames) (body : List Code) :
    (Code.block h body).run m = rounds (runAll body) frames m := by
  rw [Code.run, some]

omit [DecidableEq α] in
/-- Behind a block only the variables from before it are left. -/
@[simp] theorem Machine.leave_append (b : List (Token α)) (inner outer : Temps α)
    (fields : String → Value α) :
    (Machine.mk b (inner ++ outer) fields).leave outer.length = ⟨b, outer, fields⟩ := by
  simp [Machine.leave]

end

end PacketSmith.Script
