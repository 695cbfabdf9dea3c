import PacketSmith.Code.Statement
import PacketSmith.Fault

/-!
# Emitting code

Code is emitted line by line, with a counter that numbers the variables. An emission from a counter
value gives the lines it adds, the counter behind it, and a result or a fault. Lines added before a
fault stay, and numbers that were taken stay taken.

Several pieces of code can be emitted side by side, as drafts. Each draft has lines of its own and
one of the counters; drafts that share a counter never get one number twice. Drafts and counters are
named by their positions.
-/

namespace PacketSmith.Code

/-- What emitting code from a counter value gives. -/
structure Emission (α : Type) where
  /-- The lines added. -/
  lines : List Line
  /-- The counter behind them. -/
  next : Nat
  /-- The result, or what went wrong. -/
  result : Except Fault α

/-- Emitting code: from a counter value to what is emitted. -/
def Emit (α : Type) : Type := Nat → Emission α

namespace Emit

/-- Emits nothing. -/
def done {α : Type} (a : α) : Emit α := fun n => ⟨[], n, .ok a⟩

/-- Emits one thing and then, unless a fault stopped it, another. -/
def andThen {α β : Type} (first : Emit α) (rest : α → Emit β) : Emit β := fun n =>
  let e := first n
  match e.result with
  | .ok a =>
    let f := rest a e.next
    ⟨e.lines ++ f.lines, f.next, f.result⟩
  | .error fault => ⟨e.lines, e.next, .error fault⟩

instance : Monad Emit where
  pure := done
  bind := andThen

/-- Takes the next number. -/
def fresh : Emit Nat := fun n => ⟨[], n + 1, .ok n⟩

/-- Adds a line. -/
def line (depth : Int) (s : Statement) : Emit Unit := fun n => ⟨[⟨depth, s⟩], n, .ok ()⟩

/-- Adds lines. -/
def lines (ls : List Line) : Emit Unit := fun n => ⟨ls, n, .ok ()⟩

/-- A result that may be a fault, without any line. -/
def ofExcept {α : Type} (r : Except Fault α) : Emit α := fun n => ⟨[], n, r⟩

/-- The item at a position; a position behind the end is a parameter that is missing. -/
def parameter {α : Type} (items : List α) (position : Nat) : Emit α :=
  ofExcept (match items[position]? with
    | some a => .ok a
    | none => .error .missingParameter)

@[simp] theorem pure_apply {α : Type} (a : α) (n : Nat) :
    (pure a : Emit α) n = ⟨[], n, .ok a⟩ := rfl

theorem bind_apply {α β : Type} (first : Emit α) (rest : α → Emit β) (n : Nat) :
    (first >>= rest) n = andThen first rest n := rfl

/-- After a first part that succeeds, the rest goes on from its counter and its lines follow. -/
theorem andThen_of_ok {α β : Type} {first : Emit α} {rest : α → Emit β} {n : Nat} {ls : List Line}
    {k : Nat} {a : α} (h : first n = ⟨ls, k, .ok a⟩) :
    andThen first rest n = ⟨ls ++ (rest a k).lines, (rest a k).next, (rest a k).result⟩ := by
  simp [andThen, h]

end Emit

/-- A piece of code in the making. -/
structure Draft where
  /-- The position of its counter. -/
  counter : Nat
  /-- Its lines so far. -/
  lines : List Line

/-- The drafts of a session, with the counters they use. -/
structure Drafts where
  /-- The values of the counters. -/
  counters : List Nat
  /-- The drafts. -/
  drafts : List Draft

namespace Drafts

/-- One draft without lines, and its counter at zero. -/
def start : Drafts := ⟨[0], [⟨0, []⟩]⟩

/-- A draft by its position; a position behind the end has no lines. -/
def get (ds : Drafts) (i : Nat) : Draft := ds.drafts.getD i ⟨0, []⟩

/-- One more draft with a counter of its own, at zero. -/
def new (ds : Drafts) : Drafts :=
  ⟨ds.counters ++ [0], ds.drafts ++ [⟨ds.counters.length, []⟩]⟩

/-- One more draft without lines that shares the counter of a draft. -/
def fork (ds : Drafts) (i : Nat) : Drafts :=
  { ds with drafts := ds.drafts ++ [⟨(ds.get i).counter, []⟩] }

/-- Emits code into a draft. -/
def emit {α : Type} (ds : Drafts) (i : Nat) (code : Emit α) : Emission α × Drafts :=
  let d := ds.get i
  let e := code (ds.counters.getD d.counter 0)
  (e, ⟨ds.counters.set d.counter e.next, ds.drafts.set i { d with lines := d.lines ++ e.lines }⟩)

end Drafts
end PacketSmith.Code
