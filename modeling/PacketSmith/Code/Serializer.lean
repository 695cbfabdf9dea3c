import PacketSmith.Fault
import PacketSmith.Wire.Tag

/-!
# Serializers and their tables

A serializer says how the values of one tag are coded. A table assigns serializers to tags for one
language. It can be filled tag by tag until it is sealed; a complete table covers the standard tags
and is sealed from the start. It is filled, closed and asked in any order (`Table.run`), and a call
that fails leaves it as it was.
-/

namespace PacketSmith.Code

/-- How the values of a tag are coded. -/
inductive Serializer where
  /-- A scalar is written and read by one call. -/
  | scalar (kind : Scalar)
  /-- A sequence is its size and its elements. -/
  | sequence (kind : Sequence)
  /-- A map is its size and its keys and values. -/
  | map
  /-- A nested message is handed to the coder of its own type. -/
  | message
  /-- The coding is left open: fields can be declared, not written or read. -/
  | unspecified
deriving DecidableEq, Repr

/-- The serializer of a standard tag. -/
def Serializer.ofTag? : Tag → Option Serializer
  | .scalar s => some (.scalar s)
  | .sequence s => some (.sequence s)
  | .map => some .map
  | .message => some .message
  | .custom _ => none

/-- The serializers of the standard tags, in their order. -/
def Serializer.standard : List (Tag × Serializer) :=
  Tag.standard.filterMap fun t => (Serializer.ofTag? t).map fun s => (t, s)

/-- An assignment of serializers to tags for one language. -/
structure Table (α : Type) where
  /-- The language. -/
  language : String
  /-- The assignments; of several for one tag the first counts. -/
  entries : List (Tag × α)
  /-- The table takes no more assignments. -/
  isSealed : Bool

namespace Table

variable {α : Type}

/-- The table without assignments. -/
def empty (language : String) : Table α := ⟨language, [], false⟩

/-- The table with one more assignment, which replaces an earlier one of the tag. A sealed table
takes none. -/
def register (t : Table α) (tag : Tag) (a : α) : Except Fault (Table α) :=
  if t.isSealed then .error (.tableSealed t.language)
  else .ok { t with entries := (tag, a) :: t.entries }

/-- The table closed against further assignments. -/
def close (t : Table α) : Table α := { t with isSealed := true }

/-- What is assigned to a tag. -/
def find? (t : Table α) (tag : Tag) : Option α := t.entries.lookup tag

/-- A tag has an assignment. -/
def contains (t : Table α) (tag : Tag) : Bool := (t.find? tag).isSome

/-- What is assigned to a tag; a tag without an assignment is a fault. -/
def lookup (t : Table α) (tag : Tag) : Except Fault α :=
  match t.find? tag with
  | some a => .ok a
  | none => .error (.noSerializer t.language tag.name)

/-- The standard tags that have an assignment, in their order. -/
def tags (t : Table α) : List Tag := Tag.standard.filter t.contains

/-- The table with some more assignments. -/
def registerAll (t : Table α) : List (Tag × α) → Except Fault (Table α)
  | [] => .ok t
  | (tag, a) :: rest => do
    let u ← t.register tag a
    u.registerAll rest

/-- The sealed table of the given assignments, which must cover the standard tags. -/
def complete (language : String) (entries : List (Tag × α)) : Except Fault (Table α) :=
  let missing := Tag.standard.filter fun tag => (entries.lookup tag).isNone
  if missing.isEmpty then do
    let t ← (empty language).registerAll entries
    return t.close
  else .error (.incompleteTable language (missing.map Tag.name))

end Table
namespace Table

/-- What a table can be asked for. -/
inductive Call (α : Type) where
  /-- To take an assignment. -/
  | register (tag : Tag) (a : α)
  /-- To take no more assignments. -/
  | close
  /-- To give what is assigned to a tag. -/
  | lookup (tag : Tag)
  /-- To say whether a tag has an assignment. -/
  | contains (tag : Tag)

/-- What a call gives. -/
inductive Reply (α : Type) where
  /-- The table has done what it was asked for. -/
  | done
  /-- What is assigned to the tag. -/
  | found (a : α)
  /-- Whether the tag has an assignment. -/
  | answer (b : Bool)

variable {α : Type}

/-- Answers a call, with the table as it is from then on. -/
def call (t : Table α) : Call α → Except Fault (Reply α) × Table α
  | .register tag a =>
    match t.register tag a with
    | .ok u => (.ok .done, u)
    | .error f => (.error f, t)
  | .close => (.ok .done, t.close)
  | .lookup tag => ((t.lookup tag).map .found, t)
  | .contains tag => (.ok (.answer (t.contains tag)), t)

/-- Answers calls one after the other. -/
def run (t : Table α) : List (Call α) → List (Except Fault (Reply α)) × Table α
  | [] => ([], t)
  | c :: cs => ((t.call c).1 :: (run (t.call c).2 cs).1, (run (t.call c).2 cs).2)

end Table

end PacketSmith.Code
