import PacketSmith.Registry.Basic

/-!
# Messages inside messages

A message depends on the messages that its fields hold, at any depth inside containers, and on
theirs in turn. `Message.heldIds` gives the ids that a message holds itself, `Registry.dependencies`
all ids that it depends on, in the order of a depth-first search that looks at fields in order.

A message may hold itself inside a container; a field that is the message itself is a fault, and so
are two or more messages that hold each other in turn.

The search goes down only to a registered message that is not on the path from the start, so it ends
by the number of registered messages off the path.
-/

namespace PacketSmith

namespace Message

/-- The ids with those of some types added: nested messages other than the message itself, each
once. -/
def addHeldIds (self : MessageId) (found : List MessageId) : List WireType → List MessageId
  | [] => found
  | w :: ws =>
    if w.tag == .message && w.id != .null && !w.id.same self && !w.id.isIn found then
      addHeldIds self (found ++ [w.id]) ws
    else addHeldIds self found ws

/-- The ids with those of some fields added; a field of the message's own type is a fault. -/
def heldIdsFrom (m : Message) (found : List MessageId) : List Field → Except Fault (List MessageId)
  | [] => .ok found
  | f :: fs =>
    if f.type.id.same m.id then .error (.ownType (shown m.name) (shown f.name) m.id)
    else heldIdsFrom m (addHeldIds m.id found f.type.walk) fs

/-- The ids of the messages that a message holds, each once, in the order of the fields. -/
def heldIds (m : Message) : Except Fault (List MessageId) := heldIdsFrom m [] m.fields

end Message

namespace Registry

/-- How many messages of the registry are not on a path. -/
def offPath (r : Registry) (path : List MessageId) : Nat :=
  r.messages.countP fun m => !m.id.isIn path

theorem offPath_append_lt {r : Registry} {path : List MessageId} {id : MessageId} {m : Message}
    (found : r.find? id = some m) (off : id.isIn path = false) :
    r.offPath (path ++ [id]) < r.offPath path := by
  have member : m ∈ r.messages := List.mem_of_find?_eq_some found
  have same : m.id.key = id.key := by
    have := List.find?_some found
    simpa using this
  have fewer : ∀ x : Message, (!x.id.isIn (path ++ [id])) = true → (!x.id.isIn path) = true := by
    intro x
    simp only [Bool.not_eq_true', Bool.eq_false_iff, ne_eq, MessageId.isIn_iff, List.map_append,
      List.mem_append, not_or]
    exact And.left
  have dropped : (!m.id.isIn (path ++ [id])) = false := by
    simp [MessageId.isIn_iff, same]
  have kept : (!m.id.isIn path) = true := by
    simp only [Bool.not_eq_true', Bool.eq_false_iff, ne_eq, MessageId.isIn_iff] at off ⊢
    rwa [same]
  unfold offPath
  generalize r.messages = ms at member
  induction ms with
  | nil => simp at member
  | cons x xs ih =>
    simp only [List.countP_cons]
    rcases List.mem_cons.1 member with rfl | inside
    · have rest : xs.countP (fun y => !y.id.isIn (path ++ [id])) ≤
          xs.countP (fun y => !y.id.isIn path) :=
        List.countP_mono_left fun y _ => fewer y
      rw [if_pos kept, dropped]
      simp only [Bool.false_eq_true, if_false]
      omega
    · have := ih inside
      have := fewer x
      split <;> split <;> first | omega | simp_all

/-- The cycle that closes when an id of the path is met again. -/
def cycleFrom (path : List MessageId) (id : MessageId) : List MessageId :=
  path.dropWhile (fun p => !p.same id) ++ [id]

/-- The ids found once those in `ids` have been looked at, each followed by what it depends on.
`path` leads from the start to the message that holds them, and `found` is what was found before. -/
def search (r : Registry) (path found : List MessageId) :
    List MessageId → Except Fault (List MessageId)
  | [] => .ok found
  | id :: ids =>
    if _onPath : id.isIn path then .error (.cycle (cycleFrom path id))
    else if id.isIn found then search r path found ids
    else
      match _found : r.find? id with
      | none => .error (.unknownId id)
      | some m => do
        let held ← m.heldIds
        let found ← search r (path ++ [id]) (found ++ [id]) held
        search r path found ids
termination_by ids => (r.offPath path, ids.length)
decreasing_by
  · exact Prod.Lex.right _ (by simp)
  · exact Prod.Lex.left _ _ (offPath_append_lt _found (by simpa using _onPath))
  · exact Prod.Lex.right _ (by simp)

/-- All ids that the message of an id depends on, each once, in depth-first order. -/
def dependencies (r : Registry) (id : MessageId) : Except Fault (List MessageId) := do
  let m ← r.get id
  let held ← m.heldIds
  r.search [id] [] held

end Registry
end PacketSmith
