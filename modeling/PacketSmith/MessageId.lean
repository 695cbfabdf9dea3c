/-!
# Message ids

An id is a whole number in every sensible registry. A registry file may also give a truth value,
which counts as 0 or 1 when ids are compared and still shows as it was given, or null.
-/

namespace PacketSmith

/-- The id of a message, as a registry file can give it. -/
inductive MessageId where
  /-- No id. -/
  | null
  /-- A truth value. -/
  | flag (value : Bool)
  /-- A whole number. -/
  | number (value : Int)
deriving DecidableEq, Inhabited, Repr

namespace MessageId

/-- What ids are compared by: a truth value counts as 0 or 1, and null as nothing else. -/
def key : MessageId → Option Int
  | null => none
  | flag b => some (if b then 1 else 0)
  | number n => some n

/-- Two ids count as one. -/
def same (a b : MessageId) : Bool := a.key == b.key

/-- The id is one of the listed ids. -/
def isIn (a : MessageId) (ids : List MessageId) : Bool := ids.any a.same

/-- The id as it shows in text. -/
def text : MessageId → String
  | null => "None"
  | flag true => "True"
  | flag false => "False"
  | number n => toString n

@[simp] theorem same_iff {a b : MessageId} : a.same b = true ↔ a.key = b.key := by
  simp [same]

theorem isIn_iff {a : MessageId} {ids : List MessageId} :
    a.isIn ids = true ↔ a.key ∈ ids.map key := by
  simp only [isIn, List.any_eq_true, same_iff, List.mem_map]
  exact ⟨fun ⟨b, hb, h⟩ => ⟨b, hb, h.symm⟩, fun ⟨b, hb, h⟩ => ⟨b, hb, h.symm⟩⟩

end MessageId
end PacketSmith
