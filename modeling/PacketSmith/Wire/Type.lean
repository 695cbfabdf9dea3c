import PacketSmith.Fault
import PacketSmith.TypeName.Basic
import PacketSmith.Wire.Tag

/-!
# Wire types

A wire type is a type name with its meaning: the tag, the wire types of the parameters and, for a
nested message, its id. `TypeName.resolve` finds the meaning of a name, given the ids of the
messages by name. A container must have the number of parameters of its kind, and a name without
parameters must be a primitive spelling or a message; a primitive spelling never means a message.
-/

namespace PacketSmith

/-- A type name with its meaning. -/
inductive WireType where
  | mk (tag : Tag) (name : TypeName) (params : List WireType) (id : MessageId)
deriving Inhabited, Repr

namespace WireType

/-- How values of the type travel. -/
def tag : WireType → Tag
  | mk t _ _ _ => t

/-- The name of the type. -/
def name : WireType → TypeName
  | mk _ n _ _ => n

/-- The element of a sequence, or the key and the value of a map. -/
def params : WireType → List WireType
  | mk _ _ ps _ => ps

/-- The id of a nested message. -/
def id : WireType → MessageId
  | mk _ _ _ i => i

/-- The text of the type's name. -/
def text (w : WireType) : Except Fault String :=
  match w.name.text? with
  | some s => .ok s
  | none => .error .missingParameter

mutual

/-- The type and all types inside it, each before its parameters. -/
def walk : WireType → List WireType
  | mk t n ps i => mk t n ps i :: walkAll ps

/-- The types and all types inside them. -/
def walkAll : List WireType → List WireType
  | [] => []
  | w :: ws => walk w ++ walkAll ws

end

end WireType

namespace TypeName

/-- The spellings of the scalars. -/
def primitives : List (String × Scalar) := [
  ("boolean", .bool), ("Boolean", .bool),
  ("byte", .byte), ("Byte", .byte),
  ("short", .short), ("Short", .short),
  ("int", .int), ("Integer", .int),
  ("long", .long), ("Long", .long),
  ("float", .float), ("Float", .float),
  ("double", .double), ("Double", .double),
  ("char", .char), ("Character", .char),
  ("String", .string)]

/-- The heads of the containers, with their tag and their number of parameters. -/
def containers : List (String × Tag × Nat) := [
  ("List", .sequence .list, 1),
  ("Set", .sequence .set, 1),
  ("Map", .map, 2)]

/-- The ids of messages by name. -/
abbrev MessageIds := List (String × MessageId)

mutual

/-- The meaning of a type name. The first fault in the order of the text is the one reported. -/
def resolve (ids : MessageIds) : TypeName → Except Fault WireType
  | mk head params =>
    if head == arrayHead then do
      let element ← resolveFirst ids params
      return .mk (.sequence .array) (mk head params) [element] .null
    else
      match params with
      | p :: ps =>
        match containers.lookup head with
        | none =>
          match (mk head (p :: ps)).text? with
          | some s => .error (.unsupportedGeneric s)
          | none => .error .missingParameter
        | some (tag, arity) =>
          if (p :: ps).length ≠ arity then .error (.wrongArity head arity (p :: ps).length)
          else do
            let inner ← resolveAll ids (p :: ps)
            return .mk tag (mk head (p :: ps)) inner .null
      | [] =>
        match primitives.lookup head with
        | some s => .ok (.mk (.scalar s) (mk head []) [] .null)
        | none =>
          match ids.lookup head with
          | some i => .ok (.mk .message (mk head []) [] i)
          | none => .error (.unknownType head)

/-- The meaning of the first name. -/
def resolveFirst (ids : MessageIds) : List TypeName → Except Fault WireType
  | [] => .error .missingParameter
  | t :: _ => resolve ids t

/-- The meanings of all names. -/
def resolveAll (ids : MessageIds) : List TypeName → Except Fault (List WireType)
  | [] => .ok []
  | t :: ts => do
    let first ← resolve ids t
    let rest ← resolveAll ids ts
    return first :: rest

end

end TypeName
end PacketSmith
