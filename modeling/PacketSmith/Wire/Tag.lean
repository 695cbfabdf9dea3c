/-!
# Tags of wire types

Every field type has a tag that says how its values travel: one of nine scalars, three kinds of
sequence, a map, or a nested message. A tag of any other name can be carried along, and no target
has a serializer for it.
-/

namespace PacketSmith

/-- The types whose values are written at one go. -/
inductive Scalar where
  | bool | byte | short | int | long | float | double | char | string
deriving DecidableEq, Repr

/-- The containers of single elements. -/
inductive Sequence where
  | array | list | set
deriving DecidableEq, Repr

/-- The tag of a wire type. -/
inductive Tag where
  /-- A scalar. -/
  | scalar (kind : Scalar)
  /-- A container of single elements. -/
  | sequence (kind : Sequence)
  /-- A container of keys and values. -/
  | map
  /-- A nested message. -/
  | message
  /-- A tag of another name. -/
  | custom (name : String)
deriving DecidableEq, Inhabited, Repr

/-- The name of a scalar. -/
def Scalar.name : Scalar → String
  | bool => "bool" | byte => "byte" | short => "short" | int => "int" | long => "long"
  | float => "float" | double => "double" | char => "char" | string => "string"

/-- The name of a kind of sequence. -/
def Sequence.name : Sequence → String
  | array => "array" | list => "list" | set => "set"

namespace Tag

/-- The name of a tag. -/
def name : Tag → String
  | scalar s => s.name
  | sequence s => s.name
  | map => "map"
  | message => "object"
  | custom n => n

/-- The scalars in their order. -/
def scalars : List Scalar := [.bool, .byte, .short, .int, .long, .float, .double, .char, .string]

/-- The tags that every target serves, in their order. -/
def standard : List Tag :=
  scalars.map scalar ++ [sequence .array, sequence .list, sequence .set, map, message]

/-- The tag of a name. -/
def ofName (n : String) : Tag :=
  (standard.find? (·.name == n)).getD (custom n)

end Tag
end PacketSmith
