import PacketSmith.Json.Reader
import PacketSmith.Registry.Basic
import PacketSmith.Text.Integer

/-!
# Registry files

A registry file is a JSON document: an object with the list `messages`, where each message has `id`,
`name`, `fields`, `module` and `comment`, and each field `name`, `type`, `compatible` and `comment`.
Keys with a default may be missing, other keys are ignored, and null is kept wherever it stands.

A value of an unexpected kind is converted where that is possible: a number or a text to an id, any
value to a text or to a truth value. Keys are decoded in the order above, and the first fault
counts.
-/

namespace PacketSmith

/-- A field as a file defines it. -/
structure FieldDefinition where
  /-- The name. -/
  name : Option String
  /-- The text of the type. -/
  type : Option String
  /-- The field, and with it every later one, belongs to the tail that older messages lack. -/
  compatible : Option Bool := some false
  /-- The documentation. -/
  comment : Option String := none
deriving DecidableEq, Repr

/-- A message as a file defines it. -/
structure MessageDefinition where
  /-- The id. -/
  id : MessageId
  /-- The name. -/
  name : Option String
  /-- The fields in wire order. -/
  fields : Option (List FieldDefinition) := some []
  /-- The module that the message belongs to. -/
  module : Option String := some ""
  /-- The documentation. -/
  comment : Option String := none
deriving DecidableEq, Repr

/-- A registry as a file defines it. -/
structure RegistryDefinition where
  /-- The messages. -/
  messages : Option (List MessageDefinition) := some []
deriving DecidableEq, Repr

namespace Json

/-- The members of a record. -/
def asRecord : Json → Except Fault (List (String × Json))
  | object members => .ok members
  | _ => .error .notRecord

/-- The items to go through where a list was expected: an array's items, an object's names or a
text's characters. -/
def asItems : Json → Except Fault (List Json)
  | array items => .ok items
  | object members => .ok (members.map fun m => .string m.1)
  | string s => .ok (s.toList.map fun c => .string (String.ofList [c]))
  | _ => .error .notList

/-- A key that must be there. -/
def required (members : List (String × Json)) (key : String) : Except Fault Json :=
  match member? members key with
  | some v => .ok v
  | none => .error (.missingKey key)

/-- The text of a value, null being kept. -/
def asText : Json → Option String
  | null => none
  | v => some v.text

/-- The truth value of a value, null being kept. -/
def asFlag : Json → Option Bool
  | null => none
  | v => some v.holds

/-- The id that a value gives: whole numbers, truth values and null stay, the fraction of another
number is dropped, and a text is read. -/
def asId : Json → Except Fault MessageId
  | null => .ok .null
  | bool b => .ok (.flag b)
  | int n => .ok (.number n)
  | float .nan => .error .notNumeral
  | float (.infinite _) => .error .infiniteNumber
  | float (.finite negative m q) => .ok (.number (Binary64.wholePart negative m q))
  | string s =>
    match Text.toInt? s with
    | some n => .ok (.number n)
    | none => .error .notNumeral
  | array _ => .error .notNumeric
  | object _ => .error .notNumeric

/-- The list that a value gives, null being kept, with each item decoded in turn. -/
def asList {α : Type} (decode : Json → Except Fault α) : Json → Except Fault (Option (List α))
  | null => .ok none
  | v => do
    let items ← v.asItems
    let decoded ← items.mapM decode
    return some decoded

end Json

namespace FieldDefinition

/-- The field that a value defines. -/
def ofJson (v : Json) : Except Fault FieldDefinition := do
  let members ← v.asRecord
  let name ← Json.required members "name"
  let type ← Json.required members "type"
  return {
    name := name.asText
    type := type.asText
    compatible := ((Json.member? members "compatible").map Json.asFlag).getD (some false)
    comment := ((Json.member? members "comment").map Json.asText).getD none }

end FieldDefinition

namespace MessageDefinition

/-- The message that a value defines. -/
def ofJson (v : Json) : Except Fault MessageDefinition := do
  let members ← v.asRecord
  let id ← (← Json.required members "id").asId
  let name ← Json.required members "name"
  let fields ← ((Json.member? members "fields").getD (.array [])).asList FieldDefinition.ofJson
  return {
    id := id
    name := name.asText
    fields := fields
    module := ((Json.member? members "module").map Json.asText).getD (some "")
    comment := ((Json.member? members "comment").map Json.asText).getD none }

end MessageDefinition

namespace RegistryDefinition

/-- The registry that a value defines. -/
def ofJson (v : Json) : Except Fault RegistryDefinition := do
  let members ← v.asRecord
  let messages ←
    ((Json.member? members "messages").getD (.array [])).asList MessageDefinition.ofJson
  return ⟨messages⟩

end RegistryDefinition
end PacketSmith
