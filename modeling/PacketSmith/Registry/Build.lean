import PacketSmith.Registry.Definition
import PacketSmith.TypeName.Reader

/-!
# From definitions to a registry

A definition becomes a registry if its message names are distinct, every field's type is a type name
with a meaning among all its messages, and its ids are distinct. The faults are looked for in this
order: first the names of all messages, then the types field by field, then the ids.

A compatible field makes every field behind it compatible.
-/

namespace PacketSmith

/-- The meaning of the text of a type. -/
def typeOfText (ids : TypeName.MessageIds) (text : String) : Except Fault WireType :=
  match TypeName.read? text with
  | some t => t.resolve ids
  | none => .error (.malformedType text)

/-- The meaning of the type of a field; a fault comes with the names of the message and the field.
-/
def typeInField (ids : TypeName.MessageIds) (message field : Option String) (type : Option String) :
    Except Fault WireType :=
  match type with
  | none => .error .nullText
  | some text =>
    match typeOfText ids text with
    | .ok w => .ok w
    | .error e => .error (.inField (shown message) (shown field) e)

/-- The flag of a field behind fields with the given flag: once it is set it stays, otherwise it is
the field's own. -/
def carryFlag (before own : Option Bool) : Option Bool :=
  if before == some true then before else own

/-- The fields of a message, where `before` is the flag of the fields in front. -/
def buildFields (ids : TypeName.MessageIds) (message : Option String) (before : Option Bool) :
    List FieldDefinition → Except Fault (List Field)
  | [] => .ok []
  | d :: ds => do
    let flag := carryFlag before d.compatible
    let type ← typeInField ids message d.name d.type
    let rest ← buildFields ids message flag ds
    return { name := d.name, type := type, compatible := flag, comment := d.comment } :: rest

/-- The message of a definition. -/
def buildMessage (ids : TypeName.MessageIds) (d : MessageDefinition) : Except Fault Message :=
  match d.fields with
  | none => .error .notList
  | some fields => do
    let built ← buildFields ids d.name (some false) fields
    return { id := d.id, name := d.name, fields := built, module := d.module, comment := d.comment }

/-- The first name that repeats an earlier one, where `seen` holds the names before. -/
def repeatedName? (seen : List (Option String)) : List MessageDefinition → Option String
  | [] => none
  | d :: ds =>
    if seen.contains d.name then some (shown d.name) else repeatedName? (d.name :: seen) ds

/-- The ids of the messages by name; a message whose name is null has no entry. -/
def idsByName (ds : List MessageDefinition) : TypeName.MessageIds :=
  ds.filterMap fun d => d.name.map fun n => (n, d.id)

namespace Registry

/-- The registry of some definitions of messages. -/
def ofDefinitions (ds : List MessageDefinition) : Except Fault Registry :=
  match repeatedName? [] ds with
  | some name => .error (.duplicateName name)
  | none => do
    let messages ← ds.mapM (buildMessage (idsByName ds))
    ofMessages messages

/-- The registry of a definition. -/
def ofDefinition (d : RegistryDefinition) : Except Fault Registry :=
  match d.messages with
  | none => .error .notList
  | some ds => ofDefinitions ds

/-- The registry of the text of a registry file. -/
def ofText (text : String) : Except Fault Registry := do
  let value ← Json.read text
  let definition ← RegistryDefinition.ofJson value
  ofDefinition definition

end Registry
end PacketSmith
