import PacketSmith.Json.Writer
import PacketSmith.Layout.Table
import PacketSmith.Registry.Basic
import PacketSmith.Registry.Dependency

/-!
# Overview of a registry

What a registry holds, one row for each message: its id, name and directory, its fields and the ids
of the messages it depends on. An overview is shown as a JSON document or as a table, whose cells
are marked text.
-/

namespace PacketSmith

/-- A field as an overview shows it. -/
structure FieldRow where
  /-- The name, which may be missing. -/
  name : Option String
  /-- The text of the type. -/
  type : String
  /-- Older messages may lack the field. -/
  compatible : Option Bool
deriving DecidableEq, Repr

/-- A message as an overview shows it. -/
structure MessageRow where
  /-- The id. -/
  id : MessageId
  /-- The name, which may be missing. -/
  name : Option String
  /-- The directory of its file. -/
  directory : String
  /-- Its fields in their order. -/
  fields : List FieldRow
  /-- The ids of the messages it depends on, in the order they are found. -/
  dependencies : List MessageId
deriving DecidableEq, Repr

namespace FieldRow

/-- The row of a field. -/
def ofField (f : Field) : Except Fault FieldRow := do
  let type ← f.type.text
  return ⟨f.name, type, f.compatible⟩

/-- The field in a JSON document. -/
def toJson (f : FieldRow) : Json :=
  .object [
    ("name", f.name.elim .null .string),
    ("type", .string f.type),
    ("compatible", f.compatible.elim .null .bool)]

/-- The field in a table. -/
def text (f : FieldRow) : String :=
  shown f.name ++ ": " ++ f.type ++ (if f.compatible == some true then " (compatible)" else "")

end FieldRow

namespace MessageRow

/-- The row of a message of a registry. -/
def ofMessage (r : Registry) (m : Message) : Except Fault MessageRow := do
  let directory ← m.directory
  let fields ← m.fields.mapM FieldRow.ofField
  let dependencies ← r.dependencies m.id
  return ⟨m.id, m.name, directory, fields, dependencies⟩

/-- An id in a JSON document. -/
def idJson : MessageId → Json
  | .null => .null
  | .flag b => .bool b
  | .number n => .int n

/-- The message in a JSON document. -/
def toJson (m : MessageRow) : Json :=
  .object [
    ("id", idJson m.id),
    ("name", m.name.elim .null .string),
    ("path", .string m.directory),
    ("fields", .array (m.fields.map FieldRow.toJson)),
    ("dependencies", .array (m.dependencies.map idJson))]

/-- The columns of the table. -/
def columns : List Layout.Column :=
  [⟨"ID", true⟩, ⟨"Name", false⟩, ⟨"Path", false⟩, ⟨"Fields", false⟩, ⟨"Depends on", false⟩]

/-- The cells of the message in the table; a name that is missing leaves its cell empty. -/
def cells (m : MessageRow) : List String :=
  [m.id.text, m.name.getD "", m.directory, ", ".intercalate (m.fields.map FieldRow.text),
    ", ".intercalate (m.dependencies.map MessageId.text)]

end MessageRow

namespace Registry

/-- The rows of a registry's messages, in their order. -/
def overview (r : Registry) : Except Fault (List MessageRow) :=
  r.messages.mapM (MessageRow.ofMessage r)

end Registry

/-- An overview as a JSON document. -/
def overviewJson (rows : List MessageRow) : String :=
  (Json.object [("messages", .array (rows.map MessageRow.toJson))]).write

/-- What stands above the table of an overview. -/
def overviewHeading : String := "Messages"

/-- An overview as the lines of a table. -/
def overviewLines (rows : List MessageRow) : Except Fault (List String) :=
  Layout.tableLines MessageRow.columns (rows.map MessageRow.cells)

end PacketSmith
