import PacketSmith.Fault
import PacketSmith.Path.Basic

/-!
# Templates

A template is a named text with slots. Its rows are lines, some of them inside a block that hangs
on a slot: the block appears if the value of the slot is not empty. Values are put into the slots
as they are, and a slot without a value is left empty.

A contract (`TemplateContract`) declares the slots of a template in order, so that values can be
given by position. `TemplateContract.verify` checks that the template uses exactly those slots.
-/

namespace PacketSmith

/-- A piece of a line. -/
inductive TemplatePart where
  /-- Fixed text. -/
  | text (s : String)
  /-- The value of a slot. -/
  | slot (name : String)
deriving DecidableEq, Repr

/-- A row of a template. -/
inductive TemplateRow where
  /-- A line. -/
  | line (parts : List TemplatePart)
  /-- Lines that appear if the value of a slot is not empty. -/
  | block (slot : String) (lines : List (List TemplatePart))
deriving DecidableEq, Repr

/-- A named text with slots. -/
structure Template where
  /-- The name. -/
  name : String
  /-- The rows. -/
  rows : List TemplateRow
deriving DecidableEq, Repr

namespace Template

/-- The value of a slot: of several the last one, and empty text without one. -/
def valueOf (values : List (String × String)) (slot : String) : String :=
  (values.reverse.lookup slot).getD ""

/-- A piece with its value. -/
def renderPart (values : List (String × String)) : TemplatePart → String
  | .text s => s
  | .slot name => valueOf values name

/-- A line with its values and its end. -/
def renderLine (values : List (String × String)) (parts : List TemplatePart) : String :=
  String.join (parts.map (renderPart values)) ++ "\n"

/-- A row with its values. -/
def renderRow (values : List (String × String)) : TemplateRow → String
  | .line parts => renderLine values parts
  | .block slot lines =>
    if (valueOf values slot).isEmpty then "" else String.join (lines.map (renderLine values))

/-- The text of a template with its values. -/
def render (t : Template) (values : List (String × String)) : String :=
  String.join (t.rows.map (renderRow values))

/-- The slots of a piece. -/
def partSlots : TemplatePart → List String
  | .text _ => []
  | .slot name => [name]

/-- The slots of a row. -/
def rowSlots : TemplateRow → List String
  | .line parts => parts.flatMap partSlots
  | .block slot lines => slot :: lines.flatMap fun parts => parts.flatMap partSlots

/-- The slots that a template uses. -/
def slots (t : Template) : List String := t.rows.flatMap rowSlots

end Template

/-- The name of a template and its slots in order. -/
structure TemplateContract where
  /-- The name of the template. -/
  name : String
  /-- The slots, in the order of the values. -/
  slots : List String
deriving DecidableEq, Repr

namespace TemplateContract

/-- The template that a name denotes: empty segments and single dots in it count for nothing. -/
def find? (library : List Template) (name : String) : Option Template :=
  library.find? fun t => (Path.segments Path.isSlash name).filter (· != ".") == [t.name]

/-- The template of a contract; a name without a template is a fault. -/
def template (c : TemplateContract) (library : List Template) : Except Fault Template :=
  match find? library c.name with
  | some t => .ok t
  | none => .error (.templateNotFound c.name)

/-- The names of the first list that the second one lacks, each once, in the order of their
characters. -/
def without (names others : List String) : List String :=
  ((names.filter (!others.contains ·)).eraseDups).mergeSort fun a b => decide (a ≤ b)

/-- Checks that the template uses exactly the declared slots. -/
def verify (c : TemplateContract) (library : List Template) : Except Fault Unit := do
  let t ← c.template library
  let undeclared := without t.slots c.slots
  let unused := without c.slots t.slots
  if undeclared.isEmpty && unused.isEmpty then return ()
  else .error (.slotMismatch c.name undeclared unused)

/-- The text of the template with values in the order of the slots. -/
def render (c : TemplateContract) (library : List Template) (values : List String) :
    Except Fault String :=
  if values.length ≠ c.slots.length then
    .error (.valueCount c.name c.slots.length values.length)
  else do
    let t ← c.template library
    return t.render (c.slots.zip values)

end TemplateContract
end PacketSmith
