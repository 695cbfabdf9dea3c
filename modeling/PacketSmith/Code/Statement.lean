import PacketSmith.Registry.Basic
import PacketSmith.Text.Lines

/-!
# Generated code

Generated code is a list of lines, each a statement at a depth of blocks. The statements are those
that serializers need, whatever the language: values are written to and read from a buffer, loops go
through containers or count up to a size, and numbered variables hold what they meet.

A documentation text becomes comment lines: the blanks around the text go, each of its lines stands
behind a comment mark at the depth of what it documents, and no line ends in blanks. A text of
blanks alone gives no line. What is known about a message before its file is laid out are its fields
as they are declared, and the pieces of code that go into the template (`MessageParts`).
-/

namespace PacketSmith.Code

/-- An expression in generated code. The numbered ones are variables that the code itself declares.
-/
inductive Expr where
  /-- An expression given as text. -/
  | text (s : String)
  /-- A field of the message that is being written. -/
  | field (name : String)
  /-- The current element of a sequence. -/
  | element (n : Nat)
  /-- The current key of a map. -/
  | key (n : Nat)
  /-- The current value of a map. -/
  | value (n : Nat)
  /-- A value that has been read. -/
  | result (n : Nat)
deriving DecidableEq, Repr

/-- A container that knows its size. -/
inductive Container where
  | sequence (kind : Sequence)
  | map
deriving DecidableEq, Repr

/-- One line of generated code. A statement that opens a block leaves it to `close` to end it. -/
inductive Statement where
  /-- A line given as text. -/
  | text (s : String)
  /-- Writes a scalar. -/
  | writeScalar (kind : Scalar) (source : Expr)
  /-- Writes the size of a container. -/
  | writeSize (kind : Container) (source : Expr)
  /-- Opens a loop over the elements of a sequence. -/
  | forElements (n : Nat) (source : Expr)
  /-- Opens a loop over the keys and values of a map. -/
  | forEntries (n : Nat) (source : Expr)
  /-- Writes a nested message. -/
  | writeMessage (source : Expr) (id : MessageId)
  /-- Reads a scalar into a new variable, declared with its type where the language wants it. -/
  | readScalar (n : Nat) (kind : Scalar) (type : Option String)
  /-- Declares an empty container. -/
  | newContainer (n : Nat) (type : String)
  /-- Reads the size of a container. -/
  | readSize (n : Nat)
  /-- Opens a loop that counts up to the size read before. -/
  | forCount (n : Nat)
  /-- Adds an element to a sequence. -/
  | addElement (n : Nat) (kind : Sequence) (item : Expr)
  /-- Adds a key and a value to a map. -/
  | addEntry (n : Nat) (key value : Expr)
  /-- Reads a nested message into a new variable, with its type where the language wants it. -/
  | readMessage (n : Nat) (id : MessageId) (type : Option String)
  /-- Closes the innermost block. -/
  | close
  /-- Ends the reading of a message if nothing is left to read. -/
  | endUnlessReadable
  /-- Opens a block for the case that nothing is left to read. -/
  | ifNotReadable
  /-- Ends the reading of a message. -/
  | endReading
  /-- Stores a value in a field of the message that is being read. -/
  | store (field : String) (item : Expr)
deriving DecidableEq, Repr

/-- A statement at a depth of blocks. A depth below zero counts as zero. -/
structure Line where
  /-- How many blocks stand around the statement. -/
  depth : Int
  /-- The statement. -/
  statement : Statement
deriving DecidableEq, Repr

/-- The blanks before a line at a depth: four for each block. -/
def indent (depth : Int) : String :=
  String.ofList (List.replicate (4 * depth.toNat) ' ')

/-- The comment lines of a documentation text behind the given mark. -/
def documentation (text : Option String) (depth : Int) (mark : String) : List String :=
  match text with
  | none => []
  | some s => (Text.lines (Text.trim s)).map fun l => Text.trimEnd (indent depth ++ mark ++ l)

/-- The text of an expression, given how the language names the field of a message. -/
def Expr.render (fieldOf : String → String) : Expr → String
  | text s => s
  | field name => fieldOf name
  | element n => "element" ++ toString n
  | key n => "key" ++ toString n
  | value n => "value" ++ toString n
  | result n => "result" ++ toString n

/-- A field with the spelling of its type in the target language. -/
structure DeclaredField where
  /-- The field. -/
  field : Field
  /-- The spelling of its type. -/
  type : String
  /-- The name under which it is declared. -/
  identifier : String

/-- The pieces of a message file. -/
structure MessageParts where
  /-- The message. -/
  message : Message
  /-- The lines that make nested messages known. -/
  dependencies : String
  /-- The documentation. -/
  documentation : String
  /-- The fields as they are declared. -/
  fields : List DeclaredField
  /-- The declarations of the fields. -/
  declarations : String
  /-- The code that writes the fields. -/
  writeBody : String
  /-- The code that reads the fields. -/
  readBody : String

end PacketSmith.Code
