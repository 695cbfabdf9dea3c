/-!
# Type names

A type name is a head with type parameters. An array has the head `[]` and its element as the only
parameter. The text of a name is `elem[]` for an array, `Head<p, q>` for a head with parameters and
`Head` alone; an array without an element has no text.
-/

namespace PacketSmith

/-- The name of a type, without the packages that qualified it. -/
inductive TypeName where
  | mk (head : String) (params : List TypeName)
deriving Inhabited, Repr

namespace TypeName

/-- The head of an array. -/
def arrayHead : String := "[]"

/-- The head of a name. -/
def head : TypeName → String
  | mk h _ => h

/-- The parameters of a name. -/
def params : TypeName → List TypeName
  | mk _ ps => ps

/-- A name without parameters. -/
def simple (head : String) : TypeName := mk head []

/-- The array of an element type. -/
def array (element : TypeName) : TypeName := mk arrayHead [element]

/-- The name is that of an array. -/
def isArray (t : TypeName) : Bool := t.head == arrayHead

mutual

/-- The text of a name; an array without an element has none. -/
def text? : TypeName → Option String
  | mk head params =>
    if head == arrayHead then (firstText? params).map (· ++ "[]")
    else
      match params with
      | [] => some head
      | p :: ps => do
        let inner ← texts? (p :: ps)
        return head ++ "<" ++ ", ".intercalate inner ++ ">"

/-- The text of the first name. -/
def firstText? : List TypeName → Option String
  | [] => none
  | t :: _ => text? t

/-- The texts of all names. -/
def texts? : List TypeName → Option (List String)
  | [] => some []
  | t :: ts => do
    let first ← text? t
    let rest ← texts? ts
    return first :: rest

end

end TypeName
end PacketSmith
