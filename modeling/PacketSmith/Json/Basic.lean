import PacketSmith.Decimal.Shortest
import PacketSmith.Text.Quoted

/-!
# JSON values

The values of a JSON document. A number without fraction and exponent is a whole number of any size,
every other number a binary one, and not-a-number and the infinities are numbers too. An object
keeps its members in the order in which their names first appear.

Besides, the rules by which a value of any kind serves where a text (`Json.text`) or a truth value
(`Json.holds`) was expected.
-/

namespace PacketSmith

/-- A JSON value. -/
inductive Json where
  | null
  | bool (value : Bool)
  | int (value : Int)
  | float (value : Binary64)
  | string (value : String)
  | array (items : List Json)
  | object (members : List (String × Json))
deriving Inhabited, Repr

namespace Json

/-- The member of an object by its name. -/
def member? (members : List (String × Json)) (name : String) : Option Json :=
  members.lookup name

/-- The members with one more: a name that is there already keeps its place and takes the new value.
-/
def insert (name : String) (value : Json) : List (String × Json) → List (String × Json)
  | [] => [(name, value)]
  | (n, v) :: rest => if n == name then (n, value) :: rest else (n, v) :: insert name value rest

/-- The text of a truth value. -/
def boolText (b : Bool) : String := if b then "True" else "False"

mutual

/-- The text of a value inside another one: a text stands in quotation marks. -/
def nestedText : Json → String
  | null => "None"
  | bool b => boolText b
  | int n => toString n
  | float x => x.text
  | string s => Text.quoted s
  | array items => "[" ++ ", ".intercalate (itemTexts items) ++ "]"
  | object members => "\x7b" ++ ", ".intercalate (memberTexts members) ++ "\x7d"

/-- The texts of the items of an array. -/
def itemTexts : List Json → List String
  | [] => []
  | x :: xs => nestedText x :: itemTexts xs

/-- The texts of the members of an object. -/
def memberTexts : List (String × Json) → List String
  | [] => []
  | (n, v) :: rest => (Text.quoted n ++ ": " ++ nestedText v) :: memberTexts rest

end

/-- The text that a value gives where a text was expected: a text itself, and the written form of
every other value. -/
def text : Json → String
  | string s => s
  | v => nestedText v

/-- The truth value that a value gives where one was expected: null, zeros and empty values fail,
and every other value holds. -/
def holds : Json → Bool
  | null => false
  | bool b => b
  | int n => n != 0
  | float x => !x.isZero
  | string s => !s.isEmpty
  | array items => !items.isEmpty
  | object members => !members.isEmpty

end Json
end PacketSmith
