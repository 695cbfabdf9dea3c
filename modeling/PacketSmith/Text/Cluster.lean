import PacketSmith.Text.Lines
import PacketSmith.Text.Terminal

/-!
# Clusters of characters

A cluster is shown as one: a character that takes columns, with the marks behind it, the characters
joined to it and the selectors applied to it. Text is cut to a width between clusters only; where
the cut falls into a wide cluster, a space takes the place of its first half.
-/

namespace PacketSmith.Text

/-- Characters that are shown as one, and how many columns they take. -/
structure Cluster where
  /-- The characters. -/
  chars : List Char
  /-- The columns. -/
  width : Nat
deriving DecidableEq, Repr

/-- The cluster begun so far, if there is one; its characters come last first. -/
def begun (chars : List Char) (width : Nat) : List Cluster :=
  if chars.isEmpty then [] else [⟨chars.reverse, width⟩]

/-- The clusters of characters. `chars` and `width` are those of the cluster begun so far, last
character first; `last` is the last character that took a column, unless a selector has widened it;
`joined` says that a joiner stands before the characters. -/
def clustersFrom (chars : List Char) (width : Nat) (last : Option Char) (joined : Bool) :
    List Char → List Cluster
  | [] => begun chars width
  | c :: cs =>
    if joined then clustersFrom (c :: chars) width last false cs
    else if c == joiner then clustersFrom (c :: chars) width last (!chars.isEmpty) cs
    else if c == selector then
      if last.any isWidened then clustersFrom (c :: chars) (width + 1) none false cs
      else clustersFrom (c :: chars) width last false cs
    else
      match charWidth c with
      | 0 => clustersFrom (c :: chars) width last false cs
      | n => begun chars width ++ clustersFrom [c] n (some c) false cs

/-- The clusters of characters. -/
def clusters (cs : List Char) : List Cluster := clustersFrom [] 0 none false cs

/-- The characters of the first clusters that fill a number of columns. -/
def front (n : Nat) : List Cluster → List Char
  | [] => []
  | c :: cs =>
    if n == 0 then []
    else if c.width ≤ n then c.chars ++ front (n - c.width) cs
    else [' ']

/-- The characters filled with spaces or cut to a number of columns. -/
def setColumns (n : Nat) (cs : List Char) : List Char :=
  if n == 0 then []
  else if columns cs ≤ n then cs ++ spaces (n - columns cs)
  else front n (clusters cs)

end PacketSmith.Text
