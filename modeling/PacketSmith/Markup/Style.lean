import PacketSmith.Fault
import PacketSmith.Markup.Color
import PacketSmith.Text.Lines

/-!
# Styles

A style is described in words: attributes, each of them perhaps after `not`, a color, a background
color after `on`, and an address after `link`. Descriptions of one style have one normal form, by
which a closing tag finds the tag that it closes. A description that is not understood is its own
normal form, but for the case of its letters and the blanks around it.
-/

namespace PacketSmith.Markup

/-- The attributes of a style, in the order of the normal form. -/
def attributes : List String :=
  ["bold", "dim", "italic", "underline", "blink", "blink2", "reverse", "conceal", "strike",
    "underline2", "frame", "encircle", "overline"]

/-- The short words for attributes. -/
def shortAttributes : List (String × String) := [
  ("d", "dim"), ("b", "bold"), ("i", "italic"), ("u", "underline"), ("r", "reverse"),
  ("c", "conceal"), ("s", "strike"), ("uu", "underline2"), ("o", "overline")]

/-- The attribute of a word. -/
def attribute? (word : String) : Option String :=
  if attributes.contains word then some word else shortAttributes.lookup word

/-- A style. -/
structure Style where
  /-- The attributes that are set or unset, the last one first. -/
  settings : List (String × Bool) := []
  /-- The color. -/
  color : Option String := none
  /-- The color of the background. -/
  background : Option String := none
  /-- The address that the text leads to. -/
  link : Option String := none
deriving DecidableEq, Repr

namespace Style

/-- The words of the normal form. -/
def normalWords (s : Style) : List String :=
  attributes.flatMap (fun a =>
    match s.settings.lookup a with
    | some true => [a]
    | some false => ["not", a]
    | none => [])
  ++ s.color.elim [] (fun c => [c])
  ++ s.background.elim [] (fun c => ["on", c])
  ++ s.link.elim [] (fun l => ["link", l])

/-- The normal form of a style. -/
def normalForm (s : Style) : String :=
  if s.normalWords.isEmpty then "none" else " ".intercalate s.normalWords

/-- A style with one more color, or `none` if the word is no color. -/
def withColor? (word : String) (add : String → Style) : Except Fault (Option Style) :=
  let word := Text.lower word
  match readColor word with
  | .color => .ok (some (add word))
  | .other => .ok none
  | .noNumber => .error .notNumeral

/-- The style that words add to a style, or `none` if they are not understood. -/
def readFrom (s : Style) : List String → Except Fault (Option Style)
  | [] => .ok (some s)
  | [word] =>
    let small := Text.lower word
    if small == "on" || small == "not" || small == "link" then .ok none
    else
      match attribute? small with
      | some a => .ok (some { s with settings := (a, true) :: s.settings })
      | none => withColor? small fun c => { s with color := some c }
  | word :: next :: rest => do
    let small := Text.lower word
    if small == "on" then
      match ← withColor? next fun c => { s with background := some c } with
      | some s => readFrom s rest
      | none => .ok none
    else if small == "not" then
      match attribute? next with
      | some a => readFrom { s with settings := (a, false) :: s.settings } rest
      | none => .ok none
    else if small == "link" then readFrom { s with link := some next } rest
    else
      match attribute? small with
      | some a => readFrom { s with settings := (a, true) :: s.settings } (next :: rest)
      | none =>
        match ← withColor? small fun c => { s with color := some c } with
        | some s => readFrom s (next :: rest)
        | none => .ok none

/-- The style that a description describes, or `none` if it is not understood. -/
def read (description : String) : Except Fault (Option Style) :=
  if Text.trim description == "none" then .ok (some {}) else readFrom {} (Text.words description)

end Style

/-- The normal form of the description of a style. -/
def normalName (description : String) : Except Fault String := do
  match ← Style.read description with
  | some s => return s.normalForm
  | none => return Text.lower (Text.trim description)

end PacketSmith.Markup
