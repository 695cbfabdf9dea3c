import PacketSmith.Markup.Literal.Token

/-!
# Literal values

The parameters of an action are a literal value: numbers, texts, bytes and constants, and tuples,
sets and dictionaries of such values. Members of sets and keys of dictionaries must be values that
never change, which sets and dictionaries are not. A sign may stand before a number, and an
imaginary number may be added to a real one, if that is not too large. `Literal.reads` says whether
a text denotes a value; the value itself is not needed.

A value is read by rules that call each other: for a list of values, for one value, for a sum and
its terms, for brackets. The level of a rule is how many rules are at work when it starts, and there
is a highest level. So what may be nested how deeply depends on the places: a later member of a
tuple stands at a higher level than the first one, and an entry of a dictionary higher than that.
Rules are also at work where a value might stand and none does, as behind a last comma.
-/

namespace PacketSmith.Markup.Literal

/-! ## Values inside others -/

/-- What matters of a value for the value around it. -/
inductive Value where
  /-- A number, with or without a sign, that may be too large for a sum. -/
  | number (imaginary signed large : Bool)
  /-- A value that never changes. -/
  | fixed
  /-- A set or a dictionary, or a tuple with one in it. -/
  | changing
deriving DecidableEq, Repr

/-- A value can be a member of a set. -/
def Value.isFixed : Value → Bool
  | .changing => false
  | _ => true

/-- The tuple of some values. -/
def Value.tuple (vs : List Value) : Value := if vs.all Value.isFixed then .fixed else .changing

/-- A value that follows a sign. -/
def Value.signed? : Value → Option Value
  | .number i false l => some (.number i true l)
  | _ => none

/-- The sum or the difference of two values: a real number that is not too large, and an imaginary
one. -/
def Value.sum? : Value → Value → Option Value
  | .number false _ false, .number true false _ => some .fixed
  | _, _ => none

/-! ## Levels -/

/-- A rule may start at the level. -/
def hasRoom (level : Nat) : Bool := level ≤ 6000

/-- The level of the innermost rule that every value goes through, for a value at a level. -/
def atomLevel (level : Nat) : Nat := level + 22

/-- The level that a text reaches, for an atom at a level. -/
def textLevel (atom : Nat) : Nat := atom + 2

/-- The level that the brackets behind the word for the empty set reach. -/
def callLevel (atom : Nat) : Nat := atom + 24

/-- The levels of values side by side. -/
structure Levels where
  /-- The level of the first value. -/
  first : Nat
  /-- The level of the second value. -/
  second : Nat
  /-- The level of every later value. -/
  later : Nat
deriving DecidableEq, Repr

/-- The levels of values that are in no brackets. -/
def outerLevels : Levels := ⟨3, 5, 5⟩

/-- The levels of values in round brackets. -/
def roundLevels (atom : Nat) : Levels := ⟨atom + 6, atom + 8, atom + 9⟩

/-- The levels of values in braces; both values of an entry have its level. -/
def braceLevels (atom : Nat) : Levels := ⟨atom + 7, atom + 8, atom + 8⟩

/-- A value may be looked for at a level. -/
def hasRoomForValue (level : Nat) : Bool := hasRoom (atomLevel level)

/-! ## Reading values -/

/-- The tokens behind texts of one kind. -/
def textsEnd? (bytes : Bool) : List Token → Option (List Token)
  | .text b :: ts => if b == bytes then textsEnd? bytes ts else none
  | ts => some ts

/-- The tokens behind the word for the empty set, which may stand in brackets. -/
def setWordEnd? (atom : Nat) : List Token → Option (List Token)
  | .set :: ts => if hasRoom atom then some ts else none
  | .sign '(' :: ts =>
    match setWordEnd? (atomLevel (roundLevels atom).first) ts with
    | some (.sign ')' :: rest) => some rest
    | _ => none
  | _ => none

/-- The tokens behind the empty set. -/
def emptySetEnd? (atom : Nat) (ts : List Token) : Option (List Token) :=
  match setWordEnd? atom ts with
  | some (.sign '(' :: .sign ')' :: rest) => if hasRoom (callLevel atom) then some rest else none
  | _ => none

/-- The value at the end of a list of values, where none stands. -/
def listEnd? (level : Nat) (ts : List Token) : Option (List Value × List Token) :=
  if hasRoomForValue level then some ([], ts) else none

mutual

/-- The value of the atom that starts here and is no empty set. -/
def plainAtom? : (fuel atom : Nat) → List Token → Option (Value × List Token)
  | 0, _, _ => none
  | _ + 1, atom, .number i l :: ts => if hasRoom atom then some (.number i false l, ts) else none
  | _ + 1, atom, .text b :: ts =>
    if hasRoom (textLevel atom) then (textsEnd? b ts).map fun rest => (.fixed, rest) else none
  | _ + 1, atom, .constant :: ts => if hasRoom atom then some (.fixed, ts) else none
  | _ + 1, atom, .sign '(' :: .sign ')' :: ts =>
    if hasRoomForValue (roundLevels atom).first then some (.fixed, ts) else none
  | fuel + 1, atom, .sign '(' :: ts =>
    match values? fuel (roundLevels atom) ts with
    | some (v, .sign ')' :: rest) => some (v, rest)
    | _ => none
  | _ + 1, atom, .sign '\x7b' :: .sign '\x7d' :: ts =>
    if hasRoomForValue (braceLevels atom).first then some (.changing, ts) else none
  | fuel + 1, atom, .sign '\x7b' :: ts =>
    match members? fuel (braceLevels atom) ts with
    | some (.sign '\x7d' :: rest) => some (.changing, rest)
    | _ => none
  | _ + 1, _, _ => none

/-- The value of the atom that starts here. -/
def atom? : (fuel atom : Nat) → List Token → Option (Value × List Token)
  | 0, _, _ => none
  | fuel + 1, atom, ts =>
    match emptySetEnd? atom ts with
    | some rest => some (.changing, rest)
    | none => plainAtom? fuel atom ts

/-- The value that starts here, perhaps with a sign, each of which adds a level. -/
def signed? : (fuel atom : Nat) → List Token → Option (Value × List Token)
  | 0, _, _ => none
  | fuel + 1, atom, .sign c :: ts =>
    if c == '+' || c == '-' then
      match signed? fuel (atom + 1) ts with
      | some (v, rest) => v.signed?.map fun v => (v, rest)
      | none => none
    else atom? fuel atom (.sign c :: ts)
  | fuel + 1, atom, ts => atom? fuel atom ts

/-- The value that starts here, perhaps a sum. -/
def value? : (fuel level : Nat) → List Token → Option (Value × List Token)
  | 0, _, _ => none
  | fuel + 1, level, ts =>
    match signed? fuel (atomLevel level) ts with
    | some (v, .sign c :: rest) =>
      if c == '+' || c == '-' then
        match signed? fuel (atomLevel level) rest with
        | some (w, more) => (v.sum? w).map fun v => (v, more)
        | none => none
      else some (v, .sign c :: rest)
    | other => other

/-- The value that starts here: one value, or a tuple if a comma follows it. -/
def values? : (fuel : Nat) → Levels → List Token → Option (Value × List Token)
  | 0, _, _ => none
  | fuel + 1, levels, ts =>
    match value? fuel levels.first ts with
    | some (v, .sign ',' :: rest) =>
      (more? fuel levels.second levels.later rest).map fun (vs, r) => (.tuple (v :: vs), r)
    | other => other

/-- The values behind a comma: the next one at a level, and later ones at another. -/
def more? : (fuel level later : Nat) → List Token → Option (List Value × List Token)
  | 0, _, _, _ => none
  | _ + 1, level, _, [] => listEnd? level []
  | _ + 1, level, _, .lineEnd :: ts => listEnd? level (.lineEnd :: ts)
  | _ + 1, level, _, .sign ')' :: ts => listEnd? level (.sign ')' :: ts)
  | _ + 1, level, _, .sign '\x7d' :: ts => listEnd? level (.sign '\x7d' :: ts)
  | fuel + 1, level, later, ts =>
    match value? fuel level ts with
    | some (v, .sign ',' :: rest) =>
      (more? fuel later later rest).map fun (vs, r) => (v :: vs, r)
    | some (v, rest) => some ([v], rest)
    | none => none

/-- What follows the members of a set or the entries of a dictionary. -/
def members? : (fuel : Nat) → Levels → List Token → Option (List Token)
  | 0, _, _ => none
  | fuel + 1, levels, ts =>
    match value? fuel levels.first ts with
    | some (v, .sign ':' :: rest) =>
      if v.isFixed then entries? fuel levels.first levels.later rest else none
    | some (v, .sign ',' :: rest) =>
      match more? fuel levels.second levels.later rest with
      | some (vs, r) => if (v :: vs).all Value.isFixed then some r else none
      | none => none
    | some (v, rest) => if v.isFixed then some rest else none
    | none => none

/-- What follows the entries of a dictionary, behind the colon of the first one. -/
def entries? : (fuel level later : Nat) → List Token → Option (List Token)
  | 0, _, _, _ => none
  | fuel + 1, level, later, ts =>
    match value? fuel level ts with
    | some (_, .sign ',' :: .sign '\x7d' :: rest) =>
      if hasRoomForValue later then some (.sign '\x7d' :: rest) else none
    | some (_, .sign ',' :: rest) =>
      match value? fuel later rest with
      | some (k, .sign ':' :: more) => if k.isFixed then entries? fuel later later more else none
      | _ => none
    | some (_, rest) => some rest
    | none => none

end

/-- A text denotes a literal value. -/
def reads (s : List Char) : Bool :=
  let cs := Text.unifyLineEndsList s
  match if cs.contains (Char.ofNat 0) then none else tokens? cs with
  | none => false
  | some ts =>
    match values? (8 * ts.length + 8) outerLevels ts with
    | some (_, []) => true
    | some (_, [.lineEnd]) => true
    | _ => false

end PacketSmith.Markup.Literal
