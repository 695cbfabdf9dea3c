import PacketSmith.Fault
import PacketSmith.Json.Basic
import PacketSmith.Text.CodePoint
import PacketSmith.Text.Integer

/-!
# Reading JSON

A JSON document is read in one pass over its characters. Every fault names its place: the line, the
column and the offset of a character, counted in characters.

Each reader below returns the place after what it has read together with the fact that fewer
characters are left, so the recursion through nested arrays and objects ends by the number of
characters left.
-/

namespace PacketSmith.Json

/-- A place in a document: the characters before it, counted, and those after it. -/
structure Place where
  /-- How many characters have been read. -/
  offset : Nat
  /-- The characters that are left. -/
  rest : List Char

/-- A place with fewer characters left than at `p`. -/
abbrev Later (p : Place) := { q : Place // q.rest.length < p.rest.length }

/-- A fault and the offset where it was found. -/
abbrev Problem := JsonProblem × Nat

/-- What a reader that starts at `p` gives: a value and a later place, or a fault. -/
abbrev Outcome (α : Type) (p : Place) := Except Problem (α × Later p)

/-- The character may stand between the parts of a document. -/
def isGap (c : Char) : Bool :=
  c == ' ' || c == '\t' || c == '\n' || c == '\r'

/-- The place after the gap that starts here. -/
def skipGap (offset : Nat) : (cs : List Char) → { q : Place // q.rest.length ≤ cs.length }
  | [] => ⟨⟨offset, []⟩, Nat.le_refl _⟩
  | c :: cs =>
    if isGap c then
      let ⟨q, h⟩ := skipGap (offset + 1) cs
      ⟨q, Nat.le_succ_of_le h⟩
    else ⟨⟨offset, c :: cs⟩, Nat.le_refl _⟩

/-! ## Strings -/

/-- The character that an escape of one letter stands for. -/
def escaped? : Char → Option Char
  | '"' => some '"'
  | '\\' => some '\\'
  | '/' => some '/'
  | 'b' => some (Char.ofNat 0x08)
  | 'f' => some (Char.ofNat 0x0C)
  | 'n' => some '\n'
  | 'r' => some '\r'
  | 't' => some '\t'
  | _ => none

/-- The value of four hexadecimal digits, with at least one character behind them. -/
def fourDigits? : List Char → Option (Nat × List Char)
  | a :: b :: c :: d :: e :: rest => do
    let a ← Text.hexValue? a
    let b ← Text.hexValue? b
    let c ← Text.hexValue? c
    let d ← Text.hexValue? d
    return (((a * 16 + b) * 16 + c) * 16 + d, e :: rest)
  | _ => none

theorem fourDigits?_length {cs : List Char} {n : Nat} {rest : List Char}
    (h : fourDigits? cs = some (n, rest)) : rest.length < cs.length := by
  unfold fourDigits? at h
  split at h
  · simp only [Option.bind_eq_bind, Option.bind_eq_some_iff, Option.pure_def, Option.some.injEq,
      Prod.mk.injEq] at h
    obtain ⟨_, _, _, _, _, _, _, _, _, rfl⟩ := h
    simp only [List.length_cons]
    omega
  · simp at h

/-- The code point is the first half of a pair. -/
def isHighHalf (n : Nat) : Bool := 0xD800 ≤ n && n ≤ 0xDBFF

/-- The code point is the second half of a pair. -/
def isLowHalf (n : Nat) : Bool := 0xDC00 ≤ n && n ≤ 0xDFFF

/-- The character of two halves. -/
def joinHalves (high low : Nat) : Char :=
  Char.ofNat (0x10000 + (high - 0xD800) * 0x400 + (low - 0xDC00))

/-- The character of the code point that an escape at `offset` gives. A half that stands alone is no
character. -/
def charOf (offset n : Nat) : Except Problem Char :=
  if isHighHalf n || isLowHalf n then .error (.loneHalf, offset) else .ok (Char.ofNat n)

/-- The place behind an escape by code point, with the character it stands for. `offset` is that of
the backslash and `digits` what follows the letter. A first half takes the second half along if an
escape with a character behind it follows. -/
def unicodeEscape (offset : Nat) (digits : List Char) :
    Except Problem (Char × { q : Place // q.rest.length < digits.length }) :=
  match h : fourDigits? digits with
  | none => .error (.badUnicodeEscape, offset + 1)
  | some (n, '\\' :: 'u' :: more) =>
    have shorter := fourDigits?_length h
    let alone := (charOf offset n).map fun c => (c, ⟨⟨offset + 6, '\\' :: 'u' :: more⟩, shorter⟩)
    if !isHighHalf n || more.length < 5 then alone
    else
      match h' : fourDigits? more with
      | none => .error (.badUnicodeEscape, offset + 7)
      | some (m, rest) =>
        have shorter' := fourDigits?_length h'
        if isLowHalf m then
          .ok (joinHalves n m, ⟨⟨offset + 12, rest⟩, by
            have both := shorter
            simp only [List.length_cons] at both ⊢
            omega⟩)
        else alone
  | some (n, rest) =>
    (charOf offset n).map fun c => (c, ⟨⟨offset + 6, rest⟩, fourDigits?_length h⟩)

/-- The characters of a string up to its closing mark, and the place behind it. `start` is the
offset of the opening mark and `done` holds the characters so far, last first. -/
def stringFrom (start : Nat) (done : List Char) (offset : Nat) :
    (cs : List Char) → Except Problem (String × { q : Place // q.rest.length < cs.length })
  | [] => .error (.unterminatedString, start)
  | '"' :: rest => .ok (String.ofList done.reverse, ⟨⟨offset + 1, rest⟩, Nat.lt_succ_self _⟩)
  | '\\' :: [] => .error (.unterminatedString, start)
  | '\\' :: 'u' :: digits => do
    let (c, ⟨p, hp⟩) ← unicodeEscape offset digits
    let (s, ⟨q, hq⟩) ← stringFrom start (c :: done) p.offset p.rest
    return (s, ⟨q, by simp only [List.length_cons]; omega⟩)
  | '\\' :: c :: rest =>
    match escaped? c with
    | none => .error (.badEscape, offset)
    | some e => do
      let (s, ⟨q, hq⟩) ← stringFrom start (e :: done) (offset + 2) rest
      return (s, ⟨q, by simp only [List.length_cons]; omega⟩)
  | c :: rest =>
    if c.toNat < 0x20 then .error (.controlCharacter, offset)
    else do
      let (s, ⟨q, hq⟩) ← stringFrom start (c :: done) (offset + 1) rest
      return (s, ⟨q, by simp only [List.length_cons]; omega⟩)
termination_by cs => cs.length
decreasing_by all_goals simp only [List.length_cons] at *; omega

/-! ## Numbers -/

/-- The digits at the front and the characters behind them. -/
def spanDigits (cs : List Char) : List Char × List Char :=
  (cs.takeWhile Char.isDigit, cs.dropWhile Char.isDigit)

/-- The number of a run of plain digits. -/
def numberOf (ds : List Char) : Nat :=
  ds.foldl (fun n d => 10 * n + (d.toNat - 0x30)) 0

/-- The whole part of a number: a single zero, or digits that start with another one. -/
def wholeDigits? : List Char → Option (List Char × List Char)
  | '0' :: rest => some (['0'], rest)
  | c :: rest => if c.isDigit then some (spanDigits (c :: rest)) else none
  | [] => none

/-- The fraction of a number, if a point and a digit stand here. -/
def fraction? : List Char → Option (List Char × List Char)
  | '.' :: c :: rest => if c.isDigit then some (spanDigits (c :: rest)) else none
  | _ => none

/-- The digits of an exponent and its sign. -/
def signedExponent? (cs : List Char) : Option (Int × List Char) :=
  let (negative, digits) :=
    match cs with
    | '-' :: r => (true, r)
    | '+' :: r => (false, r)
    | r => (false, r)
  let (ds, rest) := spanDigits digits
  if ds.isEmpty then none
  else some (if negative then -(numberOf ds : Int) else numberOf ds, rest)

/-- The exponent of a number, if a letter `e` with digits stands here. -/
def exponent? : List Char → Option (Int × List Char)
  | 'e' :: rest => signedExponent? rest
  | 'E' :: rest => signedExponent? rest
  | _ => none

/-- The number of a sign, whole digits, and the characters behind them. A number with neither
fraction nor exponent is whole, and `none` if it has too many digits. -/
def numberFrom (negative : Bool) (whole rest : List Char) : Option Json × List Char :=
  match fraction? rest, exponent? ((fraction? rest).elim rest (·.2)) with
  | none, none =>
    let n : Int := numberOf whole
    (if whole.length ≤ Text.digitLimit then some (.int (if negative then -n else n)) else none,
      rest)
  | some (fs, rest), none =>
    (some (.float (.ofDecimal negative (numberOf (whole ++ fs)) (-(fs.length : Int)))), rest)
  | none, some (e, rest) =>
    (some (.float (.ofDecimal negative (numberOf whole) e)), rest)
  | some (fs, _), some (e, rest) =>
    (some (.float (.ofDecimal negative (numberOf (whole ++ fs)) (e - fs.length))), rest)

/-- The number that starts here, `none` inside if it has too many digits, and what is left behind
it. -/
def number? : List Char → Option (Option Json × List Char)
  | '-' :: cs => (wholeDigits? cs).map fun (w, rest) => numberFrom true w rest
  | cs => (wholeDigits? cs).map fun (w, rest) => numberFrom false w rest

/-! ## Words -/

/-- The values that are written as words. -/
def words : List (List Char × Json) := [
  ("null".toList, .null),
  ("true".toList, .bool true),
  ("false".toList, .bool false),
  ("NaN".toList, .float .nan),
  ("Infinity".toList, .float (.infinite false)),
  ("-Infinity".toList, .float (.infinite true))]

/-- The word or number that starts here, and the place behind it. -/
def scalarAt (p : Place) : Outcome Json p :=
  match words.find? fun w => w.1.isPrefixOf p.rest && !w.1.isEmpty with
  | some (w, v) =>
    let rest := p.rest.drop w.length
    if h : rest.length < p.rest.length then .ok (v, ⟨⟨p.offset + w.length, rest⟩, h⟩)
    else .error (.expectingValue, p.offset)
  | none =>
    match number? p.rest with
    | some (none, _) => .error (.longNumber, p.offset)
    | some (some v, rest) =>
      if h : rest.length < p.rest.length then
        .ok (v, ⟨⟨p.offset + (p.rest.length - rest.length), rest⟩, h⟩)
      else .error (.expectingValue, p.offset)
    | none => .error (.expectingValue, p.offset)

/-! ## Values -/

mutual

/-- The value that starts here. -/
def valueAt (p : Place) : Outcome Json p :=
  match hp : p.rest with
  | '"' :: cs => do
    let (s, ⟨q, hq⟩) ← stringFrom p.offset [] (p.offset + 1) cs
    return (.string s, ⟨q, by rw [hp, List.length_cons]; omega⟩)
  | '[' :: cs =>
    let ⟨q, hq⟩ := skipGap (p.offset + 1) cs
    match hr : q.rest with
    | ']' :: rest =>
      .ok (.array [], ⟨⟨q.offset + 1, rest⟩, by
        rw [hp]; rw [hr] at hq; simp only [List.length_cons] at *; omega⟩)
    | _ => do
      let (items, ⟨r, h⟩) ← itemsAt [] q
      return (.array items, ⟨r, by rw [hp, List.length_cons]; omega⟩)
  | '\x7b' :: cs =>
    let ⟨q, hq⟩ := skipGap (p.offset + 1) cs
    match hr : q.rest with
    | '\x7d' :: rest =>
      .ok (.object [], ⟨⟨q.offset + 1, rest⟩, by
        rw [hp]; rw [hr] at hq; simp only [List.length_cons] at *; omega⟩)
    | _ => do
      let (members, ⟨r, h⟩) ← membersAt [] q
      return (.object members, ⟨r, by rw [hp, List.length_cons]; omega⟩)
  | _ => scalarAt p
termination_by (p.rest.length, 0)
decreasing_by
  all_goals
    apply Prod.Lex.left
    rw [hp, List.length_cons]
    omega

/-- The items of an array from here to its closing bracket; `done` holds the items before. -/
def itemsAt (done : List Json) (p : Place) : Outcome (List Json) p := do
  let (v, ⟨q, hq⟩) ← valueAt p
  let ⟨r, hr⟩ := skipGap q.offset q.rest
  match h : r.rest with
  | ']' :: rest =>
    return (done ++ [v], ⟨⟨r.offset + 1, rest⟩, by
      rw [h] at hr; simp only [List.length_cons] at hr ⊢; omega⟩)
  | ',' :: rest =>
    let ⟨s, hs⟩ := skipGap (r.offset + 1) rest
    have shorter : s.rest.length < p.rest.length := by
      rw [h] at hr; simp only [List.length_cons] at hr; omega
    let (items, ⟨t, ht⟩) ← itemsAt (done ++ [v]) s
    return (items, ⟨t, by omega⟩)
  | _ => .error (.expectingComma, r.offset)
termination_by (p.rest.length, 1)
decreasing_by
  · exact Prod.Lex.right _ (by omega)
  · exact Prod.Lex.left _ _ shorter

/-- The members of an object from here to its closing brace; `done` holds the members before. -/
def membersAt (done : List (String × Json)) (p : Place) : Outcome (List (String × Json)) p :=
  match hp : p.rest with
  | '"' :: cs => do
    let (name, ⟨q, hq⟩) ← stringFrom p.offset [] (p.offset + 1) cs
    let ⟨r, hr⟩ := skipGap q.offset q.rest
    match h : r.rest with
    | ':' :: rest =>
      let ⟨s, hs⟩ := skipGap (r.offset + 1) rest
      have shorter : s.rest.length < p.rest.length := by
        rw [hp]; rw [h] at hr; simp only [List.length_cons] at *; omega
      let (v, ⟨t, ht⟩) ← valueAt s
      let ⟨u, hu⟩ := skipGap t.offset t.rest
      match hw : u.rest with
      | '\x7d' :: rest =>
        return (insert name v done, ⟨⟨u.offset + 1, rest⟩, by
          rw [hw] at hu; simp only [List.length_cons] at hu ⊢; omega⟩)
      | ',' :: rest =>
        let ⟨w, hw'⟩ := skipGap (u.offset + 1) rest
        have shorter' : w.rest.length < p.rest.length := by
          rw [hw] at hu; simp only [List.length_cons] at hu; omega
        let (members, ⟨x, hx⟩) ← membersAt (insert name v done) w
        return (members, ⟨x, by omega⟩)
      | _ => .error (.expectingComma, u.offset)
    | _ => .error (.expectingColon, r.offset)
  | _ => .error (.expectingName, p.offset)
termination_by (p.rest.length, 1)
decreasing_by
  · exact Prod.Lex.left _ _ shorter
  · exact Prod.Lex.left _ _ shorter'

end

/-! ## Documents -/

/-- The line and the column of an offset, both counted from one. -/
def lineAndColumn (text : List Char) (offset : Nat) : Nat × Nat :=
  let before := text.take offset
  (1 + before.count '\n', 1 + (before.reverse.takeWhile (· != '\n')).length)

/-- The one value that the characters hold, with gaps around it. -/
def readDocument (cs : List Char) : Except Problem Json :=
  match cs with
  | c :: _ =>
    if c.toNat == 0xFEFF then .error (.byteOrderMark, 0) else do
      let ⟨p, _⟩ := skipGap 0 cs
      let (v, ⟨q, _⟩) ← valueAt p
      let ⟨r, _⟩ := skipGap q.offset q.rest
      if r.rest.isEmpty then .ok v else .error (.extraData, r.offset)
  | [] => .error (.expectingValue, 0)

/-- The value of a JSON document. -/
def read (s : String) : Except Fault Json :=
  match readDocument s.toList with
  | .ok v => .ok v
  | .error (problem, offset) =>
    let (line, column) := lineAndColumn s.toList offset
    .error (.notJson problem line column offset)

end PacketSmith.Json
