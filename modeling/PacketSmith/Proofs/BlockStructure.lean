import PacketSmith.Proofs.MessageLayout
import PacketSmith.Proofs.Script.Lexing

/-!
# Blocks and scopes in generated code

What it means for lines of text to be code in blocks. `net` counts the blocks that characters open
and leave open. Lines are `IsWellScoped` if each is indented by the blocks around it, no block is
closed that was not opened, none is left open, and each temporary that a line mentions is declared
by that line or by one before it, in a block that is still open.

All of this speaks about texts: braces are counted, names are cut out of lines, and declarations are
told by their form. `IsCode` is the grammar that generated code follows, a line or a loop at a time,
and every text of that grammar is well scoped (`IsCode.isWellScoped`).
-/

namespace PacketSmith.Code

open PacketSmith.TypeName (isNamePart)
open PacketSmith.Script (numbered isWord)

/-! ### Temporaries in texts -/

/-- The words that the variables of generated code are named by, before a number. -/
def temporaryWords : List String := ["element", "key", "value", "result", "size", "index"]

/-- The text is the name of a temporary: one of the words and a number. -/
def isTemporary (x : String) : Bool :=
  temporaryWords.contains (String.ofList (x.toList.takeWhile fun c => !c.isDigit)) &&
    !(x.toList.dropWhile fun c => !c.isDigit).isEmpty &&
    (x.toList.dropWhile fun c => !c.isDigit).all Char.isDigit

/-- The names in a text: the longest runs of characters that names are made of. -/
def names (s : String) : List String :=
  (s.toList.splitOnP fun c => !isNamePart c).map String.ofList

/-- The temporaries that a text mentions, in order. -/
def temporaries (s : String) : List String := (names s).filter isTemporary

/-- No name goes on from before the text into it. -/
def startsApart (s : String) : Bool := s.toList.head?.any (!isNamePart ·)

/-- No name goes on from the text to what is behind it. -/
def endsApart (s : String) : Bool := s.toList.getLast?.any (!isNamePart ·)

/-- No name goes over a character that is no part of one. -/
theorem temporaries_split (a b : List Char) {c : Char} (h : (!isNamePart c) = true) :
    temporaries (String.ofList (a ++ c :: b)) =
      temporaries (String.ofList a) ++ temporaries (String.ofList b) := by
  unfold temporaries names
  simp only [String.toList_ofList]
  rw [List.splitOnP_append_cons (p := fun c => !isNamePart c) _ _ h, List.map_append, List.filter_append]

/-- The temporaries of two texts, where the second starts with no part of a name. -/
theorem temporaries_append_left (a : String) {b : String} (h : startsApart b = true) :
    temporaries (a ++ b) = temporaries a ++ temporaries b := by
  unfold startsApart at h
  obtain ⟨as, rfl⟩ := a.exists_eq_ofList
  obtain ⟨bs, rfl⟩ := b.exists_eq_ofList
  cases bs with
  | nil => simp at h
  | cons c cs =>
    have apart : (!isNamePart c) = true := by simpa using h
    have second := temporaries_split [] cs apart
    rw [List.nil_append, show temporaries (String.ofList []) = [] from rfl, List.nil_append] at second
    rw [← String.ofList_append, temporaries_split as cs apart, second]

/-- The temporaries of two texts, where the first ends with no part of a name. -/
theorem temporaries_append_right {a : String} (h : endsApart a = true) (b : String) :
    temporaries (a ++ b) = temporaries a ++ temporaries b := by
  unfold endsApart at h
  obtain ⟨as, rfl⟩ := a.exists_eq_ofList
  obtain ⟨bs, rfl⟩ := b.exists_eq_ofList
  cases as using List.reverseRecOn with
  | nil => simp at h
  | append_singleton cs c =>
    have apart : (!isNamePart c) = true := by simpa using h
    have first := temporaries_split cs [] apart
    rw [show temporaries (String.ofList []) = [] from rfl, List.append_nil] at first
    rw [← String.ofList_append, List.append_assoc, List.singleton_append,
      temporaries_split cs bs apart, first]

/-- What a list is cut into has no other elements. -/
theorem subset_of_mem_splitOnP {p : Char → Bool} {cs x : List Char} (h : x ∈ cs.splitOnP p) :
    x ⊆ cs := by
  induction cs generalizing x with
  | nil => simp_all
  | cons c cs ih =>
    rw [List.splitOnP_cons_eq_if_modifyHead] at h
    by_cases cut : p c = true
    · rw [if_pos cut] at h
      rcases List.mem_cons.mp h with rfl | behind
      · simp
      · exact List.Subset.trans (ih behind) (List.subset_cons_self c cs)
    · rw [if_neg cut] at h
      cases parts : cs.splitOnP p with
      | nil => simp [parts] at h
      | cons y ys =>
        rw [parts, List.modifyHead_cons] at h
        rcases List.mem_cons.mp h with rfl | behind
        · exact List.cons_subset_cons c (ih (by simp [parts]))
        · have inside : x ∈ cs.splitOnP p := by simp [parts, behind]
          exact List.Subset.trans (ih inside) (List.subset_cons_self c cs)

/-- A text without digits mentions no temporaries. -/
theorem temporaries_of_isWord {s : String} (h : isWord s = true) : temporaries s = [] := by
  refine List.filter_eq_nil_iff.mpr fun x mem temporary => ?_
  obtain ⟨cs, cut, rfl⟩ := List.mem_map.mp mem
  have none : ∀ c ∈ cs, (!c.isDigit) = true := fun c inside =>
    List.all_eq_true.mp h c (subset_of_mem_splitOnP cut inside)
  simp [isTemporary, List.dropWhile_eq_nil_iff.mpr none] at temporary

/-- A text that is a part of a name has itself as its only name. -/
theorem names_of_all {s : String} (h : s.toList.all isNamePart = true) : names s = [s] := by
  have inside : ∀ c ∈ s.toList, (!isNamePart c) = false := by simpa using h
  rw [names, List.splitOnP_eq_singleton inside, List.map_singleton, String.ofList_toList]

/-- The name of a variable is a temporary. -/
theorem isTemporary_numbered {word : String} (h : word ∈ temporaryWords) (n : Nat) :
    isTemporary (numbered word n) = true := by
  have isWord : isWord word = true := by
    have all : ∀ w ∈ temporaryWords, isWord w = true := by decide
    exact all word h
  obtain ⟨c, cs, digits, first⟩ := Script.exists_digit n
  have rest : (numbered word n).toList.dropWhile (fun c => !c.isDigit) = c :: cs := by
    rw [Script.toList_numbered, List.dropWhile_append_of_pos (List.all_eq_true.mp isWord), digits]
    simp [first]
  have all : (c :: cs).all Char.isDigit = true := by
    rw [← digits, List.all_eq_true]
    exact fun d mem => Nat.isDigit_of_mem_toDigits (by decide) le_rfl mem
  rw [isTemporary, Script.takeWhile_numbered isWord, rest, all, String.ofList_toList]
  simp [h]

/-- A variable mentions itself. -/
theorem temporaries_numbered {word : String} (h : word ∈ temporaryWords) (n : Nat) :
    temporaries (numbered word n) = [numbered word n] := by
  have parts : word.toList.all isNamePart = true := by
    have all : ∀ w ∈ temporaryWords, w.toList.all isNamePart = true := by decide
    exact all word h
  have whole : (numbered word n).toList.all isNamePart = true := by
    rw [Script.toList_numbered, List.all_append, parts, Script.all_isNamePart_toDigits]
    rfl
  rw [temporaries, names_of_all whole, List.filter_singleton, isTemporary_numbered h]
  rfl

/-! ### Declarations in texts -/

/-- The line declares a variable: in C++ behind its type, in TypeScript as a constant. In C++, what
is returned looks like what is declared. -/
inductive Declares : Target → String → String → Prop where
  | bare {type x : String} : TypeName.IsPlainText type → type ≠ "return" →
      Declares .cpp (type ++ " " ++ x ++ ";") x
  | given {type x value : String} : TypeName.IsPlainText type → type ≠ "return" →
      Declares .cpp (type ++ " " ++ x ++ " = " ++ value ++ ";") x
  | constant {x value : String} : Declares .typescript ("const " ++ x ++ " = " ++ value ++ ";") x

/-- How the header of a loop over a container starts. -/
def eachStart : Target → String
  | .cpp => "for (const auto &"
  | .typescript => "for (const "

/-- What stands between the variables of a loop and its container. -/
def eachMiddle : Target → String
  | .cpp => " : "
  | .typescript => " of "

/-- How the header of a loop that counts starts. -/
def countStart : Target → String
  | .cpp => "for (int "
  | .typescript => "for (let "

/-- The line is the header of a loop and declares a variable for it. -/
inductive DeclaresForLoop (t : Target) : String → String → Prop where
  | element {x source : String} :
      DeclaresForLoop t (eachStart t ++ x ++ eachMiddle t ++ source ++ ") \x7b") x
  | key {x y source : String} :
      DeclaresForLoop t (eachStart t ++ "[" ++ x ++ ", " ++ y ++ "]" ++ eachMiddle t ++ source ++
        ") \x7b") x
  | value {x y source : String} :
      DeclaresForLoop t (eachStart t ++ "[" ++ x ++ ", " ++ y ++ "]" ++ eachMiddle t ++ source ++
        ") \x7b") y
  | index {x rest : String} :
      DeclaresForLoop t (countStart t ++ x ++ " = 0; " ++ rest ++ ") \x7b") x

/-- The line, whatever its indentation, declares the variable. -/
def IsDeclaredBy (t : Target) (s x : String) : Prop :=
  ∃ depth u, s = indent depth ++ u ∧ (Declares t u x ∨ DeclaresForLoop t u x)

/-! ### Blocks -/

/-- The blocks that are opened less those that are closed. -/
def net (cs : List Char) : Int := cs.count '\x7b' - cs.count '\x7d'

@[simp] theorem net_nil : net [] = 0 := rfl

@[simp] theorem net_append (a b : List Char) : net (a ++ b) = net a + net b := by
  simp only [net, List.count_append]
  omega

/-- No block is closed that was not opened before, and none is left open. -/
structure IsBalanced (cs : List Char) : Prop where
  /-- What is closed was opened. -/
  sane : ∀ pre, pre <+: cs → 0 ≤ net pre
  /-- What is opened is closed. -/
  settled : net cs = 0

/-- A start of two texts ends in one of them. -/
theorem prefix_append_cases {α : Type} {pre a b : List α} (h : pre <+: a ++ b) :
    pre <+: a ∨ ∃ rest, rest <+: b ∧ pre = a ++ rest := by
  rcases List.prefix_or_prefix_of_prefix h (List.prefix_append a b) with inside | ⟨rest, rfl⟩
  · exact .inl inside
  · exact .inr ⟨rest, (List.prefix_append_right_inj a).mp h, rfl⟩

namespace IsBalanced

/-- One text behind another. -/
theorem append {a b : List Char} (ha : IsBalanced a) (hb : IsBalanced b) :
    IsBalanced (a ++ b) where
  sane pre h := by
    rcases prefix_append_cases h with inside | ⟨rest, behind, rfl⟩
    · exact ha.sane pre inside
    · rw [net_append, ha.settled, Int.zero_add]
      exact hb.sane rest behind
  settled := by rw [net_append, ha.settled, hb.settled, Int.zero_add]

/-- A text without braces. -/
theorem of_not_mem {cs : List Char} (opened : '\x7b' ∉ cs) (closed : '\x7d' ∉ cs) :
    IsBalanced cs where
  sane pre h := by
    have none := List.count_eq_zero.mpr fun mem => closed (h.subset mem)
    simp [net, none]
  settled := by
    simp [net, List.count_eq_zero.mpr opened, List.count_eq_zero.mpr closed]

/-- A text between braces. -/
theorem braces {cs : List Char} (h : IsBalanced cs) : IsBalanced ('\x7b' :: cs ++ ['\x7d']) where
  sane pre inside := by
    have opening : net ['\x7b'] = 1 := by decide
    have closing : net ['\x7d'] = -1 := by decide
    rcases prefix_append_cases inside with early | ⟨rest, behind, rfl⟩
    · rcases prefix_append_cases (a := ['\x7b']) early with short | ⟨rest, behind, rfl⟩
      · rcases List.prefix_cons_iff.mp short with rfl | ⟨more, rfl, none⟩
        · rfl
        · rw [List.prefix_nil.mp none]
          decide
      · have inner := h.sane rest behind
        rw [net_append, opening]
        omega
    · have whole := h.settled
      rw [← List.singleton_append, net_append, net_append, opening, whole]
      rcases List.prefix_cons_iff.mp behind with rfl | ⟨more, rfl, none⟩
      · decide
      · rw [List.prefix_nil.mp none, closing]
        decide
  settled := by
    have whole := h.settled
    rw [← List.singleton_append, net_append, net_append, whole]
    decide

end IsBalanced

/-! ### Lines -/

/-- The characters of lines. -/
def chars (ss : List String) : List Char := ss.flatMap String.toList

@[simp] theorem chars_nil : chars [] = [] := rfl

@[simp] theorem chars_cons (s : String) (ss : List String) :
    chars (s :: ss) = s.toList ++ chars ss := rfl

@[simp] theorem chars_append (ss us : List String) : chars (ss ++ us) = chars ss ++ chars us :=
  List.flatMap_append

/-- The characters of the first lines come first. -/
theorem chars_mono {ss us : List String} (h : ss <+: us) : chars ss <+: chars us := by
  obtain ⟨rest, rfl⟩ := h
  rw [chars_append]
  exact List.prefix_append _ _

/-- How many blocks are around a line: those that are open before it and still open behind it. -/
def blocksAround (before : List String) (s : String) : Int :=
  min (net (chars before)) (net (chars (before ++ [s])))

/-- Blocks that lines further ahead leave open are around a line as well. -/
theorem blocksAround_append (first before : List String) (s : String) :
    blocksAround (first ++ before) s = net (chars first) + blocksAround before s := by
  unfold blocksAround
  simp only [chars_append, net_append]
  omega

/-- Around the first line, no block can be open before it. -/
theorem blocksAround_nil (s : String) : blocksAround [] s = min 0 (net s.toList) := by
  simp [blocksAround]

/-- Every line has the property, with the lines before it. -/
def EachLine (P : List String → String → Prop) (ss : List String) : Prop :=
  ∀ before s after, ss = before ++ s :: after → P before s

section EachLine

variable {P Q : List String → String → Prop} {s : String} {ss us : List String}

theorem eachLine_nil : EachLine P [] := by
  intro before s after same
  simp at same

theorem eachLine_cons :
    EachLine P (s :: ss) ↔ P [] s ∧ EachLine (fun before => P (s :: before)) ss := by
  constructor
  · intro h
    exact ⟨h [] s ss rfl, fun before u after same => h (s :: before) u after (by simp [same])⟩
  · rintro ⟨first, rest⟩ before u after same
    cases before with
    | nil =>
      obtain ⟨rfl, -⟩ := List.cons.inj same
      exact first
    | cons v before =>
      obtain ⟨rfl, behind⟩ := List.cons.inj same
      exact rest before u after behind

theorem eachLine_append :
    EachLine P (ss ++ us) ↔ EachLine P ss ∧ EachLine (fun before => P (ss ++ before)) us := by
  induction ss generalizing P with
  | nil => simp [eachLine_nil]
  | cons s ss ih => simp only [List.cons_append, eachLine_cons, ih, and_assoc]

theorem EachLine.mono (h : EachLine P ss)
    (more : ∀ before s, before <+: ss → P before s → Q before s) : EachLine Q ss := by
  rintro before s after rfl
  exact more before s (List.prefix_append _ _) (h before s after rfl)

end EachLine

/-! ### Scopes -/

/-- A line further ahead declares the variable, and the block it does so in is still open: no more
blocks are closed behind it than are opened there. -/
def IsVisible (t : Target) (before : List String) (x : String) : Prop :=
  ∃ first s between, before = first ++ s :: between ∧ IsDeclaredBy t s x ∧
    ∀ pre, pre <+: chars between → 0 ≤ net pre

/-- What is visible stays so behind more lines ahead. -/
theorem IsVisible.behind {t : Target} {before : List String} {x : String}
    (h : IsVisible t before x) (more : List String) : IsVisible t (more ++ before) x := by
  obtain ⟨first, s, between, rfl, rest⟩ := h
  exact ⟨more ++ first, s, between, by simp, rest⟩

/-- The lines are code in blocks, from a depth on. The temporaries that a line mentions are given, or
declared by it or in a block around it, unless they are names of types in a declaration. -/
structure IsWellScoped (t : Target) (given types : Set String) (depth : Int) (ss : List String) :
    Prop where
  /-- No line goes on behind a line end. -/
  whole : ∀ s ∈ ss, '\n' ∉ s.toList
  /-- Where lines start. -/
  indented : EachLine (fun before s =>
    ∃ u, startsTight u = true ∧ s = indent (depth + blocksAround before s) ++ u) ss
  /-- Every block is opened and closed. -/
  balanced : IsBalanced (chars ss)
  /-- Where variables are declared. -/
  declared : EachLine (fun before s => ∀ x ∈ temporaries s,
    x ∈ given ∨ IsDeclaredBy t s x ∨ IsVisible t before x ∨
      x ∈ types ∧ ∃ y k u, s = indent k ++ u ∧ Declares t u y) ss

/-- The text has no braces and no line ends. -/
def isFlat (s : String) : Bool :=
  s.toList.all fun c => c != '\x7b' && c != '\x7d' && c != '\n'

/-- The text is a line of its own that declares some variables, with others in scope. -/
structure IsPlain (t : Target) (types scope vars : Set String) (u : String) : Prop where
  tight : startsTight u = true
  ends : endsTight u = true
  flat : isFlat u = true
  declares : ∀ x ∈ vars, Declares t u x
  mentions : ∀ x ∈ temporaries u, x ∈ scope ∨ x ∈ vars ∨ x ∈ types ∧ vars.Nonempty

/-- The text is the header of a loop that declares some variables, with others in scope. -/
structure IsHeader (t : Target) (scope vars : Set String) (u : String) : Prop where
  tight : startsTight u = true
  opens : ∃ v, u = v ++ "\x7b" ∧ isFlat v = true
  declares : ∀ x ∈ vars, DeclaresForLoop t u x
  mentions : ∀ x ∈ temporaries u, x ∈ scope ∨ x ∈ vars

/-- A loop at a depth: its header, its body and the brace that closes it. -/
def loopLines (depth : Int) (u : String) (body : List String) : List String :=
  (indent depth ++ u) :: (body ++ [indent depth ++ "\x7d"])

/-- Code at a depth: lines and loops, with variables in scope and variables that its own lines
declare outside its loops. -/
inductive IsCode (t : Target) (types : Set String) :
    Set String → Int → List String → Set String → Prop where
  | nil {scope : Set String} {depth : Int} : IsCode t types scope depth [] ∅
  | line {scope vars own : Set String} {depth : Int} {u : String} {rest : List String} :
      IsPlain t types scope vars u → IsCode t types (vars ∪ scope) depth rest own →
      IsCode t types scope depth ((indent depth ++ u) :: rest) (vars ∪ own)
  | loop {scope vars inner own : Set String} {depth : Int} {u : String} {body rest : List String} :
      IsHeader t scope vars u → IsCode t types (vars ∪ scope) (depth + 1) body inner →
      IsCode t types scope depth rest own →
      IsCode t types scope depth (loopLines depth u body ++ rest) own

/-! ### What code in blocks is like -/

/-- A flat text has none of the characters that structure code. -/
theorem not_mem_of_isFlat {s : String} (h : isFlat s = true) :
    '\x7b' ∉ s.toList ∧ '\x7d' ∉ s.toList ∧ '\n' ∉ s.toList := by
  have chars := List.all_eq_true.mp h
  refine ⟨fun mem => ?_, fun mem => ?_, fun mem => ?_⟩ <;>
    exact absurd (chars _ mem) (by decide)

/-- Flat texts stay so when they are put together. -/
theorem isFlat_append {a b : String} (ha : isFlat a = true) (hb : isFlat b = true) :
    isFlat (a ++ b) = true := by
  unfold isFlat at *
  rw [String.toList_append, List.all_append, ha, hb]
  rfl

/-- Indentation is flat. -/
theorem isFlat_indent (depth : Int) : isFlat (indent depth) = true := by
  unfold isFlat indent
  rw [String.toList_ofList, List.all_eq_true]
  intro c mem
  rw [List.eq_of_mem_replicate mem]
  decide

/-- Indentation mentions no temporaries. -/
theorem temporaries_indent (depth : Int) (u : String) :
    temporaries (indent depth ++ u) = temporaries u := by
  have blanks : ∀ k, temporaries (String.ofList (List.replicate k ' ') ++ u) = temporaries u := by
    intro k
    induction k with
    | zero => simp
    | succ k ih =>
      rw [List.replicate_succ, ← List.singleton_append, String.ofList_append, String.append_assoc,
        temporaries_append_right (by decide), ih]
      rfl
  exact blanks _

/-- A flat text is balanced. -/
theorem IsBalanced.of_isFlat {s : String} (h : isFlat s = true) : IsBalanced s.toList :=
  .of_not_mem (not_mem_of_isFlat h).1 (not_mem_of_isFlat h).2.1

section Lines

variable {t : Target} {types scope vars own : Set String} {depth : Int} {u : String}

/-- A header leaves one block open. -/
theorem IsHeader.net (h : IsHeader t scope vars u) (depth : Int) :
    Code.net (indent depth ++ u).toList = 1 := by
  obtain ⟨v, rfl, flat⟩ := h.opens
  rw [String.toList_append, net_append, String.toList_append, net_append,
    (IsBalanced.of_isFlat (isFlat_indent depth)).settled, (IsBalanced.of_isFlat flat).settled]
  decide

/-- A line that closes a block closes one. -/
theorem net_close (depth : Int) : net (indent depth ++ "\x7d").toList = -1 := by
  rw [String.toList_append, net_append, (IsBalanced.of_isFlat (isFlat_indent depth)).settled]
  decide

/-- A line of its own is balanced. -/
theorem IsPlain.isBalanced (h : IsPlain t types scope vars u) (depth : Int) :
    IsBalanced (indent depth ++ u).toList :=
  .of_isFlat (isFlat_append (isFlat_indent depth) h.flat)

/-- A loop is balanced if its body is. -/
theorem IsHeader.isBalanced (h : IsHeader t scope vars u) {body : List String}
    (inside : IsBalanced (chars body)) (depth : Int) :
    IsBalanced (chars (loopLines depth u body)) := by
  obtain ⟨v, rfl, flat⟩ := h.opens
  have blanks := IsBalanced.of_isFlat (isFlat_indent depth)
  have front := IsBalanced.of_isFlat (isFlat_append (isFlat_indent depth) flat)
  have whole := front.append (inside.append blanks).braces
  simpa [loopLines] using whole

end Lines

namespace IsCode

variable {t : Target} {types scope own : Set String} {depth : Int} {ss : List String}

/-- Every block of the code is opened and closed. -/
theorem isBalanced (h : IsCode t types scope depth ss own) : IsBalanced (chars ss) := by
  induction h with
  | nil => exact .of_not_mem (by simp) (by simp)
  | line plain _ ih => exact (plain.isBalanced _).append ih
  | loop header _ _ inside behind =>
    rw [chars_append]
    exact (header.isBalanced inside _).append behind

/-- No line of the code goes on behind a line end. -/
theorem whole (h : IsCode t types scope depth ss own) : ∀ s ∈ ss, '\n' ∉ s.toList := by
  have flat : ∀ {s : String}, isFlat s = true → '\n' ∉ s.toList := fun h => (not_mem_of_isFlat h).2.2
  induction h with
  | nil => simp
  | line plain _ ih =>
    exact List.forall_mem_cons.mpr ⟨flat (isFlat_append (isFlat_indent _) plain.flat), ih⟩
  | @loop scope vars inner own depth u body rest header _ _ inside behind =>
    obtain ⟨v, rfl, plain⟩ := header.opens
    have front := flat (isFlat_append (isFlat_indent depth) plain)
    have back := flat (isFlat_indent depth)
    intro s mem
    simp only [loopLines, List.mem_cons, List.mem_append, List.not_mem_nil, or_false] at mem
    rcases mem with (rfl | mem | rfl) | mem
    · rw [← String.append_assoc, String.toList_append]
      simpa using front
    · exact inside s mem
    · rw [String.toList_append]
      simpa using back
    · exact behind s mem

/-- Lines of the code are indented by the blocks around them. -/
theorem indented (h : IsCode t types scope depth ss own) : EachLine (fun before s =>
    ∃ u, startsTight u = true ∧ s = indent (depth + blocksAround before s) ++ u) ss := by
  induction h with
  | nil => exact eachLine_nil
  | @line scope vars own depth u rest plain code ih =>
    have level := (plain.isBalanced depth).settled
    refine eachLine_cons.mpr ⟨⟨u, plain.tight, ?_⟩, ih.mono ?_⟩
    · rw [blocksAround_nil, level, min_self, Int.add_zero]
    · rintro before s - ⟨v, tight, same⟩
      have around := blocksAround_append [indent depth ++ u] before s
      rw [chars_cons, chars_nil, List.append_nil, level, Int.zero_add] at around
      refine ⟨v, tight, ?_⟩
      rw [← List.singleton_append, around]
      exact same
  | @loop scope vars inner own depth u body rest header code more inside behind =>
    have opened := header.net depth
    have level := code.isBalanced.settled
    refine eachLine_append.mpr ⟨eachLine_cons.mpr ⟨⟨u, header.tight, ?_⟩,
      eachLine_append.mpr ⟨inside.mono ?_, eachLine_cons.mpr ⟨⟨"\x7d", by decide, ?_⟩,
        eachLine_nil⟩⟩⟩, behind.mono ?_⟩
    · rw [blocksAround_nil, opened, min_eq_left (by decide), Int.add_zero]
    · rintro before s - ⟨v, tight, same⟩
      have around := blocksAround_append [indent depth ++ u] before s
      rw [chars_cons, chars_nil, List.append_nil, opened] at around
      refine ⟨v, tight, ?_⟩
      rw [← List.singleton_append, around, ← Int.add_assoc]
      exact same
    · have around := blocksAround_append ((indent depth ++ u) :: body) [] (indent depth ++ "\x7d")
      rw [blocksAround_nil, net_close, chars_cons, net_append, opened, level] at around
      rw [List.append_nil] at around ⊢
      rw [around, min_eq_right (by decide), show (1 + 0 + -1 : Int) = 0 from rfl, Int.add_zero]
    · rintro before s - ⟨v, tight, same⟩
      have around := blocksAround_append (loopLines depth u body) before s
      rw [(header.isBalanced code.isBalanced depth).settled, Int.zero_add] at around
      exact ⟨v, tight, by rw [around]; exact same⟩

/-- What lines of the code mention is in scope, or declared by the line or in a block around it. -/
theorem declared (h : IsCode t types scope depth ss own) : EachLine (fun before s =>
    ∀ x ∈ temporaries s, x ∈ scope ∨ IsDeclaredBy t s x ∨ IsVisible t before x ∨
      x ∈ types ∧ ∃ y k u, s = indent k ++ u ∧ Declares t u y) ss := by
  induction h with
  | nil => exact eachLine_nil
  | @line scope vars own depth u rest plain code ih =>
    refine eachLine_cons.mpr ⟨fun x mem => ?_, ih.mono ?_⟩
    · rw [temporaries_indent] at mem
      rcases plain.mentions x mem with inScope | var | ⟨type, y, isVar⟩
      · exact .inl inScope
      · exact .inr <| .inl ⟨depth, u, rfl, .inl (plain.declares x var)⟩
      · exact .inr <| .inr <| .inr ⟨type, y, depth, u, rfl, plain.declares y isVar⟩
    · intro before s start known x mem
      rcases known x mem with (var | inScope) | byLine | visible | type
      · -- the line itself declares the variable, and no block around it has been closed since
        refine .inr <| .inr <| .inl ⟨[], _, before, rfl, ⟨depth, u, rfl, .inl (plain.declares x var)⟩,
          fun pre inside => code.isBalanced.sane pre (inside.trans (chars_mono start))⟩
      · exact .inl inScope
      · exact .inr <| .inl byLine
      · exact .inr <| .inr <| .inl (visible.behind [_])
      · exact .inr <| .inr <| .inr type
  | @loop scope vars inner own depth u body rest header code more inside behind =>
    refine eachLine_append.mpr ⟨eachLine_cons.mpr ⟨fun x mem => ?_,
      eachLine_append.mpr ⟨inside.mono ?_, eachLine_cons.mpr ⟨fun x mem => ?_, eachLine_nil⟩⟩⟩,
      behind.mono ?_⟩
    · rw [temporaries_indent] at mem
      rcases header.mentions x mem with inScope | var
      · exact .inl inScope
      · exact .inr <| .inl ⟨depth, u, rfl, .inr (header.declares x var)⟩
    · intro before s start known x mem
      rcases known x mem with (var | inScope) | byLine | visible | type
      · -- the block that the header opens is not closed inside the body
        refine .inr <| .inr <| .inl ⟨[], _, before, rfl, ⟨depth, u, rfl, .inr (header.declares x var)⟩,
          fun pre inside => code.isBalanced.sane pre (inside.trans (chars_mono start))⟩
      · exact .inl inScope
      · exact .inr <| .inl byLine
      · exact .inr <| .inr <| .inl (visible.behind [_])
      · exact .inr <| .inr <| .inr type
    · rw [temporaries_indent, show temporaries "\x7d" = [] from rfl] at mem
      exact absurd mem List.not_mem_nil
    · intro before s _ known x mem
      rcases known x mem with inScope | byLine | visible | type
      · exact .inl inScope
      · exact .inr <| .inl byLine
      · exact .inr <| .inr <| .inl (visible.behind _)
      · exact .inr <| .inr <| .inr type

/-- What the code declares outside its loops, one of its lines at its own depth declares, and no
block of the code is open there. -/
theorem exists_declaration (h : IsCode t types scope depth ss own) {x : String} (mem : x ∈ own) :
    ∃ before u after, ss = before ++ (indent depth ++ u) :: after ∧ Declares t u x ∧
      net (chars before) = 0 := by
  induction h with
  | nil => exact absurd mem (Set.notMem_empty x)
  | @line scope vars own depth u rest plain code ih =>
    rcases mem with var | later
    · exact ⟨[], u, rest, rfl, plain.declares x var, rfl⟩
    · obtain ⟨before, v, after, rfl, declares, level⟩ := ih later
      refine ⟨(indent depth ++ u) :: before, v, after, rfl, declares, ?_⟩
      rw [chars_cons, net_append, (plain.isBalanced depth).settled, level, Int.zero_add]
  | @loop scope vars inner own depth u body rest header code more inside behind =>
    obtain ⟨before, v, after, rfl, declares, level⟩ := behind mem
    refine ⟨loopLines depth u body ++ before, v, after, by simp, declares, ?_⟩
    rw [chars_append, net_append, (header.isBalanced code.isBalanced depth).settled, level,
      Int.zero_add]

/-- No line of the code ends with a blank. -/
theorem ends (h : IsCode t types scope depth ss own) : ∀ s ∈ ss, endsTight s = true := by
  induction h with
  | nil => simp
  | line plain _ ih => exact List.forall_mem_cons.mpr ⟨endsTight_append _ plain.ends, ih⟩
  | @loop scope vars inner own depth u body rest header _ _ inside behind =>
    obtain ⟨v, rfl, -⟩ := header.opens
    have front : endsTight (indent depth ++ (v ++ "\x7b")) = true :=
      endsTight_append _ (endsTight_append _ (by decide))
    have back : endsTight (indent depth ++ "\x7d") = true := endsTight_append _ (by decide)
    intro s mem
    simp only [loopLines, List.mem_cons, List.mem_append, List.not_mem_nil, or_false] at mem
    rcases mem with (rfl | mem | rfl) | mem
    · exact front
    · exact inside s mem
    · exact back
    · exact behind s mem

/-- The code stands behind its indentation. -/
theorem isIndented (h : IsCode t types scope depth ss own) : IsIndented depth ss where
  first s mem := by
    cases h with
    | nil => cases mem
    | line plain _ =>
      cases mem
      exact ⟨_, plain.tight, rfl⟩
    | loop header _ _ =>
      cases mem
      exact ⟨_, header.tight, rfl⟩
  last s mem := h.ends s (List.mem_of_getLast? mem)

/-- Code of this form is in blocks, and well scoped. -/
theorem isWellScoped (h : IsCode t types scope depth ss own) :
    IsWellScoped t scope types depth ss :=
  ⟨h.whole, h.indented, h.isBalanced, h.declared⟩

/-! ### Code behind code -/

/-- More variables may be in scope. -/
theorem mono (h : IsCode t types scope depth ss own) {wider : Set String} (more : scope ⊆ wider) :
    IsCode t types wider depth ss own := by
  induction h generalizing wider with
  | nil => exact .nil
  | line plain _ ih =>
    refine .line ⟨plain.tight, plain.ends, plain.flat, plain.declares, fun x mem => ?_⟩
      (ih (Set.union_subset_union_right _ more))
    exact (plain.mentions x mem).imp_left fun inScope => more inScope
  | loop header _ _ inside behind =>
    refine .loop ⟨header.tight, header.opens, header.declares, fun x mem => ?_⟩
      (inside (Set.union_subset_union_right _ more)) (behind more)
    exact (header.mentions x mem).imp_left fun inScope => more inScope

/-- Code behind code: what the first declares outside its loops is in scope in the second. -/
theorem append (h : IsCode t types scope depth ss own) {us : List String} {later : Set String}
    (r : IsCode t types (own ∪ scope) depth us later) :
    IsCode t types scope depth (ss ++ us) (own ∪ later) := by
  induction h with
  | nil => simpa using r
  | @line scope vars own depth u rest plain _ ih =>
    rw [Set.union_assoc, List.cons_append]
    refine .line plain (ih (r.mono ?_))
    intro x mem
    simp only [Set.mem_union] at mem ⊢
    tauto
  | loop header code _ _ behind =>
    rw [List.append_assoc]
    exact .loop header code (behind r)

end IsCode

end PacketSmith.Code
