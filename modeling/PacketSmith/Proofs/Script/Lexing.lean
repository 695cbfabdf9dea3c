import PacketSmith.Proofs.Script.Reading
import PacketSmith.Proofs.ResolvedTypes
import Mathlib

/-!
# Lexemes of composed texts

A text falls apart into lexemes at every character that cannot belong to a path
(`lexemes_append_left`, `lexemes_append_right`), so the lexemes of a text that is put together are
those of its parts. A path is names with dots or arrows between them (`Spells`), and blanks at the
ends of a text and of its lines do not count (`lexemes_fragment`).

The names of variables are a word and a number (`numbered`); two of them are equal only if their
words and their numbers are.
-/

namespace PacketSmith.Script

open PacketSmith.Code
open PacketSmith.TypeName (isNameStart isNamePart isNameList isName)

/-! ### Cutting texts -/

/-- The character belongs to no path, and ends one. Behind a dash, `>` does not: it ends an
arrow. -/
def divides (c : Char) : Bool :=
  !isNamePart c && c != '.' && c != '-'

theorem divides_iff {c : Char} :
    divides c = true ↔ isNamePart c = false ∧ c ≠ '.' ∧ c ≠ '-' := by
  simp [divides, and_assoc]

/-- A closed path stands before what was behind it. -/
theorem closePath_append (ns : List String) (w : List Char) (ls more : List Lexeme) :
    closePath ns w (ls ++ more) = closePath ns w ls ++ more := by
  unfold closePath
  split <;> rfl

/-- A character that divides closes the path begun. -/
theorem lexemesFrom_divides {c : Char} (h : divides c = true) (ns : List String)
    (w cs : List Char) :
    lexemesFrom ns w (c :: cs) = closePath ns w (lexemesFrom [] [] (c :: cs)) := by
  obtain ⟨name, dot, dash⟩ := divides_iff.mp h
  have noArrow : ∀ rest, c = '-' → cs = '>' :: rest → False := fun _ same => absurd same dash
  rw [lexemesFrom.eq_3 _ _ _ _ noArrow, lexemesFrom.eq_3 _ _ _ _ noArrow]
  simp only [name, Bool.false_eq_true, if_false, beq_iff_eq, dot]
  split <;> simp [closePath]

/-- No arrow arises where a text goes on with a character that cannot end one there. -/
theorem noArrow_append {c d : Char} {cs b : List Char}
    (apart : c = '>' → (d :: cs).getLast? ≠ some '-')
    (noArrow : ∀ rest, d = '-' → cs = '>' :: rest → False) :
    ∀ rest, d = '-' → cs ++ c :: b = '>' :: rest → False := by
  intro rest dash same
  cases cs with
  | nil =>
    obtain ⟨rfl, -⟩ := List.cons.inj same
    exact apart rfl (by simp [dash])
  | cons x xs =>
    obtain ⟨rfl, -⟩ := List.cons.inj same
    exact noArrow xs dash rfl

/-- The last character of a text is that of its tail, if the tail has one. -/
theorem getLast?_tail_ne {d c : Char} {cs : List Char} (h : (d :: cs).getLast? ≠ some c) :
    cs.getLast? ≠ some c := by
  cases cs with
  | nil => simp
  | cons x xs => simpa using h

/-- A text falls apart before a character that divides. -/
theorem lexemesFrom_append {c : Char} (h : divides c = true) (ns : List String) (w a b : List Char)
    (apart : c = '>' → a.getLast? ≠ some '-') :
    lexemesFrom ns w (a ++ c :: b) = lexemesFrom ns w a ++ lexemesFrom [] [] (c :: b) := by
  fun_induction lexemesFrom ns w a with
  | case1 ns w =>
    rw [List.nil_append, lexemesFrom_divides h, ← closePath_append, List.nil_append]
  | case2 ns w cs ih =>
    rw [List.cons_append, List.cons_append, lexemesFrom]
    exact ih fun same => getLast?_tail_ne (getLast?_tail_ne (apart same))
  | case3 ns w d cs noArrow name ih =>
    rw [List.cons_append, lexemesFrom.eq_3 _ _ _ _ (noArrow_append apart noArrow), if_pos name]
    exact ih fun same => getLast?_tail_ne (apart same)
  | case4 ns w d cs noArrow name dot ih =>
    rw [List.cons_append, lexemesFrom.eq_3 _ _ _ _ (noArrow_append apart noArrow), if_neg name,
      if_pos dot]
    exact ih fun same => getLast?_tail_ne (apart same)
  | case5 ns w d cs noArrow name dot blank ih =>
    rw [List.cons_append, lexemesFrom.eq_3 _ _ _ _ (noArrow_append apart noArrow), if_neg name,
      if_neg dot, if_pos blank, ih fun same => getLast?_tail_ne (apart same), closePath_append]
  | case6 ns w d cs noArrow name dot blank ih =>
    rw [List.cons_append, lexemesFrom.eq_3 _ _ _ _ (noArrow_append apart noArrow), if_neg name,
      if_neg dot, if_neg blank, ih fun same => getLast?_tail_ne (apart same), ← List.cons_append,
      closePath_append]

/-- A character that divides stands on its own. -/
theorem lexemesFrom_cons {c : Char} (h : divides c = true) (b : List Char) :
    lexemesFrom [] [] (c :: b) = lexemesFrom [] [] [c] ++ lexemesFrom [] [] b := by
  obtain ⟨name, dot, dash⟩ := divides_iff.mp h
  rw [lexemesFrom.eq_3 _ _ _ _ (fun _ same => absurd same dash),
    lexemesFrom.eq_3 _ _ _ _ (fun _ same => absurd same dash)]
  simp only [name, Bool.false_eq_true, if_false, beq_iff_eq, dot]
  split <;> simp [closePath, lexemesFrom]

/-- The text begins with a character that divides, whatever stands before it. -/
def startsApart (s : String) : Bool := s.toList.head?.any fun c => divides c && c != '>'

/-- The text ends with a character that divides, whatever stands before it. -/
def endsApart (s : String) : Bool := s.toList.getLast?.any fun c => divides c && c != '>'

/-- A text falls apart before a text that begins with a character that divides. -/
theorem lexemes_append_right {a b : String} (h : startsApart b = true) :
    lexemes (a ++ b) = lexemes a ++ lexemes b := by
  unfold lexemes
  rw [String.toList_append]
  cases hb : b.toList with
  | nil => simp [startsApart, hb] at h
  | cons c cs =>
    simp only [startsApart, hb, List.head?_cons, Option.any_some, Bool.and_eq_true, bne_iff_ne,
      ne_eq] at h
    exact lexemesFrom_append h.1 [] [] _ _ fun same => absurd same h.2

/-- A text falls apart behind a text that ends with a character that divides. -/
theorem lexemes_append_left {a b : String} (h : endsApart a = true) :
    lexemes (a ++ b) = lexemes a ++ lexemes b := by
  unfold lexemes
  rw [String.toList_append]
  rcases List.eq_nil_or_concat a.toList with ha | ⟨cs, c, ha⟩
  · simp [endsApart, ha] at h
  · rw [List.concat_eq_append] at ha
    simp only [endsApart, ha, List.getLast?_concat, Option.any_some, Bool.and_eq_true, bne_iff_ne,
      ne_eq] at h
    have apart : c = '>' → cs.getLast? ≠ some '-' := fun same => absurd same h.2
    rw [ha, List.append_assoc, List.singleton_append, lexemesFrom_append h.1 _ _ _ _ apart,
      lexemesFrom_cons h.1, lexemesFrom_append h.1 _ _ _ _ apart, List.append_assoc]

/-- A text falls apart around a part that begins and ends with characters that divide. -/
theorem lexemes_around {a b c : String} (h : (startsApart b && endsApart b) = true) :
    lexemes (a ++ b ++ c) = lexemes a ++ lexemes b ++ lexemes c := by
  obtain ⟨first, last⟩ := Bool.and_eq_true_iff.mp h
  have starts : startsApart (b ++ c) = true := by
    unfold startsApart at first ⊢
    rw [String.toList_append]
    cases hb : b.toList with
    | nil => simp [hb] at first
    | cons x xs => simpa [hb] using first
  rw [String.append_assoc, lexemes_append_right starts, lexemes_append_left last, List.append_assoc]

/-! ### Blanks -/

/-- A blank divides. -/
theorem divides_of_isBlank {c : Char} (h : Text.isBlank c = true) : divides c = true := by
  have far : c.toNat < 33 ∨ 132 < c.toNat := by
    simp only [Text.isBlank, Bool.or_eq_true, Bool.and_eq_true, decide_eq_true_eq, beq_iff_eq] at h
    omega
  have ne : ∀ d : Char, 33 ≤ d.toNat → d.toNat ≤ 132 → c ≠ d := by
    rintro d _ _ rfl
    omega
  have name : isNamePart c = false := by
    simp only [isNamePart, isNameStart, Char.le_def, UInt32.le_iff_toNat_le, Bool.or_eq_false_iff,
      Bool.and_eq_false_iff, decide_eq_false_iff_not, beq_eq_false_iff_ne, Char.reduceVal,
      UInt32.reduceToNat]
    have := ne '_' (by decide) (by decide)
    have := ne '$' (by decide) (by decide)
    simp [*]
    omega
  exact divides_iff.mpr ⟨name, ne '.' (by decide) (by decide), ne '-' (by decide) (by decide)⟩

/-- A blank is no end of an arrow. -/
theorem ne_arrowEnd_of_isBlank {c : Char} (h : Text.isBlank c = true) : c ≠ '>' := by
  rintro rfl
  revert h
  decide

/-- A blank has no lexemes. -/
theorem lexemesFrom_blank {c : Char} (h : Text.isBlank c = true) : lexemesFrom [] [] [c] = [] := by
  obtain ⟨name, dot, dash⟩ := divides_iff.mp (divides_of_isBlank h)
  rw [lexemesFrom.eq_3 _ _ _ _ (fun _ same => absurd same dash)]
  simp [name, dot, h, lexemesFrom, closePath]

/-- Blanks before a text have no lexemes. -/
theorem lexemesFrom_dropWhile (cs : List Char) :
    lexemesFrom [] [] (cs.dropWhile Text.isBlank) = lexemesFrom [] [] cs := by
  induction cs with
  | nil => rfl
  | cons c cs ih =>
    by_cases blank : Text.isBlank c = true
    · rw [List.dropWhile_cons_of_pos blank, ih, lexemesFrom_cons (divides_of_isBlank blank),
        lexemesFrom_blank blank, List.nil_append]
    · rw [List.dropWhile_cons_of_neg blank]

/-- Blanks behind a text have no lexemes. -/
theorem lexemesFrom_dropEndBlanks (cs : List Char) :
    lexemesFrom [] [] (Text.dropEndBlanks cs) = lexemesFrom [] [] cs := by
  induction cs using List.reverseRecOn with
  | nil => rfl
  | append_singleton cs c ih =>
    unfold Text.dropEndBlanks at ih ⊢
    rw [List.reverse_append, List.reverse_singleton, List.singleton_append]
    by_cases blank : Text.isBlank c = true
    · have apart : c = '>' → cs.getLast? ≠ some '-' :=
        fun same => absurd same (ne_arrowEnd_of_isBlank blank)
      rw [List.dropWhile_cons_of_pos blank, ih,
        lexemesFrom_append (divides_of_isBlank blank) _ _ _ _ apart, lexemesFrom_blank blank,
        List.append_nil]
    · rw [List.dropWhile_cons_of_neg blank, List.reverse_cons, List.reverse_reverse]

/-- The blanks around a text do not count. -/
theorem lexemes_trim (s : String) : lexemes (Text.trim s) = lexemes s := by
  unfold lexemes Text.trim
  rw [String.toList_ofList, lexemesFrom_dropEndBlanks, lexemesFrom_dropWhile]

/-- The lexemes of lines are those of each line. -/
theorem lexemes_joinLines (ss : List String) :
    lexemes ("\n".intercalate ss) = ss.flatMap lexemes := by
  induction ss with
  | nil => rfl
  | cons s ss ih =>
    cases ss with
    | nil => simp
    | cons u us =>
      rw [String.intercalate_cons_cons, lexemes_around (by decide), ih]
      simp [show lexemes "\n" = [] from rfl]

/-- The blanks before a line do not count. -/
theorem lexemes_line (t : Target) (l : Line) :
    lexemes (t.line l) = lexemes (t.statement l.statement) := by
  unfold Target.line lexemes indent
  rw [String.toList_append, String.toList_ofList, ← lexemesFrom_dropWhile,
    List.dropWhile_append_of_pos, lexemesFrom_dropWhile]
  intro c mem
  obtain rfl := List.eq_of_mem_replicate mem
  decide

/-- The lexemes of a fragment are those of its statements. -/
theorem lexemes_fragment (t : Target) (ls : List Line) :
    lexemes (t.fragment ls) = ls.flatMap fun l => lexemes (t.statement l.statement) := by
  unfold Target.fragment
  rw [lexemes_trim, lexemes_joinLines, List.flatMap_map]
  simp only [lexemes_line]

/-! ### Paths -/

/-- The text can be one part of a path: it has characters, and all of them can stand in a name. -/
def isSegment (s : String) : Bool := !s.toList.isEmpty && s.toList.all isNamePart

/-- A name can be part of a path. -/
theorem isSegment_of_isName {s : String} (h : isName s = true) : isSegment s = true := by
  have parts : s.toList.all isNamePart = true :=
    List.all_eq_true.mpr fun _ mem => TypeName.isNamePart_of_isNameList h mem
  cases hs : s.toList with
  | nil => simp [isName, hs, isNameList] at h
  | cons c cs => simpa [isSegment, hs] using parts

/-- The text is a path: parts with dots or arrows between them. -/
inductive Spells : String → List String → Prop where
  | single {s : String} : isSegment s = true → Spells s [s]
  | dot {p s : String} {names : List String} :
      Spells p names → isSegment s = true → Spells (p ++ "." ++ s) (names ++ [s])
  | arrow {p s : String} {names : List String} :
      Spells p names → isSegment s = true → Spells (p ++ "->" ++ s) (names ++ [s])

/-- The characters of names are taken over into the name begun. -/
theorem lexemesFrom_nameParts {cs : List Char} (h : cs.all isNamePart = true) (ns : List String)
    (w more : List Char) :
    lexemesFrom ns w (cs ++ more) = lexemesFrom ns (cs.reverse ++ w) more := by
  induction cs generalizing w with
  | nil => rfl
  | cons c cs ih =>
    rw [List.all_cons, Bool.and_eq_true] at h
    have noArrow : ∀ rest, c = '-' → cs ++ more = '>' :: rest → False := by
      rintro _ rfl
      exact absurd h.1 (by decide)
    rw [List.cons_append, lexemesFrom.eq_3 _ _ _ _ noArrow, if_pos h.1, ih h.2]
    simp

/-- Reading a path leaves its last part begun and the others complete. -/
theorem Spells.lexemesFrom_append {p : String} {names : List String} (h : Spells p names) :
    ∃ front last, names = front ++ [last] ∧ isSegment last = true ∧
      ∀ more, lexemesFrom [] [] (p.toList ++ more) =
        lexemesFrom front.reverse last.toList.reverse more := by
  have parts : ∀ {s : String}, isSegment s = true → s.toList.all isNamePart = true :=
    fun hs => (Bool.and_eq_true_iff.mp hs).2
  induction h with
  | @single s hs =>
    refine ⟨[], s, rfl, hs, fun more => ?_⟩
    rw [lexemesFrom_nameParts (parts hs), List.append_nil, List.reverse_nil]
  | @dot p s names _ hs ih =>
    obtain ⟨front, last, rfl, -, ih⟩ := ih
    refine ⟨front ++ [last], s, rfl, hs, fun more => ?_⟩
    have sign : (".").toList = ['.'] := rfl
    rw [String.toList_append, String.toList_append, List.append_assoc, List.append_assoc, ih, sign,
      List.singleton_append, lexemesFrom.eq_3 _ _ _ _ (by simp), if_neg (by decide),
      if_pos (by decide), lexemesFrom_nameParts (parts hs)]
    simp
  | @arrow p s names _ hs ih =>
    obtain ⟨front, last, rfl, -, ih⟩ := ih
    refine ⟨front ++ [last], s, rfl, hs, fun more => ?_⟩
    have sign : ("->").toList = ['-', '>'] := rfl
    rw [String.toList_append, String.toList_append, List.append_assoc, List.append_assoc, ih, sign,
      List.cons_append, List.singleton_append, lexemesFrom, lexemesFrom_nameParts (parts hs)]
    simp

/-- A path is one lexeme. -/
theorem Spells.lexemes {p : String} {names : List String} (h : Spells p names) :
    lexemes p = [.path names] := by
  obtain ⟨front, last, rfl, segment, read⟩ := h.lexemesFrom_append
  have whole := read []
  rw [List.append_nil] at whole
  have nonempty : last.toList ≠ [] := by simpa using (Bool.and_eq_true_iff.mp segment).1
  rw [Script.lexemes, whole, lexemesFrom, closePath, if_neg (by simp [nonempty])]
  simp

/-- A part of a path that stands alone is one lexeme. -/
theorem lexemes_of_isSegment {s : String} (h : isSegment s = true) : lexemes s = [.path [s]] :=
  (Spells.single h).lexemes

/-! ### Numbered names -/

/-- The variable of a word and a number. -/
def numbered (word : String) (n : Nat) : String := word ++ toString n

/-- The text has no digits. -/
def isWord (s : String) : Bool := s.toList.all fun c => !c.isDigit

/-- The name of a variable ends with the digits of its number. -/
theorem toList_numbered (word : String) (n : Nat) :
    (numbered word n).toList = word.toList ++ Nat.toDigits 10 n := by
  simp [numbered]

/-- A number is written with digits, at least one. -/
theorem exists_digit (n : Nat) : ∃ c cs, Nat.toDigits 10 n = c :: cs ∧ c.isDigit = true := by
  obtain ⟨c, cs, same⟩ := List.exists_cons_of_ne_nil (Nat.toDigits_ne_nil : Nat.toDigits 10 n ≠ [])
  exact ⟨c, cs, same, Nat.isDigit_of_mem_toDigits (by decide) le_rfl (same ▸ List.mem_cons_self)⟩

/-- A digit is part of a name. -/
theorem isNamePart_of_isDigit {c : Char} (h : c.isDigit = true) : isNamePart c = true := by
  simp only [Char.isDigit, Bool.and_eq_true, decide_eq_true_eq] at h
  simp only [isNamePart, Bool.or_eq_true, Bool.and_eq_true, decide_eq_true_eq]
  exact .inr h

/-- The digits of a number are parts of a name. -/
theorem all_isNamePart_toDigits (n : Nat) : (Nat.toDigits 10 n).all isNamePart = true :=
  List.all_eq_true.mpr fun _ mem =>
    isNamePart_of_isDigit (Nat.isDigit_of_mem_toDigits (by decide) le_rfl mem)

/-- The name of a variable is a name if its word is. -/
theorem isName_numbered {word : String} (h : isName word = true) (n : Nat) :
    isName (numbered word n) = true := by
  unfold isName
  rw [toList_numbered]
  exact TypeName.isNameList_append h (all_isNamePart_toDigits n)

/-- The digits of a number can be part of a path. -/
theorem isSegment_toString (n : Nat) : isSegment (toString n) = true := by
  obtain ⟨c, cs, digits, -⟩ := exists_digit n
  have parts := all_isNamePart_toDigits n
  rw [digits] at parts
  simpa [isSegment, digits] using parts

/-- The word of a variable is what stands before the first digit. -/
theorem takeWhile_numbered {word : String} (h : isWord word = true) (n : Nat) :
    (numbered word n).toList.takeWhile (fun c => !c.isDigit) = word.toList := by
  obtain ⟨c, cs, digits, first⟩ := exists_digit n
  rw [toList_numbered, List.takeWhile_append_of_pos (List.all_eq_true.mp h), digits]
  simp [first]

/-- Variables are equal only if their words and their numbers are. -/
theorem numbered_inj {v w : String} {n k : Nat} (hv : isWord v = true) (hw : isWord w = true) :
    numbered v n = numbered w k ↔ v = w ∧ n = k := by
  refine ⟨fun same => ?_, by rintro ⟨rfl, rfl⟩; rfl⟩
  have words : v = w := by
    rw [← String.toList_inj, ← takeWhile_numbered hv n, same, takeWhile_numbered hw]
  subst words
  have lists := congrArg String.toList same
  rw [toList_numbered, toList_numbered, List.append_cancel_left_eq] at lists
  refine ⟨rfl, Nat.repr_inj.mp (String.toList_inj.mp ?_)⟩
  rw [Nat.toList_repr, Nat.toList_repr, lists]

/-- Variables of different words differ. -/
theorem numbered_ne_numbered {v w : String} (n k : Nat)
    (h : isWord v = true ∧ isWord w = true ∧ v ≠ w) : numbered v n ≠ numbered w k :=
  fun same => h.2.2 ((numbered_inj h.1 h.2.1).mp same).1

/-- A variable is no text without digits. -/
theorem numbered_ne {word s : String} (n : Nat) (hs : isWord s = true) :
    numbered word n ≠ s := by
  rintro rfl
  obtain ⟨c, cs, digits, first⟩ := exists_digit n
  have none := List.all_eq_true.mp hs c (by rw [toList_numbered, digits]; simp)
  simp [first] at none

/-! ### Ids -/

/-- The text of an id is a part of a path, or such a part behind a dash. -/
theorem lexemes_id (id : MessageId) :
    lexemes id.text = [.path [id.text]] ∨
      ∃ s, id.text = "-" ++ s ∧ lexemes id.text = [.mark '-', .path [s]] := by
  cases id with
  | null => exact .inl rfl
  | flag b => cases b <;> exact .inl rfl
  | number n =>
    cases n with
    | ofNat k => exact .inl (lexemes_of_isSegment (isSegment_toString k))
    | negSucc k =>
      refine .inr ⟨toString (k + 1), rfl, ?_⟩
      have segment := lexemes_of_isSegment (isSegment_toString (k + 1))
      obtain ⟨c, cs, digits, first⟩ := exists_digit (k + 1)
      have text : (MessageId.number (.negSucc k)).text.toList =
          '-' :: (toString (k + 1)).toList := String.toList_append
      have noArrow : ∀ rest, '-' = '-' → (toString (k + 1)).toList = '>' :: rest → False := by
        rintro rest - same
        rw [Nat.toString_eq_repr, Nat.toList_repr, digits] at same
        obtain ⟨rfl, -⟩ := List.cons.inj same
        exact absurd first (by decide)
      rw [lexemes] at segment ⊢
      rw [text, lexemesFrom.eq_3 _ _ _ _ noArrow, if_neg (by decide), if_neg (by decide),
        if_neg (by decide), segment]
      rfl

end PacketSmith.Script
