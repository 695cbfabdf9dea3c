import PacketSmith.Proofs.BlockStructure
import PacketSmith.Proofs.EmittedLines

/-!
# What statements mention and declare

A text is taken apart where no name goes on (`Mentions`): a statement is a row of fixed texts and of
expressions, and the fixed texts have no part of a name where they meet an expression. So each
statement mentions what its expressions do, and the variables it is numbered for. A lemma for each
statement says in which scope it may stand, and which variables it declares (`IsPlain`), or that it
opens a loop with some (`IsHeader`).

Where a statement names a type, it may mention names of messages (`IsTypeIn`).
-/

namespace PacketSmith.Code

open PacketSmith.Script (numbered suffixOf isWord IsStandard)

/-! ### What texts mention -/

/-- The text has no braces and no line ends, and mentions these temporaries. -/
structure Mentions (u : String) (xs : List String) : Prop where
  flat : isFlat u = true
  names : temporaries u = xs

/-- A part of a name has no braces and no line ends. -/
theorem isFlat_of_all {u : String} (h : u.toList.all TypeName.isNamePart = true) :
    isFlat u = true := by
  refine List.all_eq_true.mpr fun c mem => ?_
  have part := List.all_eq_true.mp h c mem
  simp only [Bool.and_eq_true, bne_iff_ne]
  refine ⟨⟨?_, ?_⟩, ?_⟩ <;> (rintro rfl; exact absurd part (by decide))

/-- The text has no braces, no line ends and no digits. -/
def isFixed (s : String) : Bool :=
  s.toList.all fun c => c != '\x7b' && c != '\x7d' && c != '\n' && !c.isDigit

/-- The text can stand behind any other: it is fixed, and no name goes on with it. -/
def isClosing (s : String) : Bool := isFixed s && startsApart s

/-- Fixed texts that are put together. -/
theorem isFixed_append {a b : String} (ha : isFixed a = true) (hb : isFixed b = true) :
    isFixed (a ++ b) = true := by
  unfold isFixed at *
  rw [String.toList_append, List.all_append, ha, hb]
  rfl

/-- A text starts as its first part does. -/
theorem startsApart_append {a : String} (h : startsApart a = true) (b : String) :
    startsApart (a ++ b) = true := by
  unfold startsApart at h ⊢
  rw [String.toList_append]
  cases chars : a.toList with
  | nil => simp [chars] at h
  | cons c cs => simpa [chars] using h

namespace Mentions

variable {a b u : String} {xs ys : List String}

/-- A fixed text. -/
theorem fixed (h : isFixed u = true) : Mentions u [] := by
  have chars := List.all_eq_true.mp h
  simp only [Bool.and_eq_true] at chars
  have flat : isFlat u = true := by
    refine List.all_eq_true.mpr fun c mem => ?_
    simp only [Bool.and_eq_true]
    exact (chars c mem).1
  exact ⟨flat, temporaries_of_isWord (List.all_eq_true.mpr fun c mem => (chars c mem).2)⟩

/-- A text that mentions nothing behind another text. -/
theorem before (h : Mentions a xs) (k : Mentions b []) (apart : startsApart b = true) :
    Mentions (a ++ b) xs := by
  refine ⟨isFlat_append h.flat k.flat, ?_⟩
  rw [temporaries_append_left a apart, h.names, k.names, List.append_nil]

/-- A fixed text behind another text. -/
theorem close (h : Mentions a xs) (k : isClosing b = true) : Mentions (a ++ b) xs := by
  obtain ⟨fixed, apart⟩ := Bool.and_eq_true_iff.mp k
  exact h.before (.fixed fixed) apart

/-- A text behind a fixed one. -/
theorem behind (h : Mentions a xs) (k : Mentions b ys) (apart : endsApart a = true) :
    Mentions (a ++ b) (xs ++ ys) := by
  refine ⟨isFlat_append h.flat k.flat, ?_⟩
  rw [temporaries_append_right apart, h.names, k.names]

/-- A text behind others, the last of which is fixed. -/
theorem next (h : Mentions (a ++ b) xs) (k : Mentions u ys) (apart : endsApart b = true) :
    Mentions (a ++ b ++ u) (xs ++ ys) := by
  refine h.behind k ?_
  unfold endsApart at apart ⊢
  rw [String.toList_append, List.getLast?_append]
  cases last : b.toList.getLast? with
  | none => simp [last] at apart
  | some c => simpa [last] using apart

/-- Two texts with a fixed one between them. -/
theorem around (h : Mentions a xs) (k : Mentions u ys)
    (apart : (isClosing b && endsApart b) = true) : Mentions (a ++ b ++ u) (xs ++ ys) := by
  obtain ⟨first, last⟩ := Bool.and_eq_true_iff.mp apart
  exact (h.close first).next k last

/-- The digits of a number. -/
theorem digits (n : Nat) : Mentions (toString n) [] := by
  obtain ⟨c, cs, digits, first⟩ := Script.exists_digit n
  have parts := Script.isSegment_toString n
  simp only [Script.isSegment, Bool.and_eq_true] at parts
  have other : isTemporary (toString n) = false := by
    rw [isTemporary, Nat.toString_eq_repr, Nat.toList_repr, digits,
      List.takeWhile_cons_of_neg (by simp [first])]
    rfl
  refine ⟨isFlat_of_all parts.2, ?_⟩
  rw [temporaries, names_of_all parts.2, List.filter_singleton, other]
  rfl

/-- The name of a variable. -/
theorem temporary {word : String} (n : Nat) (h : word ∈ temporaryWords) :
    Mentions (numbered word n) [numbered word n] := by
  have flat : isFlat word = true := by
    have all : ∀ w ∈ temporaryWords, isFlat w = true := by decide
    exact all word h
  exact ⟨isFlat_append flat (digits n).flat, temporaries_numbered h n⟩

/-- The text of an id. -/
theorem id (id : MessageId) : Mentions id.text [] := by
  cases id with
  | null => exact fixed (by decide)
  | flag b => cases b <;> exact fixed (by decide)
  | number k =>
    cases k with
    | ofNat n => exact digits n
    | negSucc n => exact (fixed (u := "-") (by decide)).behind (digits (n + 1)) (by decide)

end Mentions

/-- The text of an expression has no braces and no line ends, and what it mentions is in scope. -/
structure IsSource (t : Target) (scope : Set String) (e : Expr) : Prop where
  flat : isFlat (t.expression e) = true
  known : ∀ x ∈ temporaries (t.expression e), x ∈ scope

/-- A variable in scope can be used. -/
theorem isSource_of_eq {t : Target} {scope : Set String} {e : Expr} {word : String} {n : Nat}
    (h : word ∈ temporaryWords) (text : t.expression e = numbered word n)
    (mem : numbered word n ∈ scope) : IsSource t scope e := by
  have mentions := Mentions.temporary n h
  refine ⟨by rw [text, mentions.flat], ?_⟩
  rw [text, mentions.names]
  simpa using mem

/-! ### The texts of statements -/

section Statements

variable {t : Target} {types scope : Set String} {e : Expr} {u v : String} {xs : List String}

/-- What the text of an expression mentions. -/
theorem IsSource.mentions (h : IsSource t scope e) :
    Mentions (t.expression e) (temporaries (t.expression e)) := ⟨h.flat, rfl⟩

/-- A line that uses variables in scope and declares none. -/
theorem IsPlain.using (tight : startsTight u = true) (m : Mentions u xs)
    (known : ∀ x ∈ xs, x ∈ scope) (ends : endsTight u = true) : IsPlain t types scope ∅ u where
  tight := tight
  ends := ends
  flat := m.flat
  declares x mem := absurd mem (Set.notMem_empty x)
  mentions x mem := .inl (known x (m.names ▸ mem))

/-- A line that declares a variable and mentions nothing but that and names of types. -/
theorem IsPlain.declaring {x : String} (tight : startsTight u = true) (m : Mentions u xs)
    (declares : Declares t u x) (known : ∀ y ∈ xs, y = x ∨ y ∈ types)
    (ends : endsTight u = true) : IsPlain t types scope {x} u where
  tight := tight
  ends := ends
  flat := m.flat
  declares y mem := by
    rw [Set.mem_singleton_iff.mp mem]
    exact declares
  mentions y mem := by
    rcases known y (m.names ▸ mem) with rfl | type
    · exact .inr (.inl rfl)
    · exact .inr (.inr ⟨type, Set.singleton_nonempty x⟩)

/-- A header mentions what stands before its brace. -/
theorem IsHeader.of_mentions {vars : Set String} (tight : startsTight u = true) (m : Mentions u xs)
    (declares : ∀ x ∈ vars, DeclaresForLoop t (u ++ ") \x7b") x)
    (known : ∀ x ∈ xs, x ∈ scope ∨ x ∈ vars) : IsHeader t scope vars (u ++ ") \x7b") where
  tight := startsTight_append tight _
  opens := ⟨u ++ ") ", by rw [String.append_assoc]; rfl, (m.close (b := ") ") (by decide)).flat⟩
  declares := declares
  mentions x mem := by
    rw [temporaries_append_left u (by decide), m.names, temporaries_of_isWord (by decide),
      List.append_nil] at mem
    exact known x mem

/-- The ends of the names of the buffer's functions are fixed. -/
theorem isFixed_suffixOf (t : Target) (kind : Scalar) : isFixed (suffixOf t kind) = true := by
  cases t <;> cases kind <;> decide

theorem isPlain_writeScalar (kind : Scalar) (h : IsSource t scope e) :
    IsPlain t types scope ∅ (t.statement (.writeScalar kind e)) := by
  have text : t.statement (.writeScalar kind e) =
      "buffer.write" ++ suffixOf t kind ++ "(" ++ t.expression e ++ ");" := by cases t <;> rfl
  have front : Mentions ("buffer.write" ++ suffixOf t kind ++ "(") [] :=
    .fixed (isFixed_append (isFixed_append (by decide) (isFixed_suffixOf t kind)) (by decide))
  have tight : startsTight ("buffer.write" ++ suffixOf t kind ++ "(") = true := by
    rw [String.append_assoc]
    exact startsTight_append (by decide) _
  rw [text]
  exact .using (startsTight_append (startsTight_append tight _) _)
    ((front.next h.mentions (by decide)).close (by decide)) h.known (endsTight_append _ (by decide))

theorem isPlain_writeSize (kind : Container) (h : IsSource t scope e) :
    IsPlain t types scope ∅ (t.statement (.writeSize kind e)) := by
  obtain ⟨last, text, fixed, apart, ends⟩ : ∃ last, t.statement (.writeSize kind e) =
      "buffer.writeInt(" ++ t.expression e ++ last ∧ Mentions last [] ∧ startsApart last = true ∧
      endsTight last = true := by
    cases t with
    | cpp => exact ⟨".size());", rfl, .fixed (by decide), by decide⟩
    | typescript =>
      have size : isFixed (TypeScript.sizeOf kind) = true := by
        rcases kind with (_ | _ | _) | _ <;> decide
      refine ⟨"." ++ TypeScript.sizeOf kind ++ ");", ?_, ?_⟩
      · show "buffer.writeInt(" ++ _ ++ "." ++ TypeScript.sizeOf kind ++ ");" = _
        simp only [String.append_assoc]
        rfl
      · exact ⟨.fixed (isFixed_append (isFixed_append (by decide) size) (by decide)),
          startsApart_append (startsApart_append (by decide) _) _,
          endsTight_append _ (by decide)⟩
  have front : Mentions "buffer.writeInt(" [] := .fixed (by decide)
  have whole := (front.behind h.mentions (by decide)).before fixed apart
  rw [text]
  exact .using (startsTight_append (startsTight_append (by decide) _) _) whole h.known
    (endsTight_append _ ends)

theorem isPlain_writeMessage (id : MessageId) (h : IsSource t scope e) :
    IsPlain t types scope ∅ (t.statement (.writeMessage e id)) := by
  obtain ⟨first, text, tight, front, apart⟩ : ∃ first, t.statement (.writeMessage e id) =
      first ++ t.expression e ++ ", " ++ id.text ++ ");" ∧ startsTight first = true ∧
      Mentions first [] ∧ endsApart first = true := by
    cases t with
    | cpp => exact ⟨"buffer.writePacket(&", rfl, by decide, .fixed (by decide), by decide⟩
    | typescript => exact ⟨"buffer.writePacket(", rfl, by decide, .fixed (by decide), by decide⟩
  have whole : Mentions (first ++ t.expression e ++ ", " ++ id.text ++ ");") _ :=
    ((front.behind h.mentions apart).around (.id id) (by decide)).close (by decide)
  rw [text]
  refine .using ?_ whole ?_ (endsTight_append _ (by decide))
  · simp only [String.append_assoc]
    exact startsTight_append tight _
  · simpa using h.known

/-- The fixed texts in the headers of loops over containers. -/
theorem mentions_each (t : Target) : Mentions (eachStart t) [] ∧ Mentions (eachMiddle t) [] ∧
    startsTight (eachStart t) = true ∧ endsApart (eachStart t) = true ∧
    startsApart (eachMiddle t) = true ∧ endsApart (eachMiddle t) = true := by
  cases t <;> exact ⟨.fixed (by decide), .fixed (by decide), by decide⟩

/-- The header of a loop over a sequence. -/
theorem text_forElements (t : Target) (n : Nat) (e : Expr) : t.statement (.forElements n e) =
    eachStart t ++ numbered "element" n ++ eachMiddle t ++ t.expression e ++ ") \x7b" := by
  cases t with
  | cpp =>
    show "for (const auto &element" ++ toString n ++ " : " ++ _ ++ ") \x7b" = _
    exact String.toList_inj.mp (by simp [numbered, eachStart, eachMiddle, Target.expression])
  | typescript =>
    show "for (const element" ++ toString n ++ " of " ++ _ ++ ") \x7b" = _
    exact String.toList_inj.mp (by simp [numbered, eachStart, eachMiddle, Target.expression])

theorem isHeader_forElements (n : Nat) (h : IsSource t scope e) :
    IsHeader t scope {numbered "element" n} (t.statement (.forElements n e)) := by
  obtain ⟨start, middle, tight, startEnd, middleStart, middleEnd⟩ := mentions_each t
  have own : Mentions (numbered "element" n) _ := .temporary n (by decide)
  have front := (start.behind own startEnd).before middle middleStart
  rw [text_forElements]
  refine .of_mentions ?_ (front.next h.mentions middleEnd) ?_ ?_
  · simp only [String.append_assoc]
    exact startsTight_append tight _
  · rintro x rfl
    exact .element
  · intro x mem
    simp only [List.nil_append, List.mem_append, List.mem_singleton] at mem
    exact mem.symm.imp (h.known x) id

/-- The header of a loop over a map. -/
theorem text_forEntries (t : Target) (n : Nat) (e : Expr) : t.statement (.forEntries n e) =
    eachStart t ++ "[" ++ numbered "key" n ++ ", " ++ numbered "value" n ++ "]" ++ eachMiddle t ++
      t.expression e ++ ") \x7b" := by
  cases t with
  | cpp =>
    show "for (const auto &[key" ++ toString n ++ ", value" ++ toString n ++ "] : " ++ _ ++
      ") \x7b" = _
    exact String.toList_inj.mp (by simp [numbered, eachStart, eachMiddle, Target.expression])
  | typescript =>
    show "for (const [key" ++ toString n ++ ", value" ++ toString n ++ "] of " ++ _ ++ ") \x7b" = _
    exact String.toList_inj.mp (by simp [numbered, eachStart, eachMiddle, Target.expression])

theorem isHeader_forEntries (n : Nat) (h : IsSource t scope e) :
    IsHeader t scope {numbered "key" n, numbered "value" n} (t.statement (.forEntries n e)) := by
  obtain ⟨start, middle, tight, startEnd, middleStart, middleEnd⟩ := mentions_each t
  have key : Mentions (numbered "key" n) _ := .temporary n (by decide)
  have value : Mentions (numbered "value" n) _ := .temporary n (by decide)
  have entry : Mentions (eachStart t ++ "[" ++ numbered "key" n ++ ", " ++ numbered "value" n ++
      "]") _ := ((start.around key (by decide)).around value (by decide)).close (by decide)
  rw [text_forEntries]
  refine .of_mentions ?_ ((entry.before middle middleStart).next h.mentions middleEnd) ?_ ?_
  · simp only [String.append_assoc]
    exact startsTight_append tight _
  · rintro x (rfl | rfl)
    · exact .key
    · exact .value
  · intro x mem
    simp only [List.nil_append, List.mem_append, List.mem_singleton] at mem
    exact mem.symm.imp (h.known x) id

/-- A type that a declaration can name: it starts as a name does and mentions only types. -/
structure IsTypeIn (types : Set String) (type : String) : Prop where
  plain : TypeName.IsPlainText type
  flat : isFlat type = true
  known : ∀ x ∈ temporaries type, x ∈ types

section Declarations

variable {word type value : String} {n : Nat} {ys : List String}

/-- A declaration with a type. -/
theorem IsPlain.typed (named : word ∈ temporaryWords) (h : IsTypeIn types type)
    (other : type ≠ "return") :
    IsPlain .cpp types scope {numbered word n} (type ++ " " ++ numbered word n ++ ";") := by
  have front : Mentions type _ := ⟨h.flat, rfl⟩
  have whole := (front.around (.temporary n named) (b := " ") (by decide)).close (b := ";")
    (by decide)
  refine .declaring ?_ whole (.bare h.plain other) ?_ (endsTight_append _ (by decide))
  · simp only [String.append_assoc]
    exact startsTight_append h.plain.startsTight _
  · intro y mem
    simp only [List.mem_append, List.mem_singleton] at mem
    exact mem.symm.imp id (h.known y)

/-- A declaration with a type and a value. -/
theorem IsPlain.given (named : word ∈ temporaryWords) (h : IsTypeIn types type)
    (other : type ≠ "return") (m : Mentions value ys) (known : ∀ y ∈ ys, y ∈ types) :
    IsPlain .cpp types scope {numbered word n}
      (type ++ " " ++ numbered word n ++ " = " ++ value ++ ";") := by
  have front : Mentions type _ := ⟨h.flat, rfl⟩
  have whole := ((front.around (.temporary n named) (b := " ") (by decide)).around m (b := " = ")
    (by decide)).close (b := ";") (by decide)
  refine .declaring ?_ whole (.given h.plain other) ?_ (endsTight_append _ (by decide))
  · simp only [String.append_assoc]
    exact startsTight_append h.plain.startsTight _
  · intro y mem
    simp only [List.mem_append, List.mem_singleton] at mem
    rcases mem with (type | same) | inside
    · exact .inr (h.known y type)
    · exact .inl same
    · exact .inr (known y inside)

/-- A declaration of a constant. -/
theorem IsPlain.constant (named : word ∈ temporaryWords) (m : Mentions value ys)
    (known : ∀ y ∈ ys, y ∈ types) : IsPlain .typescript types scope {numbered word n}
      ("const " ++ numbered word n ++ " = " ++ value ++ ";") := by
  have front : Mentions "const " [] := .fixed (by decide)
  have whole := ((front.behind (.temporary n named) (by decide)).around m (b := " = ")
    (by decide)).close (b := ";") (by decide)
  refine .declaring ?_ whole .constant ?_ (endsTight_append _ (by decide))
  · simp only [String.append_assoc]
    exact startsTight_append (by decide) _
  · intro y mem
    simp only [List.nil_append, List.mem_append, List.mem_singleton] at mem
    exact mem.imp id (known y)

end Declarations

/-- In C++, what is read can be declared without its type. -/
theorem isTypeIn_auto : IsTypeIn types "auto" where
  plain := .of_isName (by decide)
  flat := by decide
  known := by
    rw [temporaries_of_isWord (by decide)]
    simp

theorem isPlain_readScalar (n : Nat) (kind : Scalar) {type : String} (h : IsTypeIn types type)
    (other : type ≠ "return") : IsPlain t types scope {numbered "result" n}
      (t.statement (.readScalar n kind (t.annotated type))) := by
  have value : Mentions ("buffer.read" ++ suffixOf t kind ++ "()") [] :=
    .fixed (isFixed_append (isFixed_append (by decide) (isFixed_suffixOf t kind)) (by decide))
  cases t with
  | cpp =>
    have text : Target.cpp.statement (.readScalar n kind (Target.cpp.annotated type)) =
        type ++ " " ++ numbered "result" n ++ " = " ++
          ("buffer.read" ++ suffixOf .cpp kind ++ "()") ++ ";" := by
      show type ++ " result" ++ toString n ++ " = buffer.read" ++ suffixOf .cpp kind ++ "();" = _
      exact String.toList_inj.mp (by simp [numbered])
    rw [text]
    exact .given (by decide) h other value (by simp)
  | typescript =>
    have text : Target.typescript.statement
        (.readScalar n kind (Target.typescript.annotated type)) = "const " ++ numbered "result" n ++
          " = " ++ ("buffer.read" ++ suffixOf .typescript kind ++ "()") ++ ";" := by
      show "const result" ++ toString n ++ " = buffer.read" ++ suffixOf .typescript kind ++
        "();" = _
      exact String.toList_inj.mp (by simp [numbered])
    rw [text]
    exact .constant (by decide) value (by simp)

theorem isPlain_newContainer (n : Nat) {type : String} (h : IsTypeIn types type)
    (other : type ≠ "return") :
    IsPlain t types scope {numbered "result" n} (t.statement (.newContainer n type)) := by
  cases t with
  | cpp =>
    have text : Target.cpp.statement (.newContainer n type) =
        type ++ " " ++ numbered "result" n ++ ";" := by
      show type ++ " result" ++ toString n ++ ";" = _
      exact String.toList_inj.mp (by simp [numbered])
    rw [text]
    exact .typed (by decide) h other
  | typescript =>
    have text : Target.typescript.statement (.newContainer n type) =
        "const " ++ numbered "result" n ++ " = " ++ ("new " ++ type ++ "()") ++ ";" := by
      show "const result" ++ toString n ++ " = new " ++ type ++ "();" = _
      exact String.toList_inj.mp (by simp [numbered])
    have value : Mentions ("new " ++ type ++ "()") _ :=
      ((Mentions.fixed (u := "new ") (by decide)).behind (Mentions.mk h.flat rfl) (by decide)).close
        (by decide)
    rw [text]
    exact .constant (by decide) value h.known

theorem isPlain_readSize (n : Nat) :
    IsPlain t types scope {numbered "size" n} (t.statement (.readSize n)) := by
  have value : Mentions "buffer.readInt()" [] := .fixed (by decide)
  cases t with
  | cpp =>
    have text : Target.cpp.statement (.readSize n) =
        "auto" ++ " " ++ numbered "size" n ++ " = " ++ "buffer.readInt()" ++ ";" := by
      show "auto size" ++ toString n ++ " = buffer.readInt();" = _
      exact String.toList_inj.mp (by simp [numbered])
    rw [text]
    exact .given (by decide) isTypeIn_auto (by decide) value (by simp)
  | typescript =>
    have text : Target.typescript.statement (.readSize n) =
        "const " ++ numbered "size" n ++ " = " ++ "buffer.readInt()" ++ ";" := by
      show "const size" ++ toString n ++ " = buffer.readInt();" = _
      exact String.toList_inj.mp (by simp [numbered])
    rw [text]
    exact .constant (by decide) value (by simp)

theorem isHeader_forCount (n : Nat) (size : numbered "size" n ∈ scope) :
    IsHeader t scope {numbered "index" n} (t.statement (.forCount n)) := by
  have text : t.statement (.forCount n) = countStart t ++ numbered "index" n ++ " = 0; " ++
      (numbered "index" n ++ " < " ++ numbered "size" n ++ "; " ++ numbered "index" n ++ "++") ++
      ") \x7b" := by
    cases t with
    | cpp =>
      show "for (int index" ++ toString n ++ " = 0; index" ++ toString n ++ " < size" ++
        toString n ++ "; index" ++ toString n ++ "++) \x7b" = _
      exact String.toList_inj.mp (by simp [numbered, countStart])
    | typescript =>
      show "for (let index" ++ toString n ++ " = 0; index" ++ toString n ++ " < size" ++
        toString n ++ "; index" ++ toString n ++ "++) \x7b" = _
      exact String.toList_inj.mp (by simp [numbered, countStart])
  obtain ⟨start, tight, apart⟩ : Mentions (countStart t) [] ∧ startsTight (countStart t) = true ∧
      endsApart (countStart t) = true := by
    cases t <;> exact ⟨.fixed (by decide), by decide⟩
  have zero : Mentions " = 0; " [] := ⟨by decide, by decide⟩
  have index : Mentions (numbered "index" n) _ := .temporary n (by decide)
  have bound : Mentions (numbered "size" n) _ := .temporary n (by decide)
  have rest : Mentions (numbered "index" n ++ " < " ++ numbered "size" n ++ "; " ++
      numbered "index" n ++ "++") _ :=
    ((index.around bound (by decide)).around index (by decide)).close (by decide)
  have front := (start.behind index apart).before zero (by decide)
  rw [text]
  refine .of_mentions ?_ (front.next rest (by decide)) ?_ ?_
  · simp only [String.append_assoc]
    exact startsTight_append tight _
  · rintro x rfl
    exact .index
  · intro x mem
    simp only [List.nil_append, List.mem_append, List.mem_singleton] at mem
    rcases mem with rfl | (rfl | rfl) | rfl
    · exact .inr rfl
    · exact .inr rfl
    · exact .inl size
    · exact .inr rfl

theorem isPlain_addElement (n : Nat) (kind : Sequence) (h : IsSource t scope e)
    (known : numbered "result" n ∈ scope) :
    IsPlain t types scope ∅ (t.statement (.addElement n kind e)) := by
  obtain ⟨call, text, fixed, first, last⟩ : ∃ call, t.statement (.addElement n kind e) =
      numbered "result" n ++ call ++ t.expression e ++ ");" ∧ Mentions call [] ∧
      startsApart call = true ∧ endsApart call = true := by
    cases t with
    | cpp =>
      refine ⟨"." ++ Cpp.insertion kind ++ "(", ?_, ?_⟩
      · show "result" ++ toString n ++ "." ++ Cpp.insertion kind ++ "(" ++ _ ++ ");" = _
        simp only [numbered, String.append_assoc]
        rfl
      · cases kind <;> exact ⟨.fixed (by decide), by decide⟩
    | typescript =>
      refine ⟨"." ++ TypeScript.insertion kind ++ "(", ?_, ?_⟩
      · show "result" ++ toString n ++ "." ++ TypeScript.insertion kind ++ "(" ++ _ ++ ");" = _
        simp only [numbered, String.append_assoc]
        rfl
      · cases kind <;> exact ⟨.fixed (by decide), by decide⟩
  have own : Mentions (numbered "result" n) _ := .temporary n (by decide)
  have front := own.before fixed first
  rw [text]
  refine .using ?_ ((front.next h.mentions last).close (by decide)) ?_
    (endsTight_append _ (by decide))
  · simp only [numbered, String.append_assoc]
    exact startsTight_append (by decide) _
  · intro x mem
    rcases List.mem_append.mp mem with same | inside
    · rw [List.mem_singleton.mp same]
      exact known
    · exact h.known x inside

theorem isPlain_addEntry (n : Nat) {k v : Expr} (hk : IsSource t scope k) (hv : IsSource t scope v)
    (known : numbered "result" n ∈ scope) :
    IsPlain t types scope ∅ (t.statement (.addEntry n k v)) := by
  obtain ⟨call, text, fixed, first, last⟩ : ∃ call, t.statement (.addEntry n k v) =
      numbered "result" n ++ call ++ t.expression k ++ ", " ++ t.expression v ++ ");" ∧
      Mentions call [] ∧ startsApart call = true ∧ endsApart call = true := by
    cases t with
    | cpp => exact ⟨".emplace(", rfl, .fixed (by decide), by decide⟩
    | typescript => exact ⟨".set(", rfl, .fixed (by decide), by decide⟩
  have own : Mentions (numbered "result" n) _ := .temporary n (by decide)
  have front := own.before fixed first
  rw [text]
  have whole := ((front.next hk.mentions last).around hv.mentions (b := ", ") (by decide)).close
    (b := ");") (by decide)
  refine .using ?_ whole ?_ (endsTight_append _ (by decide))
  · simp only [numbered, String.append_assoc]
    exact startsTight_append (by decide) _
  · intro x mem
    simp only [List.mem_append, List.mem_singleton] at mem
    rcases mem with (rfl | inside) | inside
    · exact known
    · exact hk.known x inside
    · exact hv.known x inside

theorem isPlain_readMessage (n : Nat) (id : MessageId) {type : String} (h : IsTypeIn types type) :
    IsPlain t types scope {numbered "result" n}
      (t.statement (.readMessage n id (t.annotated type))) := by
  cases t with
  | cpp =>
    have text : Target.cpp.statement (.readMessage n id (Target.cpp.annotated type)) =
        "auto" ++ " " ++ numbered "result" n ++ " = " ++ ("*((" ++ type ++
          " *) buffer.readPacket(" ++ id.text ++ ").get())") ++ ";" := by
      show "auto result" ++ toString n ++ " = *((" ++ type ++ " *) buffer.readPacket(" ++ id.text ++
        ").get());" = _
      exact String.toList_inj.mp (by simp [numbered])
    have value : Mentions ("*((" ++ type ++ " *) buffer.readPacket(" ++ id.text ++ ").get())") _ :=
      (((Mentions.fixed (u := "*((") (by decide)).behind (Mentions.mk h.flat rfl) (by decide)).around
        (.id id) (by decide)).close (by decide)
    rw [text]
    exact .given (by decide) isTypeIn_auto (by decide) value (by simpa using h.known)
  | typescript =>
    have text : Target.typescript.statement
        (.readMessage n id (Target.typescript.annotated type)) = "const " ++ numbered "result" n ++
          " = " ++ ("buffer.readPacket(" ++ id.text ++ ")") ++ ";" := by
      show "const result" ++ toString n ++ " = buffer.readPacket(" ++ id.text ++ ");" = _
      exact String.toList_inj.mp (by simp [numbered])
    have value : Mentions ("buffer.readPacket(" ++ id.text ++ ")") _ :=
      ((Mentions.fixed (u := "buffer.readPacket(") (by decide)).behind (.id id) (by decide)).close
        (by decide)
    rw [text]
    exact .constant (by decide) value (by simp)

end Statements

/-! ### The texts of types -/

/-- The names of messages. -/
def messageNames (ids : TypeName.MessageIds) : Set String := {x | (ids.lookup x).isSome}

/-- No primitive spelling is named like a temporary. -/
theorem isTemporary_primitives (t : Target) : ∀ p ∈ TypeName.primitives,
    isTemporary ((t.spelling.primitives.lookup p.1).getD p.1) = false := by
  cases t <;> decide

/-- The spelling of a scalar mentions nothing. -/
theorem mentions_scalar (t : Target) {word type : String} {kind : Scalar}
    (found : TypeName.primitives.lookup word = some kind)
    (spelled : t.spelling.spell (.simple word) = .ok type) : Mentions type [] ∧ type ≠ "return" := by
  obtain ⟨before, after, split, -⟩ := List.lookup_eq_some_iff.mp found
  have mem : (word, kind) ∈ TypeName.primitives := by simp [split]
  obtain ⟨head, scalar⟩ := Script.isScalarType_primitives t _ mem
  rw [Script.spell_simple _ head] at spelled
  obtain rfl := Except.ok.inj spelled
  simp only [Script.isScalarType, Script.isSegment, Bool.and_eq_true, bne_iff_ne] at scalar
  refine ⟨⟨isFlat_of_all scalar.1.1.1.2, ?_⟩, scalar.1.1.2⟩
  rw [temporaries, names_of_all scalar.1.1.1.2, List.filter_singleton,
    isTemporary_primitives t _ mem]
  rfl

/-- The head of a collection mentions nothing. -/
theorem mentions_collection {t : Target} {head : String} {kind : Script.Collection}
    (h : Script.collection? t head = some kind) : Mentions head [] := by
  unfold Script.collection? at h
  split at h
  all_goals first | exact .fixed (by decide) | cases h

/-- The spelling of a type mentions nothing but names of messages. -/
theorem exists_mentions (t : Target) {ids : TypeName.MessageIds} {w : WireType}
    (h : w.Resolved ids) {type : String} (spelled : t.spelling.spell w.name = .ok type) :
    ∃ xs, Mentions type xs ∧ ∀ x ∈ xs, x ∈ messageNames ids := by
  induction h generalizing type with
  | scalar found => exact ⟨[], (mentions_scalar t found spelled).1, by simp⟩
  | @sequence kind e resolved ih =>
    obtain ⟨s, inner, -⟩ := Script.spell_resolved t resolved
    obtain ⟨head, -, collection, whole⟩ := Script.spell_sequence t kind inner
    obtain rfl := Except.ok.inj (spelled.symm.trans whole)
    obtain ⟨xs, mentions, known⟩ := ih inner
    exact ⟨_, ((mentions_collection collection).around mentions (by decide)).close (by decide),
      known⟩
  | @map k v key value ihk ihv =>
    obtain ⟨a, innerKey, -⟩ := Script.spell_resolved t key
    obtain ⟨b, innerValue, -⟩ := Script.spell_resolved t value
    obtain ⟨head, -, collection, whole⟩ := Script.spell_map t innerKey innerValue
    obtain rfl := Except.ok.inj (spelled.symm.trans whole)
    obtain ⟨xs, mentionsKey, knownKey⟩ := ihk innerKey
    obtain ⟨ys, mentionsValue, knownValue⟩ := ihv innerValue
    have both : Mentions (a ++ ", " ++ b) (xs ++ ys) := mentionsKey.around mentionsValue (by decide)
    refine ⟨_, ((mentions_collection collection).around both (by decide)).close (by decide),
      fun x mem => ?_⟩
    rw [List.nil_append] at mem
    exact (List.mem_append.mp mem).elim (knownKey x) (knownValue x)
  | @message head id name other found =>
    obtain rfl := Except.ok.inj (spelled.symm.trans (Script.spell_message t name other))
    have parts : type.toList.all TypeName.isNamePart = true :=
      (Bool.and_eq_true_iff.mp (Script.isSegment_of_isName name)).2
    refine ⟨_, ⟨isFlat_of_all parts, rfl⟩, fun x mem => ?_⟩
    rw [temporaries, names_of_all parts] at mem
    rw [List.mem_singleton.mp (List.mem_of_mem_filter mem)]
    exact Option.isSome_iff_exists.mpr ⟨id, found⟩

/-- The spelling of a type is a type in a declaration. -/
theorem isTypeIn_of_spell (t : Target) {ids : TypeName.MessageIds} {w : WireType}
    (h : w.Resolved ids) {type : String} (spelled : t.spelling.spell w.name = .ok type) :
    IsTypeIn (messageNames ids) type := by
  obtain ⟨xs, mentions, known⟩ := exists_mentions t h spelled
  exact ⟨t.isPlainText_of_spell h.wellFormed_name spelled, mentions.flat, mentions.names ▸ known⟩

/-- Only a message can be spelled like what returns: the spelling of a container has brackets. -/
theorem ne_return_of_spell (t : Target) {ids : TypeName.MessageIds} {w : WireType}
    (h : w.Resolved ids) (other : w.tag ≠ .message) {type : String}
    (spelled : t.spelling.spell w.name = .ok type) : type ≠ "return" := by
  have applied : ∀ head inner : String, head ++ "<" ++ inner ++ ">" ≠ "return" := by
    intro head inner same
    have bracket : '<' ∈ "return".toList := by
      rw [← same]
      simp
    exact absurd bracket (by decide)
  cases h with
  | scalar found => exact (mentions_scalar t found spelled).2
  | @sequence kind e inside =>
    obtain ⟨s, inner, -⟩ := Script.spell_resolved t inside
    obtain ⟨head, -, -, whole⟩ := Script.spell_sequence t kind inner
    obtain rfl := Except.ok.inj (spelled.symm.trans whole)
    exact applied head s
  | map key value =>
    obtain ⟨a, innerKey, -⟩ := Script.spell_resolved t key
    obtain ⟨b, innerValue, -⟩ := Script.spell_resolved t value
    obtain ⟨head, -, -, whole⟩ := Script.spell_map t innerKey innerValue
    obtain rfl := Except.ok.inj (spelled.symm.trans whole)
    exact applied head _
  | message => exact absurd rfl other

end PacketSmith.Code
