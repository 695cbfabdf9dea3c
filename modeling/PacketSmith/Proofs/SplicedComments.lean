import PacketSmith.Proofs.InertComments
import PacketSmith.Proofs.SplicedLines

/-!
# Comments that go on in the next line

Documentation is made of comment lines, and nothing keeps them from an end with a backslash, which
makes a comment go on in the next line. A line of documentation ends with a backslash exactly if a
line of the text does, blanks aside. The line behind the documentation, which opens the class or
declares a field, is lost exactly if the text itself ends with a backslash, blanks aside, because
otherwise the comment goes on in another comment line (`compiled_iff_of_messageFile`).

What the lines of a text end with stays when the text is trimmed (`Text.inks_trim`).
-/

namespace PacketSmith

open Code

/-! ### Documentation before code -/

/-- The last line of the documentation ends with a backslash. -/
def Code.trails (text : Option String) : Bool := (commentLines text).getLast?.any endsInBackslash

/-- Documentation is made of comment lines. -/
theorem isCommentLine_of_mem_documentation {text : Option String} {depth : Int} {s : String}
    (mem : s ∈ documentation text depth Target.commentMark) : IsCommentLine s := by
  rw [documentation_eq] at mem
  obtain ⟨u, inside, rfl⟩ := List.mem_map.mp mem
  obtain ⟨comment, clean⟩ := isComment_of_mem_commentLines inside depth
  exact ⟨comment, fun feed => absurd (clean _ feed) (by decide)⟩

/-- Indentation does not matter for the end of a comment line. -/
theorem endsInBackslash_indent {text : Option String} {s : String} (mem : s ∈ commentLines text)
    (depth : Int) : endsInBackslash (indent depth ++ s) = endsInBackslash s := by
  obtain ⟨⟨rest, mark⟩, -⟩ := of_mem_commentLines mem
  have some : s.toList ≠ [] := by simp [mark]
  rw [endsInBackslash, String.toList_append, List.getLast?_append_of_ne_nil _ some]
  rfl

/-- The last line of indented documentation ends as that of the documentation. -/
theorem getLast?_documentation (text : Option String) (depth : Int) :
    (documentation text depth Target.commentMark).getLast?.any endsInBackslash = trails text := by
  rw [documentation_eq, List.getLast?_map, trails]
  cases last : (commentLines text).getLast? with
  | none => rfl
  | some s => exact endsInBackslash_indent (List.mem_of_getLast? last) depth

/-- A line that begins with another character than a slash is code. -/
theorem IsCodeLine.of_head {blanks s : String} {c : Char}
    (blank : ∀ c ∈ blanks.toList, c = ' ') (first : s.toList.head? = some c)
    (tight : Text.isBlank c = false) (other : c ≠ '/') (line : '\n' ∉ s.toList)
    (last : endsInBackslash s = false) : IsCodeLine (blanks ++ s) where
  code := by
    obtain ⟨rest, chars⟩ := List.head?_eq_some_iff.mp first
    rw [String.append_assoc, String.toList_append, Text.isComment_append, String.toList_append,
      chars, Text.isComment, List.cons_append, List.dropWhile_cons_of_neg (by simp [tight])]
    · simp [List.isPrefixOf, other.symm]
    · intro d mem
      rw [blank d mem]
      decide
  line := by
    rw [String.toList_append, List.mem_append]
    rintro (mem | mem)
    · exact absurd (blank _ mem) (by decide)
    · exact line mem
  last := by
    have some : s.toList ≠ [] := by
      intro none
      simp [none] at first
    rw [← last, endsInBackslash, endsInBackslash, String.toList_append,
      List.getLast?_append_of_ne_nil _ some]

/-! ### The code of a header -/

/-- What stands around the documentation in an outline of a header does not go on in the next line.
-/
structure Outline.IsSteady (o : Outline) (name : String) : Prop where
  /-- What stands before the class is closed. -/
  front : IsClosed o.front
  /-- The class is opened. -/
  opening : o.opening = Target.cpp.openingLines name
  /-- The name is a name. -/
  name : TypeName.isName name = true
  /-- Declarations are lines of code. -/
  declarations : ∀ s ∈ o.declarations, IsCodeLine (indent Target.cpp.fieldDepth ++ s)

/-- The line that opens a class is code. -/
theorem isCodeLine_opening {name : String} (isName : TypeName.isName name = true) :
    IsCodeLine ("    class " ++ name ++ " : public IPacket \x7b") := by
  have split : "    class " = indent 1 ++ "class " := by decide
  rw [split, String.append_assoc, String.append_assoc]
  apply IsCodeLine.of_head (c := 'c')
  · exact fun c mem => eq_space_of_mem_indent mem
  · simp
  · decide
  · decide
  · simp only [String.toList_append, List.mem_append, not_or]
    refine ⟨by decide, fun mem => ?_, by decide⟩
    exact absurd (TypeName.isNamePart_of_isNameList isName mem) (by decide)
  · rw [← String.append_assoc, endsInBackslash, String.toList_append,
      List.getLast?_append_of_ne_nil _ (by simp)]
    decide

/-- Items that give nothing are left out. -/
theorem flatMap_ite_eq_map_filter {α β : Type} (p : α → Bool) (g : α → β) (xs : List α) :
    (xs.flatMap fun x => if p x then [] else [g x]) = (xs.filter fun x => !p x).map g := by
  induction xs with
  | nil => rfl
  | cons x xs ih =>
    rw [List.flatMap_cons, ih, List.filter_cons]
    by_cases out : p x = true
    · simp [out]
    · simp [out]

/-- The declarations that documentation does not take away. -/
theorem compiledLines_fieldLines (fs : List Field) {declarations : List String}
    (h : ∀ s ∈ declarations, IsCodeLine (indent Target.cpp.fieldDepth ++ s)) :
    IsClosed (endLines (Target.cpp.fieldLines fs declarations)) ∧
      Text.compiledLines (endLines (Target.cpp.fieldLines fs declarations)) =
        ((fs.zip declarations).filter fun p => !trails p.1.comment).map fun p =>
          (indent Target.cpp.fieldDepth ++ p.2 ++ "\n").toList := by
  have code : ∀ p ∈ fs.zip declarations, IsCodeLine (indent Target.cpp.fieldDepth ++ p.2) :=
    fun p mem => h p.2 (List.of_mem_zip mem).2
  obtain ⟨closed, lines⟩ := IsClosed.flatMap (f := fun p : Field × String =>
    documentation p.1.comment Target.cpp.fieldDepth Target.commentMark ++
      [indent Target.cpp.fieldDepth ++ p.2]) (fun p mem => IsClosed.block _ (code p mem))
  refine ⟨closed, ?_⟩
  rw [Target.fieldLines, lines, ← flatMap_ite_eq_map_filter]
  apply List.flatMap_congr
  intro p mem
  rw [compiledLines_block (fun s => isCommentLine_of_mem_documentation) (code p mem),
    getLast?_documentation]

/-- The code of a header: what its documentation takes away is left out. -/
theorem Outline.IsSteady.compiledLines_content {o : Outline} {name : String} (h : o.IsSteady name)
    (m : Message) : Text.compiledLines (o.content .cpp m) = Text.compiledLines o.front ++
      ((if trails m.comment then [] else
        [("    class " ++ name ++ " : public IPacket \x7b" ++ "\n").toList]) ++
      (Text.compiledLines (endLines ["    public:"]) ++
      ((((m.fields.zip o.declarations).filter fun p => !trails p.1.comment).map fun p =>
        (indent Target.cpp.fieldDepth ++ p.2 ++ "\n").toList) ++
      Text.compiledLines ((if (m.fields.zip o.declarations).isEmpty then "" else "\n") ++
        o.back)))) := by
  have first := isCodeLine_opening h.name
  obtain ⟨closed, lines⟩ := compiledLines_fieldLines m.fields h.declarations
  have label : IsClosed (endLines ["    public:"]) :=
    IsClosed.block [] ⟨by decide, by decide, by decide⟩
  have pieces : o.content .cpp m = o.front ++ (endLines (documentation m.comment
      Target.cpp.documentationDepth Target.commentMark ++
        ["    class " ++ name ++ " : public IPacket \x7b"]) ++ (endLines ["    public:"] ++
      (endLines (Target.cpp.fieldLines m.fields o.declarations) ++
        ((if (m.fields.zip o.declarations).isEmpty then "" else "\n") ++ o.back)))) := by
    have opening : endLines o.opening =
        endLines ["    class " ++ name ++ " : public IPacket \x7b"] ++ endLines ["    public:"] := by
      rw [h.opening]
      exact endLines_append [_] [_]
    rw [Outline.content, endSection, Target.isEmpty_fieldLines, opening, endLines_append]
    simp only [String.append_assoc]
  rw [pieces, h.front.compiledLines_append, (IsClosed.block _ first).compiledLines_append,
    label.compiledLines_append, closed.compiledLines_append, lines,
    compiledLines_block (fun s => isCommentLine_of_mem_documentation) first, getLast?_documentation]

/-- A header has the code of the header without documentation exactly if no documentation goes on in
the next line of code. -/
theorem Outline.IsSteady.compiledLines_eq_iff {o : Outline} {name : String} (h : o.IsSteady name)
    {m : Message} (length : m.fields.length ≤ o.declarations.length) :
    Text.compiledLines (o.content .cpp m) = Text.compiledLines (o.content .cpp m.uncommented) ↔
      trails m.comment = false ∧ ∀ f ∈ m.fields, trails f.comment = false := by
  have all : ((m.fields.zip o.declarations).map (Prod.map Field.uncommented id)).filter
      (fun p => !trails p.1.comment) =
        (m.fields.zip o.declarations).map (Prod.map Field.uncommented id) := by
    rw [List.filter_eq_self, List.forall_mem_map]
    exact fun p _ => rfl
  have fields : (∀ f ∈ m.fields, trails f.comment = false) ↔
      ∀ p ∈ m.fields.zip o.declarations, (!trails p.1.comment) = true := by
    nth_rewrite 1 [← List.map_fst_zip length]
    simp only [List.forall_mem_map, Bool.not_eq_true']
  have bare : trails m.uncommented.comment = false := rfl
  rw [h.compiledLines_content, h.compiledLines_content, zip_fields_uncommented, all, bare,
    List.map_map, List.isEmpty_map, List.append_right_inj, fields]
  constructor
  · intro same
    -- nothing is put in for a line that is lost, so the number of lines tells
    have lengths := congrArg List.length same
    have most := List.length_filter_le (fun p => !trails p.1.comment) (m.fields.zip o.declarations)
    simp only [List.length_append, List.length_map] at lengths
    by_cases trail : trails m.comment = true
    · simp only [trail, if_true, List.length_nil, Bool.false_eq_true, if_false,
        List.length_singleton] at lengths
      omega
    · rw [Bool.not_eq_true] at trail
      refine ⟨trail, List.length_filter_eq_length_iff.mp ?_⟩
      simp only [trail] at lengths
      omega
  · rintro ⟨own, others⟩
    rw [own, List.filter_eq_self.mpr others]
    rfl

/-! ### Documentation that goes on -/

namespace Text

/-- The last character other than blanks. -/
def lastInk (cs : List Char) : Option Char := (cs.filter (!isBlank ·)).getLast?

/-- The end of a line is a blank. -/
theorem isBlank_of_isLineEnd {c : Char} (h : isLineEnd c = true) : isBlank c = true := by
  simp only [isLineEnd, Bool.or_eq_true, Bool.and_eq_true, decide_eq_true_eq, beq_iff_eq] at h
  simp only [isBlank, Bool.or_eq_true, Bool.and_eq_true, decide_eq_true_eq, beq_iff_eq]
  omega

theorem lastInk_append (a b : List Char) : lastInk (a ++ b) = (lastInk b).or (lastInk a) := by
  unfold lastInk
  rw [List.filter_append, List.getLast?_append]

/-- Blanks have no ink. -/
theorem lastInk_blanks {bs : List Char} (h : ∀ c ∈ bs, isBlank c = true) : lastInk bs = none := by
  unfold lastInk
  rw [List.getLast?_eq_none_iff, List.filter_eq_nil_iff]
  intro c mem
  simp [h c mem]

/-- Blanks at the end do not matter. -/
theorem lastInk_append_blanks {bs : List Char} (h : ∀ c ∈ bs, isBlank c = true) (cs : List Char) :
    lastInk (cs ++ bs) = lastInk cs := by
  rw [lastInk_append, lastInk_blanks h, Option.none_or]

/-- Blanks at the start do not matter. -/
theorem lastInk_blanks_append {bs : List Char} (h : ∀ c ∈ bs, isBlank c = true) (cs : List Char) :
    lastInk (bs ++ cs) = lastInk cs := by
  rw [lastInk_append, lastInk_blanks h, Option.or_none]

/-- A last character that is no blank is the last one other than blanks. -/
theorem lastInk_of_getLast? {cs : List Char} {c : Char} (last : cs.getLast? = some c)
    (black : isBlank c = false) : lastInk cs = some c := by
  obtain ⟨front, rfl⟩ := List.getLast?_eq_some_iff.mp last
  rw [lastInk_append]
  simp [lastInk, black]

/-- Without the blanks at the end, the last character is the last one other than blanks. -/
theorem getLast?_dropEndBlanks_eq (cs : List Char) : (dropEndBlanks cs).getLast? = lastInk cs := by
  rw [dropEndBlanks, List.getLast?_reverse, lastInk, ← List.head?_reverse, ← List.filter_reverse,
    List.head?_filter, List.find?_eq_head?_dropWhile_not]
  simp

/-- The last line of a text ends with the last character of the text, if that ends no line. -/
theorem getLast?_linesFrom (current : List Char) {cs : List Char} {c : Char} (last : cs.getLast? = some c)
    (inside : isLineEnd c = false) :
    ∃ l, (linesFrom current cs).getLast? = some l ∧ l.getLast? = some c := by
  fun_induction linesFrom current cs with
  | case1 current empty => cases last
  | case2 current some => cases last
  | case3 current rest ih =>
    cases rest with
    | nil =>
      obtain rfl : '\n' = c := by simpa using last
      exact absurd inside (by decide)
    | cons d ds =>
      obtain ⟨l, found, ends⟩ := ih (by simpa using last)
      exact ⟨l, by rw [List.getLast?_cons, found]; rfl, ends⟩
  | case4 current d rest _ stop ih =>
    cases rest with
    | nil =>
      obtain rfl : d = c := by simpa using last
      exact absurd (stop.symm.trans inside) (by decide)
    | cons e es =>
      obtain ⟨l, found, ends⟩ := ih (by simpa using last)
      exact ⟨l, by rw [List.getLast?_cons, found]; rfl, ends⟩
  | case5 current d rest _ stop ih =>
    cases rest with
    | nil =>
      obtain rfl : d = c := by simpa using last
      exact ⟨(d :: current).reverse, by simp [linesFrom], by simp⟩
    | cons e es => exact ih (by simpa using last)

/-! What the lines of a text end with stays when the text is trimmed. -/

/-- The line begun so far is a line at the end of the text, unless it is empty. -/
theorem inks_nil (current : List Char) :
    (linesFrom current []).filterMap lastInk = (lastInk current.reverse).toList := by
  rw [linesFrom]
  split
  · rename_i empty
    rw [List.isEmpty_iff.mp empty]
    rfl
  · cases found : lastInk current.reverse with
    | none => simp [found]
    | some c => simp [found]

/-- Blanks at the start of the first line do not matter. -/
theorem inks_current_append {bs : List Char} (h : ∀ c ∈ bs, isBlank c = true)
    (current cs : List Char) : (linesFrom (current ++ bs) cs).filterMap lastInk =
      (linesFrom current cs).filterMap lastInk := by
  have first : ∀ current : List Char,
      lastInk (current ++ bs).reverse = lastInk current.reverse := by
    intro current
    rw [List.reverse_append]
    exact lastInk_blanks_append (by simpa using h) _
  induction current, cs using linesFrom.induct with
  | case1 current empty => rw [inks_nil, inks_nil, first]
  | case2 current some => rw [inks_nil, inks_nil, first]
  | case3 current rest ih =>
    rw [linesFrom, linesFrom, List.filterMap_cons, first, List.filterMap_cons]
  | case4 current c rest apart stop ih =>
    rw [linesFrom, linesFrom, if_pos stop, if_pos stop, List.filterMap_cons, first,
      List.filterMap_cons]
    · exact apart
    · exact apart
  | case5 current c rest apart stop ih =>
    rw [linesFrom, linesFrom, if_neg stop, if_neg stop]
    · exact ih
    · exact apart
    · exact apart

/-- A blank before a text does not matter. -/
theorem inks_cons_blank {b : Char} (h : isBlank b = true) (cs : List Char) :
    (linesFrom [] (b :: cs)).filterMap lastInk = (linesFrom [] cs).filterMap lastInk := by
  have alone : ∀ c ∈ [b], isBlank c = true := by simpa using h
  by_cases pair : b = '\r' ∧ ∃ rest, cs = '\n' :: rest
  · -- the end of a line that is left is an end of a line as well
    obtain ⟨rfl, rest, rfl⟩ := pair
    rw [linesFrom, linesFrom, if_pos (by decide)]
    simp
  · have apart : ∀ rest, b = '\r' → cs = '\n' :: rest → False :=
      fun rest same more => pair ⟨same, rest, more⟩
    rw [linesFrom]
    · split
      · rfl
      · exact inks_current_append alone [] cs
    · exact apart

/-- A blank behind a text does not matter. -/
theorem inks_concat_blank {b : Char} (h : isBlank b = true) (current cs : List Char) :
    (linesFrom current (cs ++ [b])).filterMap lastInk = (linesFrom current cs).filterMap lastInk := by
  have alone : ∀ c ∈ [b], isBlank c = true := by simpa using h
  have base : ∀ current, (linesFrom current [b]).filterMap lastInk =
      (linesFrom current []).filterMap lastInk := by
    intro current
    rw [inks_nil, linesFrom]
    · split
      · rw [List.filterMap_cons, inks_nil]
        cases lastInk current.reverse <;> rfl
      · rw [inks_nil, List.reverse_cons, lastInk_append_blanks alone]
    · simp
  induction current, cs using linesFrom.induct with
  | case1 current empty => exact base current
  | case2 current some => exact base current
  | case3 current rest ih =>
    rw [List.cons_append, List.cons_append, linesFrom, linesFrom, List.filterMap_cons, ih,
      List.filterMap_cons]
  | case4 current c rest apart stop ih =>
    by_cases pair : c = '\r' ∧ ∃ more, rest ++ [b] = '\n' :: more
    · -- the blank joins the end of the last line
      obtain ⟨rfl, more, same⟩ := pair
      cases rest with
      | nil =>
        obtain ⟨rfl, rfl⟩ := List.cons.inj same
        simp [linesFrom, stop]
      | cons d ds => exact absurd (List.cons.inj same).1 (fun feed => apart ds rfl (by rw [feed]))
    · rw [List.cons_append, linesFrom, linesFrom, if_pos stop, if_pos stop, List.filterMap_cons, ih,
        List.filterMap_cons]
      · exact apart
      · exact fun more same feed => pair ⟨same, more, feed⟩
  | case5 current c rest apart stop ih =>
    rw [List.cons_append, linesFrom, linesFrom, if_neg stop, if_neg stop]
    · exact ih
    · exact apart
    · rintro more rfl -
      exact stop (by decide)

/-- The lines of a trimmed text end, blanks aside, as those of the text. -/
theorem inks_trim (s : String) : (lines (trim s)).filterMap (lastInk ·.toList) =
    (lines s).filterMap (lastInk ·.toList) := by
  have plain : ∀ u : String, (lines u).filterMap (lastInk ·.toList) =
      (linesFrom [] u.toList).filterMap lastInk := by
    intro u
    rw [lines, List.filterMap_map]
    congr 1
    funext l
    exact congrArg lastInk String.toList_ofList
  have front : ∀ cs, (linesFrom [] (cs.dropWhile isBlank)).filterMap lastInk =
      (linesFrom [] cs).filterMap lastInk := by
    intro cs
    induction cs with
    | nil => rfl
    | cons c cs ih =>
      rw [List.dropWhile_cons]
      split
      · rename_i blank
        rw [ih, inks_cons_blank blank]
      · rfl
  have back : ∀ cs, (linesFrom [] (dropEndBlanks cs)).filterMap lastInk =
      (linesFrom [] cs).filterMap lastInk := by
    intro cs
    induction cs using List.reverseRecOn with
    | nil => rfl
    | append_singleton cs c ih =>
      rw [dropEndBlanks, List.reverse_concat, List.dropWhile_cons]
      split
      · rename_i blank
        rw [inks_concat_blank blank, ← ih]
        rfl
      · rw [List.reverse_cons, List.reverse_reverse]
  rw [plain, plain, trim, String.toList_ofList, back, front]

/-- The last character of a text other than blanks is that of a trimmed text. -/
theorem getLast?_trim (s : String) : (trim s).toList.getLast? = lastInk s.toList := by
  have blank : ∀ c ∈ s.toList.takeWhile isBlank, isBlank c = true := by
    intro c mem
    exact List.all_eq_true.mp List.all_takeWhile c mem
  rw [trim, String.toList_ofList, getLast?_dropEndBlanks_eq, ← lastInk_blanks_append blank,
    List.takeWhile_append_dropWhile]

end Text

namespace Code

/-- A comment line ends with a backslash if the line of the text does, blanks aside. -/
theorem endsInBackslash_comment (l : String) :
    endsInBackslash (Text.trimEnd (Target.commentMark ++ l)) =
      (Text.lastInk l.toList == some '\\') := by
  have mark : Text.lastInk Target.commentMark.toList = some '/' := by decide
  rw [endsInBackslash, Text.trimEnd, String.toList_ofList, Text.getLast?_dropEndBlanks_eq,
    String.toList_append, Text.lastInk_append, mark]
  cases Text.lastInk l.toList with
  | none => rfl
  | some c => rfl

/-- Documentation ends with a backslash if its text does, blanks aside. -/
theorem trails_some (s : String) : trails (some s) = (Text.lastInk s.toList == some '\\') := by
  have whole := Text.getLast?_trim s
  rw [trails, commentLines, List.getLast?_map, Option.any_map, Text.lines, List.getLast?_map,
    Option.any_map]
  cases ink : Text.lastInk s.toList with
  | none =>
    rw [ink, List.getLast?_eq_none_iff] at whole
    rw [whole]
    rfl
  | some c =>
    rw [ink] at whole
    have black : Text.isBlank c = false := by
      have inside := List.mem_of_getLast? ink
      simpa using List.of_mem_filter inside
    have inside : Text.isLineEnd c = false := by
      by_contra stop
      have blank := Text.isBlank_of_isLineEnd (by simpa using stop)
      exact absurd (blank.symm.trans black) (by decide)
    obtain ⟨l, last, ends⟩ := Text.getLast?_linesFrom [] whole inside
    rw [last, Option.any_some, endsInBackslash_comment, String.toList_ofList,
      Text.lastInk_of_getLast? ends black]

/-- No line of documentation ends with a backslash exactly if no line of the text does, blanks aside. -/
theorem forall_documentation_iff (text : Option String) (depth : Int) :
    (∀ u ∈ documentation text depth Target.commentMark, endsInBackslash u = false) ↔
      ∀ s ∈ text, ∀ l ∈ Text.lines s, Text.lastInk l.toList ≠ some '\\' := by
  have own : (∀ u ∈ documentation text depth Target.commentMark, endsInBackslash u = false) ↔
      ∀ u ∈ commentLines text, endsInBackslash u = false := by
    rw [documentation_eq, List.forall_mem_map]
    exact forall₂_congr fun u mem => by rw [endsInBackslash_indent mem]
  have inks : ∀ u : String, (∀ l ∈ Text.lines u, Text.lastInk l.toList ≠ some '\\') ↔
      '\\' ∉ (Text.lines u).filterMap (Text.lastInk ·.toList) := by
    intro u
    rw [List.mem_filterMap]
    simp
  rw [own]
  cases text with
  | none => simp [commentLines]
  | some s =>
    have lines := inks (Text.trim s)
    rw [Text.inks_trim, ← inks] at lines
    rw [commentLines, List.forall_mem_map]
    simpa [endsInBackslash_comment] using lines

end Code

/-! ### Headers with documentation -/

/-- The texts that document a message and its fields. -/
def Message.comments (m : Message) : List String := m.comment.toList ++ m.fields.filterMap (·.comment)

/-- The lines that document a message and its fields in a file. -/
def Message.documentationLines (m : Message) (t : Target) : List String :=
  documentation m.comment t.documentationDepth Target.commentMark ++
    m.fields.flatMap fun f => documentation f.comment t.fieldDepth Target.commentMark

namespace Message

variable (m : Message)

/-- What holds of each text that documents a message holds of the texts of the message and of its
fields. -/
theorem forall_mem_comments {P : String → Prop} : (∀ s ∈ m.comments, P s) ↔
    (∀ s ∈ m.comment, P s) ∧ ∀ f ∈ m.fields, ∀ s ∈ f.comment, P s := by
  unfold comments
  rw [List.forall_mem_append]
  constructor
  · rintro ⟨own, others⟩
    refine ⟨fun s given => own s (by simpa using given), fun f mem s given => ?_⟩
    exact others s (List.mem_filterMap.mpr ⟨f, mem, given⟩)
  · rintro ⟨own, others⟩
    refine ⟨fun s given => own s (by simpa using given), fun s mem => ?_⟩
    obtain ⟨f, inside, given⟩ := List.mem_filterMap.mp mem
    exact others f inside s given

end Message

namespace OutputContext

variable {x : OutputContext} {r : Registry} {m : Message}

/-- The declaration of a field is a line of code. -/
theorem isCodeLine_of_declared {c : Coder} (target : c.target = .cpp) {f : Field}
    (spelled : f.IsSpelled) {d : DeclaredField} {s : String} (h : c.declared f = .ok (d, s))
    (depth : Int) : IsCodeLine (indent depth ++ s) := by
  obtain ⟨rfl, typed⟩ := Coder.cpp_of_declared target h
  have plain := Target.cpp.isPlainText_of_spell spelled.type typed
  obtain ⟨name, given, isName⟩ := (Option.any_eq_true _ _).mp spelled.name
  obtain ⟨c, first, start⟩ := (Option.any_eq_true _ _).mp plain.first
  apply IsCodeLine.of_head (c := c)
  · exact fun c mem => eq_space_of_mem_indent mem
  · obtain ⟨rest, chars⟩ := List.head?_eq_some_iff.mp first
    simp [chars]
  · exact TypeName.isBlank_of_isNameStart start
  · rintro rfl
    exact absurd start (by decide)
  · simp only [String.toList_append, List.mem_append, not_or, given]
    refine ⟨⟨⟨fun mem => ?_, by decide⟩, fun mem => ?_⟩, by decide⟩
    · exact absurd (List.all_eq_true.mp plain.chars _ mem) (by decide)
    · exact absurd (TypeName.isNamePart_of_isNameList isName mem) (by decide)
  · rw [endsInBackslash, String.toList_append, List.getLast?_append_of_ne_nil _ (by simp)]
    decide

/-- The outline of a header is steady. -/
theorem isSteady_of_outline (target : x.target = .cpp) (spelled : m.IsSpelled) {o : Outline}
    (h : x.outline r m = .ok o) :
    o.IsSteady (shown m.name) ∧ m.fields.length = o.declarations.length := by
  obtain ⟨parts, values, bare, -, front, opening, -⟩ := of_outline h
  obtain ⟨-, -, declared, made, -, declarations⟩ := of_bareParts bare
  obtain ⟨name, given, isName⟩ := (Option.any_eq_true _ _).mp spelled.name
  have length : m.fields.length = o.declarations.length := by
    simpa [declarations] using made.length_eq
  refine ⟨⟨?_, by rw [opening, target], by rw [given]; exact isName, ?_⟩, length⟩
  · -- an empty line stands at the end
    have rows : Target.cpp.frontRows = Template.cppMessage.rows.take 7 ++ [.line []] := rfl
    have last : ∀ values, Template.renderRows values [.line []] = "" ++ "\n" := fun _ => rfl
    rw [front, target, rows, Template.renderRows_append, last]
    exact IsClosed.append_line (isWhole_renderRows (by decide) _ _) (by decide) (by decide)
  · rw [declarations, List.forall_mem_map]
    rintro ⟨d, s⟩ mem
    obtain ⟨f, inside, declares⟩ := exists_of_mem_forall₂ made mem
    exact isCodeLine_of_declared target (spelled.fields f inside) declares _

end OutputContext

/-- The documentation of a message and of its fields stands in its header, line by line. -/
theorem Outline.IsSteady.mem_cutLines_content {o : Outline} {name : String} (h : o.IsSteady name)
    {m : Message} (length : m.fields.length ≤ o.declarations.length) {s : String}
    (mem : s ∈ m.documentationLines .cpp) :
    (s ++ "\n").toList ∈ Text.cutLines (· == '\n') (o.content .cpp m).toList := by
  have whole : ∀ ss, Text.IsWhole (· == '\n') (endLines ss).toList := isWhole_endLines (by decide)
  have own : ∀ ss : List String, s ∈ ss → IsCommentLine s →
      (s ++ "\n").toList ∈ Text.cutLines (· == '\n') (endLines ss).toList := by
    intro ss inside comment
    have cut : Text.cutLines (· == '\n') (endLines ss).toList =
        ss.flatMap fun s => Text.cutLines (· == '\n') (s ++ "\n").toList :=
      cutLines_endLines (by decide) ss
    rw [cut, List.mem_flatMap]
    exact ⟨s, inside, by rw [cutLines_feed comment.line]; exact .head _⟩
  rw [Outline.content, endSection]
  simp only [String.append_assoc]
  rw [String.toList_append, Text.cutLines_append h.front.whole, String.toList_append,
    Text.cutLines_append (whole _), String.toList_append, Text.cutLines_append (whole _),
    String.toList_append, Text.cutLines_append (whole _)]
  simp only [List.mem_append]
  rcases List.mem_append.mp mem with first | field
  · exact .inr (.inl (own _ first (isCommentLine_of_mem_documentation first)))
  · obtain ⟨f, inside, line⟩ := List.mem_flatMap.mp field
    rw [← List.map_fst_zip length] at inside
    obtain ⟨p, pair, rfl⟩ := List.mem_map.mp inside
    refine .inr (.inr (.inr (.inl (own _ ?_ (isCommentLine_of_mem_documentation line)))))
    exact List.mem_flatMap.mpr ⟨p, pair, List.mem_append_left _ line⟩

/-- No line that documents a message ends with a backslash exactly if no line of its texts does, blanks
aside. -/
theorem Message.forall_documentationLines_iff (m : Message) (t : Target) :
    (∀ s ∈ m.documentationLines t, endsInBackslash s = false) ↔
      ∀ s ∈ m.comments, ∀ l ∈ Text.lines s, Text.lastInk l.toList ≠ some '\\' := by
  rw [documentationLines, List.forall_mem_append, List.forall_mem_flatMap, forall_mem_comments]
  simp only [forall_documentation_iff]

namespace OutputContext

variable {x : OutputContext} {r : Registry} {m : Message} (target : x.target = .cpp)
  (spelled : m.IsSpelled) {file : OutputFile} (laid : x.messageFile r m = .ok file)

include target spelled laid

/-- A header has a steady outline. -/
theorem exists_isSteady_of_messageFile : ∃ o : Outline, x.outline r m = .ok o ∧
    file.content = o.content .cpp m ∧ o.IsSteady (shown m.name) ∧
    m.fields.length ≤ o.declarations.length := by
  obtain ⟨o, outlined, rfl⟩ := exists_outline_of_messageFile spelled laid
  obtain ⟨steady, length⟩ := isSteady_of_outline target spelled outlined
  exact ⟨o, outlined, by rw [target], steady, Nat.le_of_eq length⟩

/-- A header is as the one without documentation for a compiler that splices lines, exactly if no text
ends with a backslash, blanks aside. -/
theorem exists_compiledLines_eq_iff :
    ∃ plain, x.messageFile r.uncommented m.uncommented = .ok plain ∧
      (Text.compiledLines file.content = Text.compiledLines plain.content ↔
        ∀ s ∈ m.comments, Text.lastInk s.toList ≠ some '\\') := by
  obtain ⟨o, outlined, content, steady, length⟩ :=
    exists_isSteady_of_messageFile target spelled laid
  have bare := messageFile_eq (x := x) (r := r.uncommented)
    (Message.isSpelled_uncommented_iff.mpr spelled)
  rw [outline_uncommented, outlined] at bare
  have texts : ∀ text : Option String, trails text = false ↔
      ∀ s ∈ text, Text.lastInk s.toList ≠ some '\\' := by
    intro text
    cases text with
    | none => simp [trails, commentLines]
    | some s => simp [trails_some]
  refine ⟨_, bare, ?_⟩
  rw [content, target, steady.compiledLines_eq_iff length, Message.forall_mem_comments]
  simp only [texts]

/-- A comment may go on in the next line. The documentation of a message and of its fields stands in
the header, and none of its lines ends with a backslash exactly if no line of the texts does, blanks
aside. The code that is left for a compiler is that of the header without documentation exactly if no
text ends with a backslash, blanks aside. -/
theorem compiled_iff_of_messageFile :
    (∀ s ∈ m.documentationLines .cpp,
      (s ++ "\n").toList ∈ Text.cutLines (· == '\n') file.content.toList) ∧
    ((∀ s ∈ m.documentationLines .cpp, endsInBackslash s = false) ↔
      ∀ s ∈ m.comments, ∀ l ∈ Text.lines s, Text.lastInk l.toList ≠ some '\\') ∧
    ∃ plain, x.messageFile r.uncommented m.uncommented = .ok plain ∧
      (Text.compiledLines file.content = Text.compiledLines plain.content ↔
        ∀ s ∈ m.comments, Text.lastInk s.toList ≠ some '\\') := by
  refine ⟨fun s mem => ?_, m.forall_documentationLines_iff .cpp,
    exists_compiledLines_eq_iff target spelled laid⟩
  obtain ⟨o, -, content, steady, length⟩ := exists_isSteady_of_messageFile target spelled laid
  rw [content]
  exact steady.mem_cutLines_content length mem

end OutputContext

namespace OutputContext

namespace Sample

open Registry.Sample (field)

/-- A message whose first field is documented by the text. -/
def located (text : String) : RegistryDefinition where
  messages := some [
    { id := .number 1, name := some "File", fields := some [
      { field "path" "String" with comment := some text }, field "size" "long"] }]

/-- The message has a header, whatever the text is. -/
theorem exists_messageFile_located (text : String) : ∃ (r : Registry) (m : Message)
    (x : OutputContext) (file : OutputFile), Registry.ofDefinition (located text) = .ok r ∧
      m ∈ r.messages ∧ x.target = .cpp ∧ m.IsSpelled ∧ x.messageFile r m = .ok file ∧
      m.comments = [text] := by
  obtain ⟨r, made⟩ : ∃ r, Registry.ofDefinition (located text) = .ok r := ⟨_, by cbv⟩
  have built := Registry.isBuilt_of_ofDefinition made
  have facts : ∃ m ∈ r.messages, m.name.any TypeName.isName = true ∧
      (∀ f ∈ m.fields, f.name.any TypeName.isName = true) ∧
      (∀ m ∈ r.messages, m.module ≠ none) ∧ m.id ≠ .null ∧ m.name ≠ none ∧
      (∃ ids, r.dependencies m.id = .ok ids) ∧ m.comments = [text] := by
    obtain rfl := Except.ok.inj (made.symm.trans (by cbv))
    refine ⟨_, .head _, rfl, ?_, ?_, by simp, by simp, ⟨_, by cbv⟩, rfl⟩
    · exact List.forall_mem_cons.mpr ⟨rfl, List.forall_mem_singleton.mpr rfl⟩
    · exact List.forall_mem_singleton.mpr (by simp)
  obtain ⟨m, hm, name, fields, modules, id, given, ⟨ids, told⟩, comments⟩ := facts
  obtain ⟨x, file, target, laid⟩ := exists_context_of_dependencies built modules .cpp hm id given told
  exact ⟨r, m, x, file, made, hm, target, built.isSpelled hm name fields, laid, comments⟩

end Sample

/-- A backslash at the end of a line that is not the last one makes a line of documentation end with a
backslash, but no code is lost. -/
theorem compiled_iff_of_messageFile_sample : ∃ (r : Registry) (m : Message) (x : OutputContext)
    (file plain : OutputFile),
    Registry.ofDefinition (Sample.located "starts with C:\\ \nor with a slash") = .ok r ∧
    m ∈ r.messages ∧ x.target = .cpp ∧ m.IsSpelled ∧ x.messageFile r m = .ok file ∧
    x.messageFile r.uncommented m.uncommented = .ok plain ∧
    (¬∀ s ∈ m.documentationLines .cpp, endsInBackslash s = false) ∧
    Text.compiledLines file.content = Text.compiledLines plain.content := by
  obtain ⟨r, m, x, file, made, hm, target, spelled, laid, comments⟩ :=
    Sample.exists_messageFile_located "starts with C:\\ \nor with a slash"
  obtain ⟨-, ends, plain, bare, same⟩ := compiled_iff_of_messageFile target spelled laid
  rw [comments] at ends same
  refine ⟨r, m, x, file, plain, made, hm, target, spelled, laid, bare, ?_, same.mpr ?_⟩
  · rw [ends]
    decide
  · decide

/-- A text that ends with a backslash takes the declaration of a field away. -/
theorem field_lost_to_comment : ∃ (r : Registry) (m : Message) (x : OutputContext)
    (file plain : OutputFile), Registry.ofDefinition (Sample.located "starts with C:\\") = .ok r ∧
    m ∈ r.messages ∧ x.target = .cpp ∧ x.messageFile r m = .ok file ∧
    x.messageFile r.uncommented m.uncommented = .ok plain ∧
    (∃ s ∈ m.documentationLines .cpp, endsInBackslash s = true) ∧
    Text.compiledLines file.content ≠ Text.compiledLines plain.content := by
  obtain ⟨r, m, x, file, made, hm, target, spelled, laid, comments⟩ :=
    Sample.exists_messageFile_located "starts with C:\\"
  have ends := m.forall_documentationLines_iff .cpp
  obtain ⟨plain, bare, same⟩ := exists_compiledLines_eq_iff target spelled laid
  rw [comments] at ends same
  refine ⟨r, m, x, file, plain, made, hm, target, laid, bare, ?_, fun equal => ?_⟩
  · by_contra none
    refine absurd (ends.mp fun s mem => ?_) (by decide)
    by_contra end_
    exact none ⟨s, mem, by simpa using end_⟩
  · exact absurd (same.mp equal) (by decide)

end OutputContext

end PacketSmith
