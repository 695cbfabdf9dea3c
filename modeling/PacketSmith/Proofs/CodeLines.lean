import PacketSmith.Proofs.FileLayout

/-!
# Lines of code and lines of comments

A text is cut into lines, each with the character that ends it (`Text.cutLines`). Which characters
end a line is left open: C++ knows the line feed alone, TypeScript four of them, and documentation is
split at all that there are. A line is a comment if its first characters other than blanks are two
slashes, and the other lines are code (`Text.codeLines`).

Both notions go through a text piece by piece as long as the pieces are whole lines
(`cutLines_append`, `codeLines_append`), so the code of a file is that of its rows.
-/

namespace PacketSmith

namespace Text

variable {ends : Char → Bool}

/-! ### Cutting texts into lines -/

/-- The lines of the characters, each with the character that ends it. What stands behind the last
end is a line as well. -/
def cutLines (ends : Char → Bool) : List Char → List (List Char)
  | [] => []
  | c :: cs =>
    if ends c then [c] :: cutLines ends cs
    else
      match cutLines ends cs with
      | [] => [[c]]
      | l :: ls => (c :: l) :: ls

/-- The characters end with the end of a line, if there are any. -/
def IsWhole (ends : Char → Bool) (cs : List Char) : Prop := ∀ c ∈ cs.getLast?, ends c = true

theorem isWhole_nil : IsWhole ends [] := by
  simp [IsWhole]

theorem isWhole_concat {e : Char} (h : ends e = true) (cs : List Char) :
    IsWhole ends (cs ++ [e]) := by
  simp [IsWhole, h]

theorem IsWhole.append {a b : List Char} (ha : IsWhole ends a) (hb : IsWhole ends b) :
    IsWhole ends (a ++ b) := by
  unfold IsWhole at ha hb ⊢
  rw [List.getLast?_append]
  cases last : b.getLast? with
  | none => simpa [last] using ha
  | some c => simpa [last] using hb

/-- Whole lines behind a character are whole lines. -/
theorem IsWhole.of_cons {c d : Char} {cs : List Char} (h : IsWhole ends (c :: d :: cs)) :
    IsWhole ends (d :: cs) := by
  simpa [IsWhole] using h

/-- The lines of a text make up the text. -/
theorem flatten_cutLines (cs : List Char) : (cutLines ends cs).flatten = cs := by
  induction cs with
  | nil => rfl
  | cons c cs ih =>
    unfold cutLines
    split
    · simp [ih]
    · cases cut : cutLines ends cs with
      | nil => simpa [cut] using ih
      | cons l ls => simpa [cut] using ih

/-- A text with characters has lines. -/
theorem cutLines_ne_nil {cs : List Char} (h : cs ≠ []) : cutLines ends cs ≠ [] := by
  intro none
  apply h
  rw [← @flatten_cutLines ends cs, none]
  rfl

/-- The lines of whole lines stand before the lines of what follows. -/
theorem cutLines_append {a : List Char} (h : IsWhole ends a) (b : List Char) :
    cutLines ends (a ++ b) = cutLines ends a ++ cutLines ends b := by
  induction a with
  | nil => rfl
  | cons c cs ih =>
    rw [List.cons_append, cutLines, cutLines]
    by_cases stop : ends c = true
    · have rest : IsWhole ends cs := by
        cases cs with
        | nil => exact isWhole_nil
        | cons d ds => exact h.of_cons
      simp [stop, ih rest]
    · -- the line goes on, so there is more of it
      cases cs with
      | nil => exact absurd (h c rfl) stop
      | cons d ds =>
        rw [if_neg stop, if_neg stop, ih h.of_cons]
        cases cut : cutLines ends (d :: ds) with
        | nil => exact absurd cut (cutLines_ne_nil (by simp))
        | cons l ls => rfl

/-- Characters that end no line, with one behind them that does, are one line. -/
theorem cutLines_line {l : List Char} {e : Char} (h : ∀ c ∈ l, ends c = false)
    (stop : ends e = true) : cutLines ends (l ++ [e]) = [l ++ [e]] := by
  induction l with
  | nil => simp [cutLines, stop]
  | cons c l ih =>
    obtain ⟨first, rest⟩ := List.forall_mem_cons.mp h
    rw [List.cons_append, cutLines, if_neg (by simp [first]), ih rest]

/-! ### Comments -/

/-- The line is a comment: its first characters other than blanks are two slashes. -/
def isComment (line : List Char) : Bool := ['/', '/'].isPrefixOf (line.dropWhile isBlank)

/-- The lines of a text that are no comments. -/
def codeLines (ends : Char → Bool) (s : String) : List (List Char) :=
  (cutLines ends s.toList).filter (!isComment ·)

/-- The code in whole lines stands before the code in what follows. -/
theorem codeLines_append {a : String} (h : IsWhole ends a.toList) (b : String) :
    codeLines ends (a ++ b) = codeLines ends a ++ codeLines ends b := by
  unfold codeLines
  rw [String.toList_append, cutLines_append h, List.filter_append]

/-- A line of a text is a comment or a line of its code. -/
theorem isComment_or_mem_codeLines {s : String} {line : List Char}
    (mem : line ∈ cutLines ends s.toList) : isComment line = true ∨ line ∈ codeLines ends s := by
  by_cases comment : isComment line = true
  · exact .inl comment
  · exact .inr (List.mem_filter.mpr ⟨mem, by simp [comment]⟩)

/-- A line behind blanks is a comment if the line is. -/
theorem isComment_append {blanks : List Char} (h : ∀ c ∈ blanks, isBlank c = true)
    (line : List Char) : isComment (blanks ++ line) = isComment line := by
  unfold isComment
  rw [List.dropWhile_append_of_pos h]

/-- A comment goes on to the right. -/
theorem isComment_append_right {a : List Char} (h : isComment a = true) (b : List Char) :
    isComment (a ++ b) = true := by
  unfold isComment at h ⊢
  rw [List.isPrefixOf_iff_prefix] at h ⊢
  rw [List.dropWhile_append]
  split
  · rename_i none
    rw [List.isEmpty_iff.mp none] at h
    exact absurd h (by simp)
  · exact h.trans (List.prefix_append _ _)

end Text

/-! ### Lines with their ends -/

section Lines

variable {ends : Char → Bool} (feed : ends '\n' = true)

include feed

/-- A text with a line feed behind it is whole lines. -/
theorem isWhole_append_feed (s : String) : Text.IsWhole ends (s ++ "\n").toList := by
  rw [String.toList_append]
  exact Text.isWhole_concat feed _

/-- Lines with their ends are whole lines. -/
theorem isWhole_endLines (ss : List String) : Text.IsWhole ends (endLines ss).toList := by
  induction ss with
  | nil => exact Text.isWhole_nil
  | cons s ss ih =>
    rw [endLines_cons, String.toList_append]
    exact (isWhole_append_feed feed s).append ih

/-- The lines of lines with their ends are those of each of them. -/
theorem cutLines_endLines (ss : List String) : Text.cutLines ends (endLines ss).toList =
    ss.flatMap fun s => Text.cutLines ends (s ++ "\n").toList := by
  induction ss with
  | nil => rfl
  | cons s ss ih =>
    rw [endLines_cons, String.toList_append, Text.cutLines_append (isWhole_append_feed feed s), ih,
      List.flatMap_cons]

/-- The code in lines with their ends is that in each of them. -/
theorem codeLines_endLines (ss : List String) :
    Text.codeLines ends (endLines ss) = ss.flatMap fun s => Text.codeLines ends (s ++ "\n") := by
  unfold Text.codeLines
  rw [cutLines_endLines feed, List.filter_flatMap]

/-- The rows of a template are whole lines. -/
theorem isWhole_renderRows (values : List (String × String)) (rows : List TemplateRow) :
    Text.IsWhole ends (Template.renderRows values rows).toList := by
  have joined : ∀ lines : List (List TemplatePart),
      Text.IsWhole ends (String.join (lines.map (Template.renderLine values))).toList := by
    intro lines
    have same : String.join (lines.map (Template.renderLine values)) = endLines (lines.map fun parts =>
        String.join (parts.map (Template.renderPart values))) := by
      rw [endLines, List.map_map]
      rfl
    rw [same]
    exact isWhole_endLines feed _
  induction rows with
  | nil => exact Text.isWhole_nil
  | cons row rows ih =>
    rw [Template.renderRows_cons, String.toList_append]
    refine Text.IsWhole.append ?_ ih
    cases row with
    | line parts => exact isWhole_append_feed feed _
    | block slot lines =>
      rw [Template.renderRow]
      split
      · exact Text.isWhole_nil
      · exact joined lines

end Lines

/-! ### Lines that a line feed ends -/

/-- A character of one line is no line feed. -/
theorem ne_feed_of_mem {cs : List Char} (line : '\n' ∉ cs) : ∀ c ∈ cs, (c == '\n') = false := by
  intro c mem
  rw [beq_eq_false_iff_ne]
  rintro rfl
  exact line mem

/-- A text without a line feed is one line with the line feed behind it. -/
theorem cutLines_feed {s : String} (line : '\n' ∉ s.toList) :
    Text.cutLines (· == '\n') (s ++ "\n").toList = [(s ++ "\n").toList] := by
  rw [String.toList_append]
  exact Text.cutLines_line (ne_feed_of_mem line) (by decide)

end PacketSmith
