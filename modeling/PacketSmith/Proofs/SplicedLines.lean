import PacketSmith.Proofs.CodeLines

/-!
# Spliced lines

A C++ compiler first takes each backslash at the end of a line away, together with the end of the
line (`Text.splice`), so the line goes on in the next one. What is code then are the lines that are
left and are no comments (`Text.compiledLines`).

A comment line with a backslash at its end takes the next line away. Comment lines before a line of
code take it away exactly if the last of them ends so (`compiledLines_block`). The code of a text is
that of its pieces as long as none of them goes on in the next one (`IsClosed`).
-/

namespace PacketSmith

/-! ### Spliced lines -/

namespace Text

/-- The characters without the line feeds that stand behind a backslash, and without the backslash. -/
def splice : List Char → List Char
  | [] => []
  | '\\' :: '\n' :: rest => splice rest
  | c :: rest => c :: splice rest

/-- The lines of code that are left for a compiler that splices lines. -/
def compiledLines (s : String) : List (List Char) :=
  codeLines (· == '\n') (String.ofList (splice s.toList))

/-- A character that is no backslash before a line feed stays. -/
theorem splice_cons {c : Char} {rest : List Char} (h : c = '\\' → rest.head? ≠ some '\n') :
    splice (c :: rest) = c :: splice rest := by
  rw [splice]
  rintro behind rfl rfl
  exact h rfl rfl

/-- A text is spliced piece by piece, if no piece ends with a backslash. -/
theorem splice_append {a : List Char} (h : a.getLast? ≠ some '\\') (b : List Char) :
    splice (a ++ b) = splice a ++ splice b := by
  fun_induction splice a with
  | case1 => rfl
  | case2 rest ih =>
    have last : rest.getLast? ≠ some '\\' := by
      cases rest with
      | nil => simp
      | cons d ds => simpa using h
    rw [List.cons_append, List.cons_append, splice, ih last]
  | case3 c rest apart ih =>
    cases rest with
    | nil =>
      have other : c ≠ '\\' := by simpa using h
      rw [List.singleton_append, splice_cons fun same => absurd same other]
      rfl
    | cons d ds =>
      rw [List.cons_append, splice_cons, ih (by simpa using h), List.cons_append]
      intro same feed
      obtain rfl : d = '\n' := by simpa using feed
      exact apart ds same rfl

/-- Characters on one line stay. -/
theorem splice_eq_self {a : List Char} (h : '\n' ∉ a) : splice a = a := by
  induction a with
  | nil => rfl
  | cons c cs ih =>
    rw [List.mem_cons, not_or] at h
    rw [splice_cons, ih h.2]
    intro _ feed
    exact h.2 (List.mem_of_head? feed)

/-- A line without a backslash at its end stays. -/
theorem splice_line {l : List Char} (h : '\n' ∉ l) (last : l.getLast? ≠ some '\\') :
    splice (l ++ ['\n']) = l ++ ['\n'] := by
  rw [splice_append last, splice_eq_self h]
  rfl

/-- A line with a backslash at its end goes on in the next line. -/
theorem splice_continued {l : List Char} (h : '\n' ∉ l) (rest : List Char) :
    splice (l ++ '\\' :: '\n' :: rest) = l ++ splice rest := by
  induction l with
  | nil => rfl
  | cons c cs ih =>
    rw [List.mem_cons, not_or] at h
    rw [List.cons_append, splice_cons, ih h.2, List.cons_append]
    intro _ feed
    cases cs with
    | nil => cases feed
    | cons d ds =>
      obtain rfl : d = '\n' := by simpa using feed
      exact h.2 List.mem_cons_self

/-- The first line goes on to the left. -/
theorem cutLines_append_left {ends : Char → Bool} {e cs l : List Char} {ls : List (List Char)}
    (h : ∀ c ∈ e, ends c = false) (cut : cutLines ends cs = l :: ls) :
    cutLines ends (e ++ cs) = (e ++ l) :: ls := by
  induction e with
  | nil => exact cut
  | cons c e ih =>
    obtain ⟨first, rest⟩ := List.forall_mem_cons.mp h
    rw [List.cons_append, cutLines, if_neg (by simp [first]), ih rest]
    rfl

/-- What makes a comment is not its last character, if that is no slash. -/
theorem isComment_of_concat {a : List Char} {c : Char} (other : c ≠ '/')
    (h : isComment (a ++ [c]) = true) : isComment a = true := by
  unfold isComment at h ⊢
  rw [List.isPrefixOf_iff_prefix] at h ⊢
  rw [List.dropWhile_append] at h
  split at h
  · have short := (h.sublist.trans (List.dropWhile_suffix isBlank).sublist).length_le
    simp at short
  · rcases List.prefix_concat_iff.mp h with whole | inside
    · have last := congrArg List.getLast? whole
      rw [List.getLast?_concat] at last
      obtain rfl : '/' = c := by simpa using last
      exact absurd rfl other
    · exact inside

end Text

/-! ### Comments before a line of code -/

/-- The text ends with a backslash. -/
def endsInBackslash (s : String) : Bool := s.toList.getLast? == some '\\'

/-- The line is a comment. -/
structure IsCommentLine (s : String) : Prop where
  /-- It begins as a comment. -/
  comment : Text.isComment s.toList = true
  /-- It is one line. -/
  line : '\n' ∉ s.toList

/-- The line is code that comments before it can take away, and that does not go on in the next line.
-/
structure IsCodeLine (s : String) : Prop where
  /-- It is no comment. -/
  code : Text.isComment (s ++ "\n").toList = false
  /-- It is one line. -/
  line : '\n' ∉ s.toList
  /-- It ends with no backslash. -/
  last : endsInBackslash s = false

section Blocks

variable {docs : List String} {l : String}

/-- What splicing does to the first of some lines. -/
theorem splice_endLines_cons {s : String} (line : '\n' ∉ s.toList) (ss : List String) :
    Text.splice (endLines (s :: ss)).toList =
      (if endsInBackslash s then s.toList.dropLast else s.toList ++ ['\n']) ++
        Text.splice (endLines ss).toList := by
  rw [endLines_cons, String.toList_append, String.toList_append]
  by_cases trail : endsInBackslash s = true
  · have last : s.toList.getLast? = some '\\' := by simpa [endsInBackslash] using trail
    obtain ⟨front, chars⟩ := List.getLast?_eq_some_iff.mp last
    rw [chars, List.mem_append, not_or] at line
    rw [if_pos trail, chars, List.dropLast_concat, ← Text.splice_continued line.1]
    simp
  · have last : s.toList.getLast? ≠ some '\\' := by simpa [endsInBackslash] using trail
    have feed : "\n".toList = ['\n'] := rfl
    rw [if_neg trail, feed, Text.splice_append (by simp), Text.splice_line line last]

/-- Comment lines before a line of code take it away if the last of them goes on there. -/
theorem exists_lines_of_block (comments : ∀ d ∈ docs, IsCommentLine d) (code : IsCodeLine l) :
    ∃ first rest, Text.cutLines (· == '\n') (Text.splice (endLines (docs ++ [l])).toList) =
        first :: rest ∧
      (docs = [] → first = (l ++ "\n").toList) ∧ (docs ≠ [] → Text.isComment first = true) ∧
      rest.filter (!Text.isComment ·) = if docs.getLast?.all endsInBackslash then [] else
        [(l ++ "\n").toList] := by
  -- only the last line can be code, and it is the first one if no comment stands before it; so the
  -- induction has to say what the first line is
  induction docs with
  | nil =>
    refine ⟨(l ++ "\n").toList, [], ?_, fun _ => rfl, fun some => absurd rfl some, rfl⟩
    have empty : Text.splice (endLines []).toList = [] := rfl
    rw [List.nil_append, splice_endLines_cons code.line, code.last, if_neg (by simp), empty,
      List.append_nil, String.toList_append]
    exact Text.cutLines_line (ne_feed_of_mem code.line) (by decide)
  | cons d ds ih =>
    obtain ⟨head, others⟩ := List.forall_mem_cons.mp comments
    obtain ⟨first, rest, cut, alone, comment, filtered⟩ := ih others
    rw [List.cons_append, splice_endLines_cons head.line]
    by_cases trail : endsInBackslash d = true
    · -- the comment goes on in what was the first line
      have last : d.toList.getLast? = some '\\' := by simpa [endsInBackslash] using trail
      obtain ⟨front, chars⟩ := List.getLast?_eq_some_iff.mp last
      have line := head.line
      have isComment := head.comment
      rw [chars, List.mem_append, not_or] at line
      rw [chars] at isComment
      rw [if_pos trail, chars, List.dropLast_concat]
      refine ⟨front ++ first, rest, Text.cutLines_append_left (ne_feed_of_mem line.1) cut, by simp,
        fun _ => ?_, ?_⟩
      · exact Text.isComment_append_right (Text.isComment_of_concat (by decide) isComment) _
      · rw [filtered]
        cases ds with
        | nil => simp [trail]
        | cons u us => rw [List.getLast?_cons_cons]
    · -- the comment stands for itself, and what was the first line is behind it
      have whole : Text.IsWhole (· == '\n') (d.toList ++ ['\n']) := Text.isWhole_concat (by decide) _
      rw [if_neg trail, Text.cutLines_append whole, cut,
        Text.cutLines_line (ne_feed_of_mem head.line) (by decide)]
      refine ⟨d.toList ++ ['\n'], first :: rest, rfl, by simp, fun _ => ?_, ?_⟩
      · exact Text.isComment_append_right head.comment _
      · cases ds with
        | nil =>
          rw [alone rfl, List.filter_cons, code.code, filtered]
          simp [trail]
        | cons u us =>
          rw [List.filter_cons, comment (by simp), filtered, List.getLast?_cons_cons]
          rfl

/-- The code in comment lines and a line of code behind them. -/
theorem compiledLines_block (comments : ∀ d ∈ docs, IsCommentLine d) (code : IsCodeLine l) :
    Text.compiledLines (endLines (docs ++ [l])) =
      if docs.getLast?.any endsInBackslash then [] else [(l ++ "\n").toList] := by
  obtain ⟨first, rest, cut, alone, comment, filtered⟩ := exists_lines_of_block comments code
  rw [Text.compiledLines, Text.codeLines, String.toList_ofList, cut, List.filter_cons, filtered]
  cases docs with
  | nil =>
    rw [alone rfl, code.code]
    rfl
  | cons d ds =>
    rw [comment (by simp), List.getLast?_cons]
    rfl

end Blocks

/-! ### Pieces of a file -/

/-- The text is whole lines, before splicing and behind it, so the last line does not go on in what
follows. -/
structure IsClosed (s : String) : Prop where
  /-- The text is whole lines. -/
  whole : Text.IsWhole (· == '\n') s.toList
  /-- The spliced text is whole lines. -/
  spliced : Text.IsWhole (· == '\n') (Text.splice s.toList)

/-- Whole lines do not end with a backslash. -/
theorem getLast?_ne_of_isWhole {cs : List Char} (h : Text.IsWhole (· == '\n') cs) :
    cs.getLast? ≠ some '\\' := by
  intro last
  exact absurd (h _ last) (by decide)

namespace IsClosed

theorem empty : IsClosed "" := ⟨Text.isWhole_nil, Text.isWhole_nil⟩

theorem append {a b : String} (ha : IsClosed a) (hb : IsClosed b) : IsClosed (a ++ b) where
  whole := by
    rw [String.toList_append]
    exact ha.whole.append hb.whole
  spliced := by
    rw [String.toList_append, Text.splice_append (getLast?_ne_of_isWhole ha.whole)]
    exact ha.spliced.append hb.spliced

/-- Whole lines are closed if the last one does not end with a backslash. -/
theorem append_line {a l : String} (whole : Text.IsWhole (· == '\n') a.toList)
    (line : '\n' ∉ l.toList) (last : endsInBackslash l = false) : IsClosed (a ++ (l ++ "\n")) where
  whole := by
    rw [String.toList_append]
    exact whole.append (isWhole_append_feed (by decide) l)
  spliced := by
    have feed : (l ++ "\n").toList = l.toList ++ ['\n'] := String.toList_append
    have tail : l.toList.getLast? ≠ some '\\' := by simpa [endsInBackslash] using last
    rw [String.toList_append, Text.splice_append (getLast?_ne_of_isWhole whole), feed,
      Text.splice_line line tail, ← List.append_assoc]
    exact Text.isWhole_concat (by decide) _

/-- A block of comments and code is closed. -/
theorem block {l : String} (docs : List String) (code : IsCodeLine l) :
    IsClosed (endLines (docs ++ [l])) := by
  have single : endLines [l] = l ++ "\n" := by simp [endLines]
  rw [endLines_append, single]
  exact append_line (isWhole_endLines (by decide) docs) code.line code.last

/-- The code in a text whose first piece is closed. -/
theorem compiledLines_append {a : String} (h : IsClosed a) (b : String) :
    Text.compiledLines (a ++ b) = Text.compiledLines a ++ Text.compiledLines b := by
  unfold Text.compiledLines
  rw [String.toList_append, Text.splice_append (getLast?_ne_of_isWhole h.whole), String.ofList_append]
  apply Text.codeLines_append
  rw [String.toList_ofList]
  exact h.spliced

/-- The code in closed pieces, one behind the other. -/
theorem flatMap {α : Type} {f : α → List String} {xs : List α}
    (h : ∀ x ∈ xs, IsClosed (endLines (f x))) : IsClosed (endLines (xs.flatMap f)) ∧
      Text.compiledLines (endLines (xs.flatMap f)) =
        xs.flatMap fun x => Text.compiledLines (endLines (f x)) := by
  induction xs with
  | nil => exact ⟨empty, rfl⟩
  | cons x xs ih =>
    obtain ⟨first, rest⟩ := List.forall_mem_cons.mp h
    obtain ⟨closed, lines⟩ := ih rest
    rw [List.flatMap_cons, List.flatMap_cons, endLines_append]
    exact ⟨first.append closed, by rw [first.compiledLines_append, lines]⟩

end IsClosed

end PacketSmith
