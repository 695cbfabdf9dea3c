import PacketSmith.Text.Upper

/-!
# Upper-case forms

What the tables of upper-case forms say about all characters. The form of a character is the
character itself, or it is made from numbers of the tables (`upperChar_cases`). The tables do not
change the first character of a form, and no character of it divides paths (`exists_of_mem_forms`).
So the first character of a form is its own form (`upperChar_of_upperChar`), and a capitalized text
stays as it is when it is capitalized again (`capitalize_capitalize`).

The tables are checked by computation. A number whose binary digits are the code points that have
another form makes one look at each form enough.
-/

namespace PacketSmith.Text

/-! ### The tables -/

/-- The code points of a run. -/
def Shift.points (s : Shift) : List Nat :=
  (List.range ((s.last - s.first) / s.step + 1)).map fun k => s.first + k * s.step

/-- The code points that a run covers are among its code points. -/
theorem Shift.mem_points {s : Shift} {n : Nat} (h : s.covers n = true) : n ∈ s.points := by
  simp only [covers, Bool.and_eq_true, decide_eq_true_eq, beq_iff_eq] at h
  obtain ⟨⟨first, last⟩, whole⟩ := h
  refine List.mem_map.mpr ⟨(n - s.first) / s.step, ?_, ?_⟩
  · exact List.mem_range.mpr (Nat.lt_succ_of_le (Nat.div_le_div_right (by omega)))
  · have divided := Nat.div_add_mod' (n - s.first) s.step
    omega

/-- The code points that have another upper-case form. -/
def changedPoints : List Nat := shifts.flatMap Shift.points ++ expansions.map (·.1)

/-- The upper-case forms in the tables. -/
def forms : List (List Nat) :=
  shifts.flatMap (fun s => s.points.map fun n : Nat => [(n + s.offset).toNat]) ++
    expansions.map (·.2)

/-- The number whose binary digits are the numbers of a list. -/
def bitsOf (ns : List Nat) : Nat := ns.foldl (fun bits n => bits ||| 1 <<< n) 0

/-- The numbers of a list are digits of its number. -/
theorem testBit_bitsOf {ns : List Nat} {n : Nat} (mem : n ∈ ns) : (bitsOf ns).testBit n = true := by
  have onward : ∀ (ns : List Nat) (bits : Nat), bits.testBit n = true ∨ n ∈ ns →
      (ns.foldl (fun bits n => bits ||| 1 <<< n) bits).testBit n = true := by
    intro ns
    induction ns with
    | nil => simp
    | cons k ns ih =>
      intro bits h
      refine ih _ ?_
      rcases h with set | mem
      · simp [set]
      · rcases List.mem_cons.mp mem with rfl | later
        · simp [Nat.testBit_shiftLeft]
        · exact .inr later
  exact onward ns 0 (.inr mem)

/-- The number is that of a mark: a character before the digits, such as a slash, a dot or a quotation
mark, a backslash, or a character that divides lines or paragraphs. -/
def isMark (n : Nat) : Bool := n < 0x30 || n == 0x5C || n == 0x2028 || n == 0x2029

/-- The number is a character's, but not that of a mark. -/
def IsFormPoint (n : Nat) : Prop := isMark n = false ∧ n.isValidChar

instance (n : Nat) : Decidable (IsFormPoint n) := inferInstanceAs (Decidable (_ ∧ _))

/-- Forms begin with a code point that has no other form, and have no marks. -/
theorem all_forms :
    forms.all (fun ns => ns.head?.any (fun n => !(bitsOf changedPoints).testBit n) &&
      ns.all fun n => decide (IsFormPoint n)) = true := by
  decide +kernel

/-- A form of the tables begins with a code point that has no other form, and has no marks. -/
theorem exists_of_mem_forms {ns : List Nat} (mem : ns ∈ forms) :
    ∃ n more, ns = n :: more ∧ n ∉ changedPoints ∧ ∀ k ∈ ns, IsFormPoint k := by
  have row := List.all_eq_true.mp all_forms ns mem
  cases ns with
  | nil => simp at row
  | cons n more =>
    simp only [List.head?_cons, Option.any_some, Bool.and_eq_true, Bool.not_eq_true',
      List.all_eq_true, decide_eq_true_eq] at row
    refine ⟨n, more, rfl, fun changed => ?_, row.2⟩
    rw [testBit_bitsOf changed] at row
    cases row.1

/-! ### Forms of characters -/

/-- A character has the number that it is made from. -/
theorem toNat_ofNat_of_isValidChar {n : Nat} (valid : n.isValidChar) :
    (Char.ofNat n).toNat = n := by
  have made : Char.ofNat n = Char.ofNatAux n valid := dif_pos valid
  rw [made]
  rfl

/-- The form of a character: itself, or characters that are made from numbers of the tables. -/
theorem upperChar_cases (c : Char) : upperChar c = [c] ∨
    c.toNat ∈ changedPoints ∧ ∃ ns ∈ forms, upperChar c = ns.map Char.ofNat := by
  unfold upperChar
  split
  · rename_i ns found
    obtain ⟨before, after, table, -⟩ := List.lookup_eq_some_iff.mp found
    have row : (c.toNat, ns) ∈ expansions := by simp [table]
    exact .inr ⟨List.mem_append_right _ (List.mem_map_of_mem row), ns,
      List.mem_append_right _ (List.mem_map_of_mem row), rfl⟩
  · split
    · rename_i s found
      have row := List.mem_of_find?_eq_some found
      have covers := List.find?_some found
      have point := Shift.mem_points covers
      refine .inr ⟨List.mem_append_left _ (List.mem_flatMap.mpr ⟨s, row, point⟩), _,
        List.mem_append_left _ (List.mem_flatMap.mpr ⟨s, row, List.mem_map_of_mem point⟩), rfl⟩
    · exact .inl rfl

/-- Every character has an upper-case form. -/
theorem upperChar_ne_nil (c : Char) : upperChar c ≠ [] := by
  rcases upperChar_cases c with same | ⟨-, ns, mem, form⟩
  · simp [same]
  · obtain ⟨n, more, rfl, -⟩ := exists_of_mem_forms mem
    simp [form]

/-- The first character of an upper-case form is its own upper-case form. -/
theorem upperChar_of_upperChar {c d : Char} {rest : List Char} (h : upperChar c = d :: rest) :
    upperChar d = [d] := by
  rcases upperChar_cases c with same | ⟨-, ns, mem, form⟩
  · rw [same, List.cons.injEq] at h
    rw [← h.1, same]
  · obtain ⟨n, more, rfl, fixed, points⟩ := exists_of_mem_forms mem
    rw [form, List.map_cons, List.cons.injEq] at h
    rcases upperChar_cases d with same | ⟨changed, -⟩
    · exact same
    · rw [← h.1, toNat_ofNat_of_isValidChar (points n List.mem_cons_self).2] at changed
      exact absurd changed fixed

/-- A mark is in no upper-case form but its own. -/
theorem not_mem_upperChar {c d : Char} (mark : isMark c.toNat = true) (other : c ≠ d) :
    c ∉ upperChar d := by
  rcases upperChar_cases d with same | ⟨-, ns, mem, form⟩
  · simpa [same] using other
  · obtain ⟨n, more, -, -, points⟩ := exists_of_mem_forms mem
    rw [form, List.mem_map]
    rintro ⟨k, inside, rfl⟩
    obtain ⟨plain, valid⟩ := points k inside
    rw [toNat_ofNat_of_isValidChar valid, plain] at mark
    cases mark

/-! ### Capitalized texts -/

/-- A text keeps out marks when it is capitalized. -/
theorem not_mem_capitalize {c : Char} {s : String} (mark : isMark c.toNat = true)
    (out : c ∉ s.toList) : c ∉ (capitalize s).toList := by
  unfold capitalize
  split
  · simp
  · rename_i d rest chars
    rw [chars, List.mem_cons, not_or] at out
    rw [String.toList_ofList, List.mem_append, not_or]
    exact ⟨not_mem_upperChar mark out.1, out.2⟩

/-- A text that is not empty stays so when it is capitalized. -/
theorem capitalize_ne_empty {s : String} (h : s ≠ "") : capitalize s ≠ "" := by
  unfold capitalize
  split
  · rename_i none
    exact absurd (String.toList_eq_nil_iff.mp none) h
  · rename_i d rest chars
    intro empty
    have lists := congrArg String.toList empty
    simp [upperChar_ne_nil] at lists

/-- The first character of a capitalized text is its own upper-case form. -/
theorem upperChar_of_capitalize {s : String} {c : Char} {cs : List Char}
    (h : (capitalize s).toList = c :: cs) : upperChar c = [c] := by
  unfold capitalize at h
  split at h
  · cases h
  · rename_i d rest chars
    rw [String.toList_ofList] at h
    cases form : upperChar d with
    | nil => exact absurd form (upperChar_ne_nil d)
    | cons e more =>
      rw [form, List.cons_append, List.cons.injEq] at h
      rw [← h.1]
      exact upperChar_of_upperChar form

/-- Capitalizing once is enough. -/
theorem capitalize_capitalize (s : String) : capitalize (capitalize s) = capitalize s := by
  cases chars : (capitalize s).toList with
  | nil =>
    rw [String.toList_eq_nil_iff.mp chars]
    rfl
  | cons c cs =>
    rw [capitalize, chars]
    show String.ofList (upperChar c ++ cs) = _
    rw [upperChar_of_capitalize chars, List.singleton_append, ← chars, String.ofList_toList]

end PacketSmith.Text
