import PacketSmith.Proofs.TypeNameText
import PacketSmith.Target.Basic

/-!
# Spelling a type name twice

A text that a language has spelled is itself the text of a type name, and spelling it again changes
nothing (`spellText_spellText`), if the words and heads of the language are names that it leaves as
they are, and arrays are spelled as arrays or as a generic type whose head it leaves as it is
(`Spelling.IsStable`). Both targets have such spellings.

The spelled text is read with the grammar of type names, so it is the text of some type name. The
proof finds that type name beside every spelled one (`Spelling.Settles`): an array may become a
generic type, and every head is replaced by the word or the head of the language.
-/

namespace PacketSmith

/-! ### Filled patterns -/

namespace Pattern

/-- Characters other than braces stand in a filled pattern as they are. -/
theorem fillFrom_append {value cs rest filled : List Char} {n : Numbering}
    (plain : ∀ c ∈ cs, c ≠ '\x7b' ∧ c ≠ '\x7d') (h : fillFrom value n none rest = .ok filled) :
    fillFrom value n none (cs ++ rest) = .ok (cs ++ filled) := by
  induction cs with
  | nil => exact h
  | cons c cs ih =>
    obtain ⟨⟨opening, closing⟩, others⟩ := List.forall_mem_cons.mp plain
    have step : fillFrom value n none (c :: (cs ++ rest)) =
        (fillFrom value n none (cs ++ rest) >>= fun tail => pure (c :: tail)) := by
      rw [fillFrom]
      all_goals simp_all
    rw [List.cons_append, step, ih others]
    rfl

/-- The pattern that keeps brackets puts them behind the element. -/
theorem fill_brackets (element : String) :
    fill "\x7b\x7d[]" element = .ok (element ++ "[]") := by
  have filled : fillFrom element.toList .unset none ['\x7b', '\x7d', '[', ']'] =
      .ok (element.toList ++ ['[', ']']) := rfl
  show (fillFrom element.toList .unset none ['\x7b', '\x7d', '[', ']'] >>= _) = _
  rw [filled]
  refine congrArg Except.ok (String.toList_inj.mp ?_)
  simp

/-- The pattern of a head puts the element between angle brackets behind it. -/
theorem fill_generic {head : String} (name : TypeName.isName head = true) (element : String) :
    fill (head ++ "<\x7b\x7d>") element = .ok (head ++ "<" ++ element ++ ">") := by
  have plain : ∀ c ∈ head.toList, c ≠ '\x7b' ∧ c ≠ '\x7d' := by
    intro c mem
    have part := TypeName.isNamePart_of_isNameList name mem
    constructor
    · rintro rfl
      exact absurd part (by decide)
    · rintro rfl
      exact absurd part (by decide)
  have behind : fillFrom element.toList .unset none "<\x7b\x7d>".toList =
      .ok ('<' :: (element.toList ++ ['>'])) := rfl
  rw [fill, String.toList_append, fillFrom_append plain behind]
  refine congrArg Except.ok (String.toList_inj.mp ?_)
  simp

end Pattern

/-! ### Stable spellings -/

namespace Spelling

variable {sp : Spelling}

/-- The word of a primitive type. Other names are kept. -/
def wordOf (sp : Spelling) (name : String) : String := (sp.primitives.lookup name).getD name

/-- The head of a container. Other heads are kept. -/
def headOf (sp : Spelling) (name : String) : String := (sp.containers.lookup name).getD name

/-- The words and the heads of the language are names, replacing them twice is replacing them once,
and arrays are spelled as arrays, or as a generic type whose head is kept. -/
structure IsStable (sp : Spelling) : Prop where
  /-- The words are names. -/
  wordNames : ∀ p ∈ sp.primitives, TypeName.isName p.2 = true
  /-- The heads are names. -/
  headNames : ∀ p ∈ sp.containers, TypeName.isName p.2 = true
  /-- Words are kept. -/
  words : ∀ name, sp.wordOf (sp.wordOf name) = sp.wordOf name
  /-- Heads are kept. -/
  heads : ∀ name, sp.headOf (sp.headOf name) = sp.headOf name
  /-- The pattern of arrays. -/
  array : sp.array = "\x7b\x7d[]" ∨ ∃ head, TypeName.isName head = true ∧
    sp.headOf head = head ∧ sp.array = head ++ "<\x7b\x7d>"

/-- What a table of names gives is a name. -/
theorem isName_getD_lookup {table : List (String × String)}
    (names : ∀ p ∈ table, TypeName.isName p.2 = true) {name : String}
    (h : TypeName.isName name = true) : TypeName.isName ((table.lookup name).getD name) = true := by
  cases found : table.lookup name with
  | none => exact h
  | some word =>
    obtain ⟨before, after, split, -⟩ := List.lookup_eq_some_iff.mp found
    exact names (name, word) (by simp [split])

/-- A table that keeps all it gives can be used twice. -/
theorem getD_lookup_twice {table : List (String × String)}
    (kept : ∀ p ∈ table, (table.lookup p.2).getD p.2 = p.2) (name : String) :
    (table.lookup ((table.lookup name).getD name)).getD ((table.lookup name).getD name) =
      (table.lookup name).getD name := by
  cases found : table.lookup name with
  | none =>
    show (table.lookup name).getD name = name
    rw [found]
    rfl
  | some word =>
    obtain ⟨before, after, split, -⟩ := List.lookup_eq_some_iff.mp found
    exact kept (name, word) (by simp [split])

/-- The spellings of the targets are stable. -/
theorem isStable_target (t : Target) : t.spelling.IsStable where
  wordNames := by cases t <;> decide
  headNames := by cases t <;> decide
  words := getD_lookup_twice (by cases t <;> decide)
  heads := getD_lookup_twice (by cases t <;> decide)
  array := by
    right
    cases t with
    | cpp => exact ⟨"vector", by decide, rfl, rfl⟩
    | typescript => exact ⟨"Array", by decide, rfl, rfl⟩

/-! ### What a spelled text denotes -/

/-- The spelling of the one type name is the text of the other, and the other is spelled by its own
text. -/
structure Settles (sp : Spelling) (t u : TypeName) (text : String) : Prop where
  /-- The other type name is well formed. -/
  wellFormed : u.WellFormed
  /-- The text is that of the other type name. -/
  printed : u.text? = some text
  /-- The one type name is spelled by the text. -/
  spelled : sp.spell t = .ok text
  /-- The other type name is spelled by the text too. -/
  again : sp.spell u = .ok text

/-- An array is spelled by filling the pattern. -/
theorem spell_array {e : TypeName} {text : String} (h : sp.spell e = .ok text) :
    sp.spell (TypeName.array e) = Pattern.fill sp.array text := by
  rw [TypeName.array, spell, if_pos (by rfl), spellFirst, h]
  rfl

/-- A generic type is spelled by the language's head with its parameters between brackets. -/
theorem spell_generic {h : String} (name : TypeName.isName h = true) {t : TypeName}
    {ts : List TypeName} {ss : List String} (inner : sp.spellAll (t :: ts) = .ok ss) :
    sp.spell (.mk h (t :: ts)) = .ok (sp.headOf h ++ "<" ++ ", ".intercalate ss ++ ">") := by
  rw [spell, if_neg (by simpa using TypeName.ne_arrayHead_of_isName name), inner]
  rfl

/-- A name alone is spelled by its word. -/
theorem spell_name {h : String} (name : TypeName.isName h = true) :
    sp.spell (.mk h []) = .ok (sp.wordOf h) := by
  rw [spell, if_neg (by simpa using TypeName.ne_arrayHead_of_isName name)]
  rfl

/-- The text of a generic type. -/
theorem text?_generic {h : String} (name : TypeName.isName h = true) {t : TypeName}
    {ts : List TypeName} {ss : List String} (inner : TypeName.texts? (t :: ts) = some ss) :
    (TypeName.mk h (t :: ts)).text? = some (h ++ "<" ++ ", ".intercalate ss ++ ">") := by
  rw [TypeName.text?, if_neg (by simpa using TypeName.ne_arrayHead_of_isName name), inner]
  rfl

/-- The spelling of a name settles. -/
theorem settles_name (stable : sp.IsStable) {h : String} (name : TypeName.isName h = true) :
    sp.Settles (.mk h []) (.mk (sp.wordOf h) []) (sp.wordOf h) := by
  have word : TypeName.isName (sp.wordOf h) = true := isName_getD_lookup stable.wordNames name
  refine ⟨.simple word, ?_, spell_name name, ?_⟩
  · rw [TypeName.text?, if_neg (by simpa using TypeName.ne_arrayHead_of_isName word)]
  · rw [spell_name word, stable.words]

/-- The spelling of an array settles if that of its element does. -/
theorem Settles.array (stable : sp.IsStable) {e u : TypeName} {text : String}
    (h : sp.Settles e u text) : ∃ v whole, sp.Settles (TypeName.array e) v whole := by
  rcases stable.array with brackets | ⟨head, name, kept, generic⟩
  · -- brackets stay brackets
    have fills : ∀ {t : TypeName}, sp.spell t = .ok text →
        sp.spell (TypeName.array t) = .ok (text ++ "[]") := by
      intro t spelled
      rw [spell_array spelled, brackets, Pattern.fill_brackets]
    refine ⟨TypeName.array u, text ++ "[]", .array h.wellFormed, ?_, fills h.spelled, fills h.again⟩
    rw [TypeName.array, TypeName.text?, if_pos (by rfl), TypeName.firstText?, h.printed]
    rfl
  · -- the array becomes a generic type with the kept head
    have texts : TypeName.texts? [u] = some [text] := by
      rw [TypeName.texts?, h.printed]
      rfl
    have inner : sp.spellAll [u] = .ok [text] := by
      rw [spellAll, h.again]
      rfl
    refine ⟨.mk head [u], head ++ "<" ++ text ++ ">", ?_, ?_, ?_, ?_⟩
    · exact .named name (List.forall_mem_singleton.mpr h.wellFormed)
    · rw [text?_generic name texts, String.intercalate_singleton]
    · rw [spell_array h.spelled, generic, Pattern.fill_generic name]
    · rw [spell_generic name inner, String.intercalate_singleton, kept]

/-- The spellings of parameters settle if each one does. -/
theorem exists_settled {ts : List TypeName} (h : ∀ t ∈ ts, ∃ u text, sp.Settles t u text) :
    ∃ us ss, us.length = ts.length ∧ (∀ u ∈ us, u.WellFormed) ∧ TypeName.texts? us = some ss ∧
      sp.spellAll ts = .ok ss ∧ sp.spellAll us = .ok ss := by
  induction ts with
  | nil => exact ⟨[], [], rfl, by simp, rfl, rfl, rfl⟩
  | cons t ts ih =>
    obtain ⟨⟨u, text, first⟩, others⟩ := List.forall_mem_cons.mp h
    obtain ⟨us, ss, length, wellFormed, printed, spelled, again⟩ := ih others
    refine ⟨u :: us, text :: ss, by simp [length],
      List.forall_mem_cons.mpr ⟨first.wellFormed, wellFormed⟩, ?_, ?_, ?_⟩
    · rw [TypeName.texts?, first.printed, printed]
      rfl
    · rw [spellAll, first.spelled, spelled]
      rfl
    · rw [spellAll, first.again, again]
      rfl

/-- The spelling of every well-formed type name settles. -/
theorem exists_settles (stable : sp.IsStable) {t : TypeName} (wf : t.WellFormed) :
    ∃ u text, sp.Settles t u text := by
  induction wf with
  | array _ ih =>
    obtain ⟨u, text, element⟩ := ih
    exact element.array stable
  | @named h ts name _ ih =>
    cases ts with
    | nil => exact ⟨_, _, settles_name stable name⟩
    | cons t ts =>
      obtain ⟨us, ss, length, wellFormed, printed, spelled, again⟩ := exists_settled ih
      have head : TypeName.isName (sp.headOf h) = true := isName_getD_lookup stable.headNames name
      cases us with
      | nil => simp at length
      | cons u us =>
        refine ⟨.mk (sp.headOf h) (u :: us), _, .named head wellFormed,
          text?_generic head printed, spell_generic name spelled, ?_⟩
        rw [spell_generic head again, stable.heads]

/-- The text is spelled by a text that can be read, and that is spelled by itself. -/
def SettlesText (sp : Spelling) (s : String) : Prop :=
  ∃ text, sp.spellText s = .ok text ∧ (∃ u, TypeName.read? text = some u) ∧
    sp.spellText text = .ok text

/-- A stable spelling settles every text that can be read. -/
theorem settlesText_of_read? (stable : sp.IsStable) {s : String} {t : TypeName}
    (h : TypeName.read? s = some t) : sp.SettlesText s := by
  obtain ⟨u, text, settles⟩ := exists_settles stable (TypeName.wellFormed_of_read? h)
  obtain ⟨printed, same, read⟩ := TypeName.exists_text_of_wellFormed settles.wellFormed
  obtain rfl : printed = text := Option.some.inj (same.symm.trans settles.printed)
  refine ⟨printed, ?_, ⟨u, read⟩, ?_⟩
  · rw [spellText, h]
    exact settles.spelled
  · rw [spellText, read]
    exact settles.again

/-- Spelling is idempotent. If the words and heads of a language are names that it keeps, and arrays
stay arrays or become a generic type whose head it keeps, then every text that is a type name is
spelled by a text that is a type name, and spelling that again changes nothing. The languages of
both targets are such, so this holds for them without any condition. -/
theorem spellText_spellText :
    (∀ sp : Spelling, sp.IsStable → ∀ s t, TypeName.read? s = some t → sp.SettlesText s) ∧
    (∀ t : Target, t.spelling.IsStable) ∧
    (∀ (target : Target) (s : String) (t : TypeName), TypeName.read? s = some t →
      target.spelling.SettlesText s) :=
  ⟨fun _ stable _ _ read => settlesText_of_read? stable read, isStable_target,
    fun target _ _ read => settlesText_of_read? (isStable_target target) read⟩

/-- A language that keeps the brackets of arrays and has words of its own. -/
def Sample.bracketed : Spelling where
  primitives := [("int", "Int"), ("Item", "Thing")]
  containers := [("List", "Seq"), ("Set", "Seq")]

/-- The spelling of nested arrays and containers settles in a language that keeps brackets and in
both targets. -/
theorem spellText_spellText_nested :
    Sample.bracketed.IsStable ∧ Sample.bracketed.SettlesText " a.Map <int,List<Set<Item>>[][]>" ∧
    ∀ target : Target, target.spelling.SettlesText " a.Map <int,List<Set<Item>>[][]>" := by
  have stable : Sample.bracketed.IsStable :=
    ⟨by decide, by decide, getD_lookup_twice (by decide), getD_lookup_twice (by decide), .inl rfl⟩
  exact ⟨stable, spellText_spellText.1 _ stable _ _ rfl,
    fun target => spellText_spellText.2.2 target _ _ rfl⟩

end Spelling

end PacketSmith
