import Mathlib
import PacketSmith.Code.Coder
import PacketSmith.Proofs.BuiltRegistry
import PacketSmith.Proofs.TypeNameGrammar

/-!
# Type names are read back from their texts

The text of a well-formed type name is read as that type name, and only well-formed ones come out of
the reader, so printing and reading are inverse (`read?_text?_of_wellFormed`).

The proof goes through the grammar. The text of a type name is split into the marks of a derivation
without packages (`Prints`), piece by piece along the text: where two pieces meet, the second one
begins with a sign or a gap, so that no name goes on across the border (`Splits.append`).

Every type in a registry has a well-formed name (`Resolved.wellFormed_name`), so a language spells
the text of such a type as it spells the type itself.
-/

namespace PacketSmith

namespace TypeName

/-! ### Pieces of a text -/

/-- Characters that end a name do so behind others as well. -/
theorem EndsName.append {cs ds : List Char} (first : EndsName cs) (second : EndsName ds) :
    EndsName (cs ++ ds) := by
  cases cs with
  | nil => exact second
  | cons c cs => exact first

/-- The marks of two pieces follow each other, if no name goes on across the border. -/
theorem Splits.append {cs ds : List Char} {ms ns : List Mark} (first : Splits cs ms)
    (second : Splits ds ns) (ends : EndsName ds) : Splits (cs ++ ds) (ms ++ ns) := by
  induction first with
  | nil => exact second
  | gap gap _ ih => exact .gap gap ih
  | sign sign _ ih => exact .sign sign ih
  | name name border _ ih =>
    rw [List.append_assoc]
    exact .name name (border.append ends) ih

/-- A name alone is one mark. -/
theorem Splits.of_isName {h : String} (name : isName h = true) :
    Splits h.toList (Qualified.marks ⟨h, []⟩) := by
  have alone : Splits (h.toList ++ []) [.name (String.ofList h.toList)] :=
    .name name (fun c head => by simp at head) .nil
  simpa [Qualified.marks] using alone

/-! ### Texts of type names -/

/-- The text of the type name is split into the marks of a derivation that stands for it. -/
structure Prints (t : TypeName) (text : String) (d : Derivation) : Prop where
  /-- The type name has the text. -/
  printed : t.text? = some text
  /-- The text has the marks of the derivation. -/
  marks : Splits text.toList d.marks
  /-- The derivation stands for the type name. -/
  typeName : d.typeName = t

/-- The text of an array has brackets behind that of the element. -/
theorem Prints.array {e : TypeName} {text : String} {d : Derivation} (h : Prints e text d) :
    Prints (TypeName.array e) (text ++ "[]") (.array d) where
  printed := by
    rw [TypeName.array, text?, if_pos (by rfl), firstText?, h.printed]
    rfl
  marks := by
    have brackets : Splits "[]".toList [.opening, .closing] := .sign rfl (.sign rfl .nil)
    have border : EndsName "[]".toList := .cons (by decide) [']']
    rw [String.toList_append, Derivation.marks]
    exact h.marks.append brackets border
  typeName := by rw [Derivation.typeName, h.typeName]

/-- The texts of parameters with commas between them are split into the marks of parameters. -/
theorem exists_parameters {t : TypeName} {ts : List TypeName}
    (h : ∀ u ∈ t :: ts, ∃ text d, Prints u text d) :
    ∃ (s : String) (ss : List String) (ps : Parameters), texts? (t :: ts) = some (s :: ss) ∧
      Splits (", ".intercalate (s :: ss)).toList ps.marks ∧ ps.typeNames = t :: ts := by
  induction ts generalizing t with
  | nil =>
    obtain ⟨text, d, first⟩ := h t List.mem_cons_self
    refine ⟨text, [], .one d, ?_, ?_, ?_⟩
    · rw [texts?, first.printed]
      rfl
    · rw [String.intercalate_singleton]
      exact first.marks
    · rw [Parameters.typeNames, first.typeName]
  | cons u us ih =>
    obtain ⟨⟨text, d, first⟩, others⟩ := List.forall_mem_cons.mp h
    obtain ⟨s, ss, ps, texts, marks, names⟩ := ih others
    refine ⟨text, s :: ss, .more d ps, ?_, ?_, ?_⟩
    · rw [texts?, first.printed, texts]
      rfl
    · have comma : Splits (", ".toList ++ (", ".intercalate (s :: ss)).toList)
          (.comma :: ps.marks) := .sign rfl (.gap rfl marks)
      have border : EndsName (", ".toList ++ (", ".intercalate (s :: ss)).toList) :=
        .cons (by decide) _
      rw [String.intercalate_cons_cons, String.append_assoc, String.toList_append,
        String.toList_append, Parameters.marks]
      exact first.marks.append comma border
    · rw [Parameters.typeNames, first.typeName, names]

/-- The text of a generic type has that of its parameters between brackets behind its name. -/
theorem Prints.generic {h s : String} {t : TypeName} {ts : List TypeName} {ss : List String}
    {ps : Parameters} (name : isName h = true) (texts : texts? (t :: ts) = some (s :: ss))
    (marks : Splits (", ".intercalate (s :: ss)).toList ps.marks)
    (names : ps.typeNames = t :: ts) :
    Prints (.mk h (t :: ts)) (h ++ "<" ++ ", ".intercalate (s :: ss) ++ ">")
      (.generic ⟨h, []⟩ ps) where
  printed := by
    rw [text?, if_neg (by simpa using ne_arrayHead_of_isName name), texts]
    rfl
  marks := by
    have closing : Splits ">".toList [.greater] := .sign rfl .nil
    have last : EndsName ">".toList := .cons (by decide) []
    have inner := Splits.sign (c := '<') rfl (marks.append closing last)
    have all := (Splits.of_isName name).append inner (.cons (by decide) _)
    simpa [Derivation.marks] using all
  typeName := by
    rw [Derivation.typeName, names]
    rfl

/-- The text of a name alone is the name. -/
theorem Prints.simple {h : String} (name : isName h = true) :
    Prints (.mk h []) h (.simple ⟨h, []⟩) where
  printed := by rw [text?, if_neg (by simpa using ne_arrayHead_of_isName name)]
  marks := Splits.of_isName name
  typeName := rfl

/-- Every well-formed type name has a text with the marks of a derivation of it. -/
theorem exists_prints {t : TypeName} (wf : t.WellFormed) : ∃ text d, Prints t text d := by
  induction wf with
  | array _ ih =>
    obtain ⟨text, d, element⟩ := ih
    exact ⟨_, _, element.array⟩
  | @named h ts name _ ih =>
    cases ts with
    | nil => exact ⟨_, _, .simple name⟩
    | cons t ts =>
      obtain ⟨s, ss, ps, texts, marks, names⟩ := exists_parameters ih
      exact ⟨_, _, .generic name texts marks names⟩

/-- The text of a well-formed type name is read as that type name. -/
theorem exists_text_of_wellFormed {t : TypeName} (wf : t.WellFormed) :
    ∃ text, t.text? = some text ∧ read? text = some t := by
  obtain ⟨text, d, prints⟩ := exists_prints wf
  exact ⟨text, prints.printed, exists_derivation_iff.mpr ⟨d, prints.marks, prints.typeName⟩⟩

/-- The primitive spellings are names. -/
theorem isName_of_lookup_primitives {word : String} {kind : Scalar}
    (h : primitives.lookup word = some kind) : isName word = true := by
  have names : ∀ p ∈ primitives, isName p.1 = true := by decide
  obtain ⟨before, after, split, -⟩ := List.lookup_eq_some_iff.mp h
  exact names (word, kind) (by simp [split])

end TypeName

/-- A resolved type has a well-formed name. -/
theorem WireType.Resolved.wellFormed_name {ids : TypeName.MessageIds} {w : WireType}
    (h : w.Resolved ids) : w.name.WellFormed := by
  induction h with
  | scalar word => exact .simple (TypeName.isName_of_lookup_primitives word)
  | @sequence kind e _ ih =>
    cases kind with
    | array => exact .array ih
    | list => exact .named (by decide) (by simpa using ih)
    | set => exact .named (by decide) (by simpa using ih)
  | map _ _ ihKey ihValue => exact .named (by decide) (by simpa using ⟨ihKey, ihValue⟩)
  | message name _ _ => exact .simple name

namespace TypeName

/-- Printing and reading type names are inverse. What a text is read as is well formed, and the text
of every well-formed type name is read as that type name; so reading what was read and printed
changes nothing. The text of a type in a registry, at any depth in any field, is spelled in every
language as the type itself is, and so it is in the code of every target. -/
theorem read?_text?_of_wellFormed :
    (∀ s t, read? s = some t → t.WellFormed) ∧
    (∀ t : TypeName, t.WellFormed → ∃ text, t.text? = some text ∧ read? text = some t) ∧
    (∀ s t, read? s = some t → ∃ text, t.text? = some text ∧ read? text = read? s) ∧
    (∀ d r, Registry.ofDefinition d = .ok r → ∀ m ∈ r.messages, ∀ f ∈ m.fields,
      ∀ w ∈ f.type.walk, ∃ text, w.text = .ok text ∧
        (∀ sp : Spelling, sp.spellText text = sp.spell w.name) ∧
        ∀ c : Code.Coder, c.target.spelling.spellText text = c.spell w) := by
  refine ⟨fun s t => wellFormed_of_read?, fun t => exists_text_of_wellFormed, ?_, ?_⟩
  · intro s t read
    rw [read]
    exact exists_text_of_wellFormed (wellFormed_of_read? read)
  · intro d r built m hm f hf w hw
    have resolved := (Registry.isBuilt_of_ofDefinition built).resolved_of_mem hm hf hw
    obtain ⟨text, printed, read⟩ := exists_text_of_wellFormed resolved.wellFormed_name
    have spelled : ∀ sp : Spelling, sp.spellText text = sp.spell w.name := by
      intro sp
      rw [Spelling.spellText, read]
    exact ⟨text, by rw [WireType.text, printed], spelled, fun c => spelled c.target.spelling⟩

/-- A message that holds itself in nested containers. -/
def Sample.nested : RegistryDefinition where
  messages := some [
    { id := .number 1, name := some "Item",
      fields := some [Registry.Sample.field "parts" " a.Map <int,List<Set<Item>>[][]>"] }]

/-- A type with arrays of nested containers is read back from its text, and in a registry its text
is spelled as the type. -/
theorem read?_text?_of_wellFormed_nested :
    (∃ t text, read? " a.Map <int,List<Set<Item>>[][]>" = some t ∧ t.WellFormed ∧
      t.text? = some text ∧ read? text = some t) ∧
    ∃ r m f text, Registry.ofDefinition Sample.nested = .ok r ∧ m ∈ r.messages ∧ f ∈ m.fields ∧
      f.type.text = .ok text ∧ ∀ sp : Spelling, sp.spellText text = sp.spell f.type.name := by
  obtain ⟨wellFormed, inverse, -, spelled⟩ := read?_text?_of_wellFormed
  constructor
  · have wf := wellFormed " a.Map <int,List<Set<Item>>[][]>" _ rfl
    obtain ⟨text, printed, read⟩ := inverse _ wf
    exact ⟨_, text, rfl, wf, printed, read⟩
  · have built : ∃ r, Registry.ofDefinition Sample.nested = .ok r ∧
        ∃ m f, m ∈ r.messages ∧ f ∈ m.fields := ⟨_, by cbv, _, _, .head _, .head _⟩
    obtain ⟨r, made, m, f, hm, hf⟩ := built
    obtain ⟨text, printed, alike, -⟩ :=
      spelled _ r made m hm f hf f.type (WireType.mem_walk.mpr (.inl rfl))
    exact ⟨r, m, f, text, made, hm, hf, printed, alike⟩

end TypeName

end PacketSmith
