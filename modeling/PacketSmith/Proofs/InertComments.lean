import PacketSmith.Proofs.Agreement
import PacketSmith.Proofs.CodeLines
import PacketSmith.Proofs.RegistryFiles

/-!
# Documentation is inert

Registries that differ in their documentation alone have the same files but for comment lines, and
the same faults (`code_of_uncommented_eq`). So no part of a documentation text gets out of comment
lines, whatever line ends it has and whichever of them count.

* Nothing that a file is made of depends on documentation, but for documentation itself
  (`outline_uncommented`).
* Documentation is split at every character that may end a line, and each line stands behind the mark
  of a comment (`codeLines_documentation`).
-/

namespace PacketSmith

open Code

/-! ### Without documentation -/

/-- The field without its documentation. -/
def Field.uncommented (f : Field) : Field := { f with comment := none }

/-- The message without its documentation and that of its fields. -/
def Message.uncommented (m : Message) : Message :=
  { m with fields := m.fields.map Field.uncommented, comment := none }

/-- The registry without documentation. -/
def Registry.uncommented (r : Registry) : Registry where
  messages := r.messages.map Message.uncommented
  distinct := by
    have same : Message.keys (r.messages.map Message.uncommented) = Message.keys r.messages := by
      rw [Message.keys, List.map_map]
      rfl
    rw [same]
    exact r.distinct

/-- Documentation does not matter for names and types. -/
theorem Message.isSpelled_uncommented_iff {m : Message} :
    m.uncommented.IsSpelled ↔ m.IsSpelled := by
  constructor
  · intro h
    refine ⟨h.name, fun f mem => ?_⟩
    have plain := h.fields f.uncommented (List.mem_map_of_mem mem)
    exact ⟨plain.name, plain.type⟩
  · intro h
    refine ⟨h.name, fun f mem => ?_⟩
    obtain ⟨g, inside, rfl⟩ := List.mem_map.mp mem
    exact ⟨(h.fields g inside).name, (h.fields g inside).type⟩

/-- Documentation goes through the fields with their declarations. -/
theorem zip_fields_uncommented (m : Message) (declarations : List String) :
    m.uncommented.fields.zip declarations =
      (m.fields.zip declarations).map (Prod.map Field.uncommented id) :=
  List.zip_map_left

/-- A message without documentation agrees with the message. -/
theorem Message.agrees_uncommented (m : Message) : m.uncommented.Agrees m :=
  ⟨rfl, rfl, rfl, List.forall₂_map_left_iff.mpr (List.forall₂_same.mpr fun _ _ => ⟨rfl, rfl⟩)⟩

/-- A registry without documentation agrees with the registry. -/
theorem Registry.agrees_uncommented (r : Registry) : r.uncommented.Agrees r :=
  List.forall₂_map_left_iff.mpr (List.forall₂_same.mpr fun m _ => m.agrees_uncommented)

namespace Code.Coder

variable (c : Coder)

/-- Documentation does not matter for declarations. -/
theorem declared_uncommented (f : Field) : c.declared f.uncommented = (c.declared f).map fun p =>
    ({ p.1 with field := p.1.field.uncommented }, p.2) := by
  have same : ∀ type, c.target.declaration ⟨f.uncommented, type, shown f.name⟩ =
      c.target.declaration ⟨f, type, shown f.name⟩ := by
    intro type
    cases c.target <;> rfl
  have declare : c.declare f.uncommented = (c.declare f).map fun d =>
      { d with field := d.field.uncommented } := by
    refine bind_eq_map_bind _ fun s _ => ?_
    exact bind_eq_map_bind _ fun type _ => rfl
  unfold declared
  rw [declare]
  refine map_bind_eq_map_bind _ fun d made => ?_
  obtain ⟨s, -, made⟩ := exists_of_bind_eq_ok made
  obtain ⟨type, -, made⟩ := exists_of_bind_eq_ok made
  cases made
  show (c.target.declaration ⟨f.uncommented, type, shown f.name⟩ >>= _) = _
  rw [same]
  exact bind_eq_map_bind _ fun declaration _ => rfl

/-- Documentation does not matter for the declarations of some fields. -/
theorem mapM_declared_uncommented (fs : List Field) :
    (fs.map Field.uncommented).mapM c.declared = (fs.mapM c.declared).map
      (List.map fun p => ({ p.1 with field := p.1.field.uncommented }, p.2)) := by
  induction fs with
  | nil => rfl
  | cons f fs ih =>
    rw [List.map_cons, List.mapM_cons, List.mapM_cons, declared_uncommented, ih]
    refine map_bind_eq_map_bind _ fun p _ => ?_
    exact map_bind_eq_map_bind _ fun ps _ => rfl

/-- Documentation does not matter for the code that reads fields. -/
theorem readFields_uncommented (tail : Bool) (fs : List Field) :
    c.readFields tail (fs.map Field.uncommented) = c.readFields tail fs := by
  induction fs generalizing tail with
  | nil => rfl
  | cons f fs ih =>
    have next : c.readFields (tail || f.uncommented.isCompatible) (fs.map Field.uncommented) =
      c.readFields (tail || f.isCompatible) fs := ih _
    rw [List.map_cons, readFields, readFields, next]
    rfl

end Code.Coder

/-- The pieces of a message's file without the documentation in them. -/
def Code.MessageParts.uncommented (p : MessageParts) : MessageParts :=
  { p with
    message := p.message.uncommented
    fields := p.fields.map fun d => { d with field := d.field.uncommented } }

/-- Documentation does not matter for the values of a template. -/
theorem messageValues_uncommented (t : Target) (p : MessageParts) :
    t.messageValues p.uncommented = t.messageValues p := by
  have same : p.uncommented.fields.map (fun d => (d.type, d.identifier)) =
      p.fields.map fun d => (d.type, d.identifier) := by
    rw [MessageParts.uncommented, List.map_map]
    rfl
  exact messageValues_eq_of_agrees t p.message.agrees_uncommented same rfl

namespace OutputContext

variable (x : OutputContext) (r : Registry) (m : Message)

/-- Documentation goes through the bare pieces of a file. -/
theorem bareParts_uncommented :
    x.bareParts r.uncommented m.uncommented = (x.bareParts r m).map fun b =>
      (b.1.uncommented, b.2) := by
  have agrees := m.agrees_uncommented
  have fields : m.uncommented.fields = m.fields.map Field.uncommented := rfl
  unfold bareParts
  rw [r.agrees_uncommented.dependencyLines agrees, Coder.writeFields_eq_of_agrees agrees.fields]
  simp only [fields, Coder.mapM_declared_uncommented, Coder.readFields_uncommented]
  refine bind_eq_map_bind _ fun lines _ => ?_
  refine map_bind_eq_map_bind _ fun declared _ => ?_
  refine bind_eq_map_bind _ fun _ _ => ?_
  refine bind_eq_map_bind _ fun _ _ => ?_
  refine congrArg Except.ok ?_
  simp [MessageParts.uncommented, Function.comp_def]

/-- Documentation does not matter for the outline of a file. -/
theorem outline_uncommented : x.outline r.uncommented m.uncommented = x.outline r m := by
  unfold outline
  rw [bareParts_uncommented]
  cases x.bareParts r m with
  | error e => rfl
  | ok b =>
    show (x.target.messageValues b.1.uncommented >>= _) = (x.target.messageValues b.1 >>= _)
    rw [messageValues_uncommented]
    rfl

end OutputContext

/-! ### Comment lines -/

namespace Text

/-- No line of a text has an end in it. -/
theorem isLineEnd_of_mem_linesFrom {current cs l : List Char}
    (clean : ∀ c ∈ current, isLineEnd c = false) (mem : l ∈ linesFrom current cs) :
    ∀ c ∈ l, isLineEnd c = false := by
  fun_induction linesFrom current cs with
  | case1 current empty => cases mem
  | case2 current some =>
    rw [List.mem_singleton.mp mem]
    simpa using clean
  | case3 current rest ih =>
    rcases List.mem_cons.mp mem with rfl | inside
    · simpa using clean
    · exact ih (by simp) inside
  | case4 current c rest _ stop ih =>
    rcases List.mem_cons.mp mem with rfl | inside
    · simpa using clean
    · exact ih (by simp) inside
  | case5 current c rest _ stop ih =>
    refine ih ?_ mem
    rw [List.forall_mem_cons]
    exact ⟨by simpa using stop, clean⟩

/-- What is left without the blanks at the end was there before. -/
theorem mem_of_mem_dropEndBlanks {c : Char} {cs : List Char} (mem : c ∈ dropEndBlanks cs) :
    c ∈ cs := by
  rw [dropEndBlanks, List.mem_reverse] at mem
  exact List.mem_reverse.mp ((List.dropWhile_suffix isBlank).subset mem)

end Text

/-- A comment line begins with its mark, and has no end of a line in it. -/
theorem Code.of_mem_commentLines {text : Option String} {s : String}
    (mem : s ∈ commentLines text) : (∃ rest, s.toList = '/' :: '/' :: rest) ∧
      ∀ c ∈ s.toList, Text.isLineEnd c = false := by
  cases text with
  | none => cases mem
  | some t =>
    obtain ⟨l, inside, rfl⟩ := List.mem_map.mp mem
    obtain ⟨line, isLine, rfl⟩ := List.mem_map.mp inside
    have clean := Text.isLineEnd_of_mem_linesFrom (by simp) isLine
    rw [toList_comment]
    refine ⟨⟨_, rfl⟩, ?_⟩
    simp only [List.forall_mem_cons]
    refine ⟨by decide, by decide, fun c rest => ?_⟩
    rcases List.mem_cons.mp (Text.mem_of_mem_dropEndBlanks rest) with rfl | behind
    · decide
    · exact clean c (by simpa using behind)

/-- An indented comment line is a comment, and has no end of a line in it. -/
theorem Code.isComment_of_mem_commentLines {text : Option String} {s : String}
    (mem : s ∈ commentLines text) (depth : Int) : Text.isComment (indent depth ++ s).toList = true ∧
      ∀ c ∈ (indent depth ++ s).toList, Text.isLineEnd c = false := by
  obtain ⟨⟨rest, mark⟩, clean⟩ := of_mem_commentLines mem
  rw [String.toList_append]
  constructor
  · rw [Text.isComment_append fun c blank => isBlank_of_mem_indent blank, mark, Text.isComment,
      List.dropWhile_cons_of_neg (by decide)]
    simp
  · intro c inside
    rcases List.mem_append.mp inside with blank | own
    · rw [eq_space_of_mem_indent blank]
      decide
    · exact clean c own

section Lines

variable {ends : Char → Bool} (feed : ends '\n' = true)
  (known : ∀ c, ends c = true → Text.isLineEnd c = true)

include feed known

/-- A comment line is one line, and it is a comment. -/
theorem codeLines_comment {text : Option String} {s : String} (mem : s ∈ commentLines text)
    (depth : Int) : Text.codeLines ends (indent depth ++ s ++ "\n") = [] := by
  obtain ⟨comment, clean⟩ := isComment_of_mem_commentLines mem depth
  have quiet : ∀ c ∈ (indent depth ++ s).toList, ends c = false := by
    intro c inside
    by_contra stop
    have isEnd := known c (by simpa using stop)
    rw [clean c inside] at isEnd
    cases isEnd
  have one : Text.cutLines ends (indent depth ++ s ++ "\n").toList =
      [(indent depth ++ s).toList ++ ['\n']] := by
    rw [String.toList_append]
    exact Text.cutLines_line quiet feed
  rw [Text.codeLines, one, List.filter_cons, Text.isComment_append_right comment]
  rfl

/-- There is no code in documentation. -/
theorem codeLines_documentation (text : Option String) (depth : Int) :
    Text.codeLines ends (endLines (documentation text depth Target.commentMark)) = [] := by
  rw [codeLines_endLines feed, documentation_eq, List.flatMap_map, List.flatMap_eq_nil_iff]
  intro s mem
  exact codeLines_comment feed known mem depth

/-- The code in documented and declared fields is that in their declarations. -/
theorem codeLines_fieldLines (t : Target) (fs : List Field) (declarations : List String) :
    Text.codeLines ends (endLines (t.fieldLines fs declarations)) =
      (fs.zip declarations).flatMap fun p =>
        Text.codeLines ends (indent t.fieldDepth ++ p.2 ++ "\n") := by
  rw [codeLines_endLines feed, Target.fieldLines, List.flatMap_assoc]
  apply List.flatMap_congr
  intro p _
  rw [List.flatMap_append, ← codeLines_endLines feed, codeLines_documentation feed known,
    List.nil_append, List.flatMap_singleton]

/-- The code in a file is that in its outline. -/
theorem codeLines_content {o : Outline} (whole : Text.IsWhole ends o.front.toList) (t : Target)
    (m : Message) : Text.codeLines ends (o.content t m) =
      Text.codeLines ends o.front ++ Text.codeLines ends (endLines o.opening) ++
      ((m.fields.zip o.declarations).flatMap fun p =>
        Text.codeLines ends (indent t.fieldDepth ++ p.2 ++ "\n")) ++
      Text.codeLines ends (if (m.fields.zip o.declarations).isEmpty then "" else "\n") ++
      Text.codeLines ends o.back := by
  have document := isWhole_endLines feed
    (documentation m.comment t.documentationDepth Target.commentMark)
  have opening := isWhole_endLines feed o.opening
  have lines := isWhole_endLines feed (t.fieldLines m.fields o.declarations)
  have gap : Text.IsWhole ends
      (if (m.fields.zip o.declarations).isEmpty then "" else "\n").toList := by
    split
    · exact Text.isWhole_nil
    · exact isWhole_append_feed feed ""
  rw [Outline.content, endSection, Target.isEmpty_fieldLines]
  simp only [String.append_assoc]
  rw [Text.codeLines_append whole, Text.codeLines_append document, Text.codeLines_append opening,
    Text.codeLines_append lines, Text.codeLines_append gap, codeLines_documentation feed known,
    codeLines_fieldLines feed known]
  simp only [List.nil_append, List.append_assoc, String.append_assoc]

/-- The code in a file does not depend on documentation. -/
theorem codeLines_content_uncommented {o : Outline} (whole : Text.IsWhole ends o.front.toList)
    (t : Target) (m : Message) : Text.codeLines ends (o.content t m.uncommented) =
      Text.codeLines ends (o.content t m) := by
  rw [codeLines_content feed known whole, codeLines_content feed known whole,
    zip_fields_uncommented, List.flatMap_map, List.isEmpty_map]
  rfl

namespace OutputContext

variable {x : OutputContext} {r : Registry} {m : Message} (spelled : m.IsSpelled)

include spelled

/-- The file of a message has the path and the code of the file without documentation. -/
theorem code_of_messageFile :
    (x.messageFile r m).map (fun f => (f.path, Text.codeLines ends f.content)) =
      (x.messageFile r.uncommented m.uncommented).map fun f =>
        (f.path, Text.codeLines ends f.content) := by
  rw [messageFile_eq spelled, messageFile_eq (Message.isSpelled_uncommented_iff.mpr spelled),
    outline_uncommented]
  cases outlined : x.outline r m with
  | error e => rfl
  | ok o =>
    have whole : Text.IsWhole ends o.front.toList := by
      obtain ⟨parts, values, -, -, front, -, -⟩ := of_outline outlined
      rw [front]
      exact isWhole_renderRows feed _ _
    show Except.ok (o.path, _) = Except.ok (o.path, _)
    rw [codeLines_content_uncommented feed known whole]

/-- Documentation is inert. Of two messages in two registries that differ in documentation alone,
either both files fail with the same fault, or both have the same path and the same lines other than
comments. Every line of a file is a comment or a line of the file without documentation. -/
theorem code_of_uncommented_eq {r' : Registry} {m' : Message}
    (registries : r.uncommented = r'.uncommented) (messages : m.uncommented = m'.uncommented) :
    (x.messageFile r m).map (fun f => (f.path, Text.codeLines ends f.content)) =
      (x.messageFile r' m').map (fun f => (f.path, Text.codeLines ends f.content)) ∧
    ∀ file, x.messageFile r m = .ok file →
      ∃ plain, x.messageFile r.uncommented m.uncommented = .ok plain ∧
        ∀ line ∈ Text.cutLines ends file.content.toList,
          Text.isComment line = true ∨ line ∈ Text.cutLines ends plain.content.toList := by
  have other : m'.IsSpelled := by
    rw [← Message.isSpelled_uncommented_iff, ← messages, Message.isSpelled_uncommented_iff]
    exact spelled
  have own := code_of_messageFile feed known spelled (x := x) (r := r)
  constructor
  · rw [own, code_of_messageFile feed known other, registries, messages]
  · intro file laid
    rw [laid] at own
    cases bare : x.messageFile r.uncommented m.uncommented with
    | error e =>
      rw [bare] at own
      cases own
    | ok plain =>
      rw [bare] at own
      have code : Text.codeLines ends file.content = Text.codeLines ends plain.content :=
        (Prod.mk.inj (Except.ok.inj own)).2
      refine ⟨plain, rfl, fun line mem => ?_⟩
      rcases Text.isComment_or_mem_codeLines mem with comment | inside
      · exact .inl comment
      · rw [code] at inside
        exact .inr (List.mem_of_mem_filter inside)

end OutputContext

end Lines

namespace OutputContext

namespace Sample

open Registry.Sample (field)

/-- A message whose documentation, and that of its field, is the text. -/
def documented (text : String) : RegistryDefinition where
  messages := some [
    { id := .number 1, name := some "Note", comment := some text,
      fields := some [{ field "lines" "List<String>" with comment := some text }] }]

/-- The registry has the message alone, its file can be laid out, and the text is its documentation. -/
theorem exists_of_documented {text : String} {r : Registry}
    (made : Registry.ofDefinition (documented text) = .ok r) :
    ∃ m, m ∈ r.messages ∧ m.comment = some text ∧ m.name.any TypeName.isName = true ∧
      (∀ f ∈ m.fields, f.name.any TypeName.isName = true) ∧
      (∀ m ∈ r.messages, m.module ≠ none) ∧ m.id ≠ .null ∧ m.name ≠ none ∧
      (∃ ids, r.dependencies m.id = .ok ids) ∧ r.uncommented.messages = [m.uncommented] := by
  obtain rfl := Except.ok.inj (made.symm.trans (by cbv))
  refine ⟨_, .head _, rfl, rfl, ?_, ?_, by simp, by simp, ⟨_, by cbv⟩, rfl⟩
  · exact List.forall_mem_singleton.mpr rfl
  · exact List.forall_mem_singleton.mpr (by simp)

end Sample

/-- Line ends of many kinds, braces and marks of comments in the documentation do not matter. -/
theorem code_of_uncommented_eq_sample : ∃ r r' m m',
    Registry.ofDefinition (Sample.documented "one\u2028int hidden;\r\n\x7b\x7b doc \x7d\x7d") = .ok r ∧
    Registry.ofDefinition (Sample.documented "\x0b// two \\") = .ok r' ∧
    m ∈ r.messages ∧ m' ∈ r'.messages ∧ m.comment ≠ m'.comment ∧ m.IsSpelled ∧
    r.uncommented = r'.uncommented ∧ m.uncommented = m'.uncommented ∧
    ∀ t : Target, ∃ (x : OutputContext) (file file' : OutputFile), x.target = t ∧
      x.messageFile r m = .ok file ∧ x.messageFile r' m' = .ok file' ∧ file.path = file'.path ∧
      Text.codeLines Text.isLineEnd file.content = Text.codeLines Text.isLineEnd file'.content := by
  have alike : ∀ text text' r r', Registry.ofDefinition (Sample.documented text) = .ok r →
      Registry.ofDefinition (Sample.documented text') = .ok r' → r.uncommented = r'.uncommented := by
    intro text text' r r' made made'
    obtain rfl := Except.ok.inj (made.symm.trans (by cbv))
    obtain rfl := Except.ok.inj (made'.symm.trans (by cbv))
    rfl
  obtain ⟨r, made⟩ : ∃ r, Registry.ofDefinition
      (Sample.documented "one\u2028int hidden;\r\n\x7b\x7b doc \x7d\x7d") = .ok r := ⟨_, by cbv⟩
  obtain ⟨r', made'⟩ : ∃ r', Registry.ofDefinition (Sample.documented "\x0b// two \\") = .ok r' :=
    ⟨_, by cbv⟩
  obtain ⟨m, hm, comment, name, fields, modules, id, given, ⟨ids, told⟩, all⟩ :=
    Sample.exists_of_documented made
  obtain ⟨m', hm', comment', -, -, modules', id', given', ⟨ids', told'⟩, all'⟩ :=
    Sample.exists_of_documented made'
  have built := Registry.isBuilt_of_ofDefinition made
  have spelled : m.IsSpelled := built.isSpelled hm name fields
  have registries := alike _ _ r r' made made'
  have messages : m.uncommented = m'.uncommented := by
    rw [registries, all'] at all
    exact (List.singleton_inj.mp all).symm
  refine ⟨r, r', m, m', made, made', hm, hm', ?_, spelled, registries, messages, fun t => ?_⟩
  · rw [comment, comment']
    decide
  · obtain ⟨c, prepared, rfl, -⟩ := Script.exists_prepare t
    obtain ⟨file, laid⟩ := exists_messageFile (x := ⟨⟨.here, ["out"]⟩, c, false⟩) built modules
      prepared hm id given told
    obtain ⟨file', laid'⟩ := exists_messageFile (x := ⟨⟨.here, ["out"]⟩, c, false⟩)
      (Registry.isBuilt_of_ofDefinition made') modules' prepared hm' id' given' told'
    have feed : Text.isLineEnd '\n' = true := by decide
    have same := (code_of_uncommented_eq feed (fun c h => h) spelled
      (x := ⟨⟨.here, ["out"]⟩, c, false⟩) registries messages).1
    rw [laid, laid'] at same
    obtain ⟨path, code⟩ := Prod.mk.inj (Except.ok.inj same)
    exact ⟨_, file, file', rfl, laid, laid', path, code⟩

end OutputContext

end PacketSmith
