import PacketSmith.Proofs.FileLayout
import PacketSmith.Proofs.Respelling

/-!
# The layout of a message's file

The file of a message is its outline with documentation put in (`messageFile_eq`): what stands before
the documentation of the message, the lines that open its class, the declarations of its fields, each
behind the documentation of the field, and what stands behind them (`Outline`). The outline has no
documentation in it.

Documentation and declarations are trimmed on their way into the template, and the template indents
the first line again. Nothing is lost there, because comment lines begin with their mark, and
declarations with a name (`IsSpelled`).
-/

namespace PacketSmith

open Code

/-! ### Steps on changed results -/

/-- Two steps behind one, where the results of the one are made from those of the other. -/
theorem bind_eq_map_bind {α β γ : Type} (r : Except Fault α) {f : α → Except Fault γ}
    {g : α → Except Fault β} {make : β → γ} (h : ∀ a, r = .ok a → f a = (g a).map make) :
    (r >>= f) = (r >>= g).map make := by
  cases r with
  | error e => rfl
  | ok a => exact h a rfl

/-- Two steps behind one whose result is changed for the first of them. -/
theorem map_bind_eq_map_bind {α α' β γ : Type} (r : Except Fault α) {change : α → α'}
    {f : α' → Except Fault γ} {g : α → Except Fault β} {make : β → γ}
    (h : ∀ a, r = .ok a → f (change a) = (g a).map make) :
    (r.map change >>= f) = (r >>= g).map make := by
  cases r with
  | error e => rfl
  | ok a => exact h a rfl

/-- Lists that are made item by item, where each item of the one is made from one of the other. -/
theorem mapM_eq_map {α β γ : Type} {f : α → Except Fault γ} {g : α → Except Fault β}
    {make : α → β → γ} (h : ∀ x, f x = (g x).map (make x)) (xs : List α) :
    xs.mapM f = (xs.mapM g).map fun ys => (xs.zip ys).map fun q => make q.1 q.2 := by
  induction xs with
  | nil => rfl
  | cons x xs ih =>
    rw [List.mapM_cons, List.mapM_cons, h, ih]
    refine map_bind_eq_map_bind _ fun y _ => ?_
    exact map_bind_eq_map_bind _ fun ys _ => rfl

/-! ### Texts of types -/

namespace TypeName

/-- The characters that the texts of type names are made of. -/
def isTextChar (c : Char) : Bool := isNamePart c || ['<', '>', ',', ' ', '[', ']'].contains c

/-- The text starts as a name does, and has the characters of type names alone. -/
structure IsPlainText (s : String) : Prop where
  /-- How the text starts. -/
  first : s.toList.head?.any isNameStart = true
  /-- What the text is made of. -/
  chars : s.toList.all isTextChar = true

namespace IsPlainText

/-- A name is such a text. -/
theorem of_isName {s : String} (h : isName s = true) : IsPlainText s where
  first := by
    unfold isName at h
    cases chars : s.toList with
    | nil => simp [chars, isNameList] at h
    | cons c cs =>
      simp only [chars, isNameList, Bool.and_eq_true] at h
      simpa using h.1
  chars := by
    rw [List.all_eq_true]
    intro c mem
    simp [isTextChar, isNamePart_of_isNameList h mem]

/-- Characters of type names may follow. -/
theorem append {s u : String} (h : IsPlainText s) (more : u.toList.all isTextChar = true) :
    IsPlainText (s ++ u) where
  first := by
    have first := h.first
    rw [String.toList_append]
    cases chars : s.toList with
    | nil => simp [chars] at first
    | cons c cs => simpa [chars] using first
  chars := by
    rw [String.toList_append, List.all_append, h.chars, more]
    rfl

end IsPlainText

/-- No name starts with a blank. -/
theorem isBlank_of_isNameStart {c : Char} (h : isNameStart c = true) : Text.isBlank c = false := by
  have range : 0x24 ≤ c.toNat ∧ c.toNat ≤ 0x7A := by
    simp only [isNameStart, Bool.or_eq_true, Bool.and_eq_true, decide_eq_true_eq, beq_iff_eq,
      Char.le_def, UInt32.le_iff_toNat_le] at h
    rcases h with ((⟨low, high⟩ | ⟨low, high⟩) | rfl) | rfl
    · exact ⟨Nat.le_trans (by decide) low, Nat.le_trans high (by decide)⟩
    · exact ⟨Nat.le_trans (by decide) low, high⟩
    · decide
    · decide
  simp [Text.isBlank]
  omega

/-- A text that starts as a name does starts with no blank. -/
theorem IsPlainText.startsTight {s : String} (h : IsPlainText s) : startsTight s = true := by
  have first := h.first
  unfold PacketSmith.startsTight
  cases chars : s.toList with
  | nil => simp [chars] at first
  | cons c cs =>
    have start : isNameStart c = true := by simpa [chars] using first
    simp [isBlank_of_isNameStart start]

/-- Parameters have texts if each one does. -/
theorem exists_texts {ts : List TypeName} (h : ∀ t ∈ ts, ∃ text, t.text? = some text ∧
    IsPlainText text) : ∃ ss, texts? ts = some ss ∧ ∀ s ∈ ss, IsPlainText s := by
  induction ts with
  | nil => exact ⟨[], rfl, by simp⟩
  | cons t ts ih =>
    obtain ⟨⟨text, printed, plain⟩, others⟩ := List.forall_mem_cons.mp h
    obtain ⟨ss, texts, rest⟩ := ih others
    refine ⟨text :: ss, ?_, List.forall_mem_cons.mpr ⟨plain, rest⟩⟩
    rw [texts?, printed, texts]
    rfl

/-- Texts of type names with commas between them have no other characters. -/
theorem all_isTextChar_intercalate {ss : List String} (h : ∀ s ∈ ss, IsPlainText s) :
    (", ".intercalate ss).toList.all isTextChar = true := by
  induction ss with
  | nil => rfl
  | cons s ss ih =>
    obtain ⟨first, rest⟩ := List.forall_mem_cons.mp h
    cases ss with
    | nil =>
      rw [String.intercalate_singleton]
      exact first.chars
    | cons u us =>
      rw [String.intercalate_cons_cons, String.toList_append, String.toList_append,
        List.all_append, List.all_append, first.chars, ih rest]
      rfl

/-- The text of a well-formed type name starts with a name, and stays on its line. -/
theorem exists_isPlainText {t : TypeName} (wf : t.WellFormed) :
    ∃ text, t.text? = some text ∧ IsPlainText text := by
  induction wf with
  | @array e _ ih =>
    obtain ⟨text, printed, plain⟩ := ih
    refine ⟨text ++ "[]", ?_, plain.append (by decide)⟩
    rw [array, text?, if_pos (by rfl), firstText?, printed]
    rfl
  | @named h ts name _ ih =>
    cases ts with
    | nil =>
      refine ⟨h, ?_, .of_isName name⟩
      rw [text?, if_neg (by simpa using ne_arrayHead_of_isName name)]
    | cons t ts =>
      obtain ⟨ss, texts, plain⟩ := exists_texts ih
      refine ⟨_, Spelling.text?_generic name texts, ?_⟩
      apply IsPlainText.append _ (by decide)
      apply IsPlainText.append _ (all_isTextChar_intercalate plain)
      exact (IsPlainText.of_isName name).append (by decide)

end TypeName

/-- The spelling of a well-formed type name starts with a name, and stays on its line. -/
theorem Target.isPlainText_of_spell (t : Target) {name : TypeName} (wf : name.WellFormed)
    {text : String} (h : t.spelling.spell name = .ok text) : TypeName.IsPlainText text := by
  obtain ⟨u, spelled, settles⟩ := Spelling.exists_settles (Spelling.isStable_target t) wf
  obtain rfl := Except.ok.inj (h.symm.trans settles.spelled)
  obtain ⟨printed, same, plain⟩ := TypeName.exists_isPlainText settles.wellFormed
  obtain rfl := Option.some.inj (same.symm.trans settles.printed)
  exact plain

/-! ### Documentation -/

namespace Code

/-- The comment lines of a documentation text, without their indentation. -/
def commentLines : Option String → List String
  | none => []
  | some s => (Text.lines (Text.trim s)).map fun l => Text.trimEnd (Target.commentMark ++ l)

/-- What is left of a line behind its mark, whatever stands before it. -/
theorem dropEndBlanks_mark (before : List Char) (l : String) :
    Text.dropEndBlanks (before ++ (Target.commentMark ++ l).toList) =
      before ++ '/' :: '/' :: Text.dropEndBlanks (' ' :: l.toList) := by
  have slash : Text.isBlank '/' = false := by decide
  have chars : (Target.commentMark ++ l).toList = '/' :: '/' :: ' ' :: l.toList :=
    String.toList_append
  rw [chars, dropEndBlanks_append slash, ← List.nil_append ('/' :: ' ' :: l.toList),
    dropEndBlanks_append slash, List.nil_append]

/-- The characters of a comment line. -/
theorem toList_comment (l : String) : (Text.trimEnd (Target.commentMark ++ l)).toList =
    '/' :: '/' :: Text.dropEndBlanks (' ' :: l.toList) := by
  rw [Text.trimEnd, String.toList_ofList]
  exact dropEndBlanks_mark [] l

/-- Documentation is made of comment lines behind their indentation. -/
theorem documentation_eq (text : Option String) (depth : Int) :
    documentation text depth Target.commentMark = (commentLines text).map (indent depth ++ ·) := by
  cases text with
  | none => rfl
  | some s =>
    rw [documentation, commentLines, List.map_map]
    apply List.map_congr_left
    intro l _
    apply String.toList_inj.mp
    rw [Function.comp_apply, String.toList_append, toList_comment, Text.trimEnd,
      String.toList_ofList, String.append_assoc, String.toList_append, dropEndBlanks_mark]

/-- A text without the blanks at its end does not end with one. -/
theorem getLast?_dropEndBlanks (cs : List Char) :
    ∀ c ∈ (Text.dropEndBlanks cs).getLast?, Text.isBlank c = false := by
  intro c last
  rw [Text.dropEndBlanks, List.getLast?_reverse] at last
  have stays := List.head?_dropWhile_not Text.isBlank cs.reverse
  rw [Option.mem_def.mp last] at stays
  simpa using stays

/-- A comment line has no blanks at its ends. -/
theorem tight_of_mem_commentLines {text : Option String} {s : String}
    (mem : s ∈ commentLines text) : startsTight s = true ∧ endsTight s = true := by
  cases text with
  | none => cases mem
  | some t =>
    obtain ⟨l, -, rfl⟩ := List.mem_map.mp mem
    constructor
    · rw [startsTight, toList_comment]
      show (!Text.isBlank '/') = true
      decide
    · rw [endsTight, Text.trimEnd, String.toList_ofList]
      have last := getLast?_dropEndBlanks (Target.commentMark ++ l).toList
      cases found : (Text.dropEndBlanks (Target.commentMark ++ l).toList).getLast? with
      | none =>
        have chars := toList_comment l
        rw [Text.trimEnd, String.toList_ofList, List.getLast?_eq_none_iff.mp found] at chars
        cases chars
      | some c => simpa using last c found

/-- Documentation stands behind its indentation. -/
theorem isIndented_documentation (text : Option String) (depth : Int) :
    IsIndented depth (documentation text depth Target.commentMark) := by
  rw [documentation_eq]
  exact .map fun s mem => tight_of_mem_commentLines mem

end Code

/-! ### Declarations -/

/-- The field has a name that can stand in code, and its type has a well-formed name. -/
structure Field.IsSpelled (f : Field) : Prop where
  /-- The name is a name. -/
  name : f.name.any TypeName.isName = true
  /-- The type has a well-formed name. -/
  type : f.type.name.WellFormed

namespace Code.Coder

/-- A field as it is declared, and its declaration. -/
def declared (c : Coder) (f : Field) : Except Fault (DeclaredField × String) := do
  let declared ← c.declare f
  let declaration ← c.target.declaration declared
  return (declared, declaration)

/-- A field is declared behind its documentation. -/
theorem declarationLines_eq (c : Coder) (f : Field) :
    c.declarationLines f = (c.declared f).map fun p =>
      (p.1, documentation f.comment c.target.fieldDepth Target.commentMark ++
        [indent c.target.fieldDepth ++ p.2]) := by
  unfold declarationLines declared
  refine bind_eq_map_bind _ fun d _ => ?_
  exact bind_eq_map_bind _ fun s _ => rfl

variable {c : Coder} {f : Field} {d : DeclaredField} {s : String}

/-- What a declared field is. -/
theorem of_declared (h : c.declared f = .ok (d, s)) :
    d.field = f ∧ d.identifier = shown f.name ∧ c.target.declaration d = .ok s ∧
      ∃ serializer, c.target.fieldType serializer f.type = .ok d.type := by
  obtain ⟨d', made, h⟩ := exists_of_bind_eq_ok h
  obtain ⟨s', declaration, h⟩ := exists_of_bind_eq_ok h
  cases h
  obtain ⟨serializer, -, made⟩ := exists_of_bind_eq_ok made
  obtain ⟨type, typed, made⟩ := exists_of_bind_eq_ok made
  cases made
  exact ⟨rfl, rfl, declaration, serializer, typed⟩

/-- A C++ field is declared by the spelling of its type and its name. -/
theorem cpp_of_declared (target : c.target = .cpp) (h : c.declared f = .ok (d, s)) :
    s = d.type ++ " " ++ shown f.name ++ ";" ∧
      Target.cpp.spelling.spell f.type.name = .ok d.type := by
  obtain ⟨-, identifier, declaration, serializer, typed⟩ := of_declared h
  rw [target] at declaration typed
  obtain ⟨type, spelled, typed⟩ := exists_of_bind_eq_ok typed
  cases typed
  cases declaration
  rw [Cpp.declaration, identifier]
  exact ⟨rfl, spelled⟩

/-- A declaration has no blanks at its ends. -/
theorem tight_of_declared (spelled : f.IsSpelled) (h : c.declared f = .ok (d, s)) :
    startsTight s = true ∧ endsTight s = true := by
  cases target : c.target with
  | cpp =>
    obtain ⟨rfl, typed⟩ := cpp_of_declared target h
    have plain := Target.cpp.isPlainText_of_spell spelled.type typed
    refine ⟨?_, endsTight_append _ (by decide)⟩
    exact startsTight_append (startsTight_append (startsTight_append plain.startsTight _) _) _
  | typescript =>
    obtain ⟨-, identifier, declaration, -⟩ := of_declared h
    rw [target] at declaration
    obtain ⟨value, -, declaration⟩ := exists_of_bind_eq_ok declaration
    cases declaration
    obtain ⟨name, given, isName⟩ := (Option.any_eq_true _ _).mp spelled.name
    rw [identifier, given]
    refine ⟨?_, endsTight_append _ (by decide)⟩
    have first := (TypeName.IsPlainText.of_isName isName).startsTight
    exact startsTight_append (startsTight_append (startsTight_append (startsTight_append
      (startsTight_append first _) _) _) _) _

end Code.Coder

/-! ### Outlines -/

/-- The file of a message without its documentation. -/
structure Outline where
  /-- Where the file belongs. -/
  path : FilePath
  /-- The text before the documentation of the message. -/
  front : String
  /-- The lines that open the class. -/
  opening : List String
  /-- The declarations of the fields. -/
  declarations : List String
  /-- The text behind the declarations. -/
  back : String

/-- The lines that document and declare some fields. -/
def Target.fieldLines (t : Target) (fs : List Field) (declarations : List String) : List String :=
  (fs.zip declarations).flatMap fun p =>
    documentation p.1.comment t.fieldDepth Target.commentMark ++ [indent t.fieldDepth ++ p.2]

/-- There are lines if there are fields with declarations. -/
theorem Target.isEmpty_fieldLines (t : Target) (fs : List Field) (declarations : List String) :
    (t.fieldLines fs declarations).isEmpty = (fs.zip declarations).isEmpty := by
  rw [fieldLines]
  cases fs.zip declarations <;> simp

/-- The text of the file, with the documentation that a message has. -/
def Outline.content (o : Outline) (t : Target) (m : Message) : String :=
  o.front ++ endLines (documentation m.comment t.documentationDepth Target.commentMark) ++
    endLines o.opening ++ endSection (t.fieldLines m.fields o.declarations) ++ o.back

namespace Target

/-- The template of a message. -/
def messageLayout : Target → Template
  | cpp => Template.cppMessage
  | typescript => Template.typescriptMessage

/-- The rows of a message's template before its documentation. -/
def frontRows : Target → List TemplateRow
  | cpp => Template.cppMessage.rows.take 8
  | typescript => Template.typescriptMessage.rows.take 1

/-- The rows of a message's template behind the declarations of its fields. -/
def backRows : Target → List TemplateRow
  | cpp => Template.cppMessage.rows.drop 12
  | typescript => Template.typescriptMessage.rows.drop 4

/-- The lines that open the class of a message. -/
def openingLines : Target → String → List String
  | cpp, name => ["    class " ++ name ++ " : public IPacket \x7b", "    public:"]
  | typescript, name => ["class " ++ name ++ " \x7b"]

/-- The slots of a message's template for other things than documentation and declarations. -/
def plainSlots : Target → List String
  | cpp => ["guard", "root", "includes", "name", "value_of_params", "value_of_body", "protocol_id",
    "operator_body", "write_body", "read_body"]
  | typescript => ["imports", "name", "protocol_id", "write_body", "read_body"]

/-- The template of a message is laid out around its documentation and its declarations, and the rest
of it takes other values alone. -/
theorem render_messageLayout (t : Target) {values others : List (String × String)}
    (agree : ∀ slot ∈ t.plainSlots, Template.valueOf values slot = Template.valueOf others slot)
    {name doc fields : String} (hn : Template.valueOf values "name" = name)
    (hd : Template.valueOf values "doc" = doc) (hf : Template.valueOf values "fields" = fields) :
    t.messageLayout.render values = Template.renderRows others t.frontRows ++
      (if doc.isEmpty then "" else indent t.documentationDepth ++ doc ++ "\n") ++
      endLines (t.openingLines name) ++
      (if fields.isEmpty then "" else indent t.fieldDepth ++ fields ++ "\n" ++ "\n") ++
      Template.renderRows others t.backRows := by
  have front : Template.renderRows values t.frontRows = Template.renderRows others t.frontRows := by
    apply Template.renderRows_congr
    have slots : t.frontRows.flatMap Template.rowSlots ⊆ t.plainSlots := by cases t <;> decide
    exact fun slot mem => agree slot (slots mem)
  have back : Template.renderRows values t.backRows = Template.renderRows others t.backRows := by
    apply Template.renderRows_congr
    have slots : t.backRows.flatMap Template.rowSlots ⊆ t.plainSlots := by cases t <;> decide
    exact fun slot mem => agree slot (slots mem)
  rw [← front, ← back]
  show Template.renderRows values t.messageLayout.rows = _
  cases t with
  | cpp =>
    have rows : cpp.messageLayout.rows = cpp.frontRows ++ [
      .block "doc" [[.text "    ", .slot "doc"]],
      .line [.text "    class ", .slot "name", .text " : public IPacket \x7b"],
      .line [.text "    public:"],
      .block "fields" [[.text "        ", .slot "fields"], []]] ++ cpp.backRows := rfl
    have one : indent cpp.documentationDepth = "    " := by decide
    have two : indent cpp.fieldDepth = "        " := by decide
    rw [rows, Template.renderRows_append, Template.renderRows_append, one, two]
    generalize cpp.frontRows = before
    generalize cpp.backRows = behind
    simp only [Template.renderRows, Template.renderRow, Template.renderLine, Template.renderPart,
      hn, hd, hf, List.map_cons, List.map_nil, String.join_cons, String.join_nil,
      String.append_empty, String.empty_append, endLines, openingLines, String.append_assoc]
  | typescript =>
    have rows : typescript.messageLayout.rows = typescript.frontRows ++ [
      .block "doc" [[.slot "doc"]],
      .line [.text "class ", .slot "name", .text " \x7b"],
      .block "fields" [[.text "    ", .slot "fields"], []]] ++ typescript.backRows := rfl
    have zero : indent typescript.documentationDepth = "" := by decide
    have one : indent typescript.fieldDepth = "    " := by decide
    rw [rows, Template.renderRows_append, Template.renderRows_append, zero, one]
    generalize typescript.frontRows = before
    generalize typescript.backRows = behind
    simp only [Template.renderRows, Template.renderRow, Template.renderLine, Template.renderPart,
      hn, hd, hf, List.map_cons, List.map_nil, String.join_cons, String.join_nil,
      String.append_empty, String.empty_append, endLines, openingLines, String.append_assoc]

end Target

/-- The parts of a message without documentation and declarations. -/
def Code.MessageParts.bare (p : MessageParts) : MessageParts :=
  { p with documentation := "", declarations := "" }

/-- The values of a message's template are found in their slots, and those of the bare parts differ in
documentation and declarations alone. -/
theorem exists_messageValues (t : Target) {p : MessageParts} (name : p.message.name ≠ none) :
    ∃ values others, t.messageValues p = .ok values ∧ t.messageValues p.bare = .ok others ∧
      values.length = t.messageTemplate.slots.length ∧
      (∀ slot ∈ t.plainSlots, Template.valueOf (t.messageTemplate.slots.zip values) slot =
        Template.valueOf (t.messageTemplate.slots.zip others) slot) ∧
      Template.valueOf (t.messageTemplate.slots.zip values) "name" = shown p.message.name ∧
      Template.valueOf (t.messageTemplate.slots.zip values) "doc" = p.documentation ∧
      Template.valueOf (t.messageTemplate.slots.zip values) "fields" = p.declarations := by
  obtain ⟨text, given⟩ := Option.ne_none_iff_exists'.mp name
  cases t with
  | cpp =>
    simp only [Target.messageValues, Cpp.messageValues, MessageParts.bare, given]
    refine ⟨_, _, rfl, rfl, by simp [Target.messageTemplate, Cpp.messageTemplate], ?_, rfl, rfl, rfl⟩
    simp only [Target.plainSlots, List.forall_mem_cons]
    exact ⟨rfl, rfl, rfl, rfl, rfl, rfl, rfl, rfl, rfl, rfl, by simp⟩
  | typescript =>
    refine ⟨_, _, rfl, rfl, rfl, ?_, rfl, rfl, rfl⟩
    simp only [Target.plainSlots, List.forall_mem_cons]
    exact ⟨rfl, rfl, rfl, rfl, rfl, by simp⟩

/-- The message has a name that can stand in code, and so have its fields, and the types of the fields
have well-formed names. -/
structure Message.IsSpelled (m : Message) : Prop where
  /-- The name is a name. -/
  name : m.name.any TypeName.isName = true
  /-- The fields have names and types. -/
  fields : ∀ f ∈ m.fields, f.IsSpelled

/-- In a registry that is built from definitions, types have well-formed names. -/
theorem Registry.IsBuilt.isSpelled {r : Registry} (built : r.IsBuilt) {m : Message}
    (hm : m ∈ r.messages) (name : m.name.any TypeName.isName = true)
    (fields : ∀ f ∈ m.fields, f.name.any TypeName.isName = true) : m.IsSpelled where
  name := name
  fields := fun f mem => ⟨fields f mem, (built.resolved m hm f mem).wellFormed_name⟩

namespace OutputContext

variable {x : OutputContext} {r : Registry} {m : Message}

/-- The pieces of a message's file without its documentation, and the declarations of its fields. -/
def bareParts (x : OutputContext) (r : Registry) (m : Message) :
    Except Fault (MessageParts × List String) := do
  let dependencies ← x.dependencyLines r m
  let declared ← m.fields.mapM x.coder.declared
  let written := x.coder.writeFields m.fields 0
  written.result
  let read := x.coder.readFields false m.fields written.next
  read.result
  return ({
    message := m
    dependencies := "\n".intercalate dependencies
    documentation := ""
    fields := declared.map (·.1)
    declarations := ""
    writeBody := x.target.fragment written.lines
    readBody := x.target.fragment read.lines }, declared.map (·.2))

/-- The outline of a message's file. -/
def outline (x : OutputContext) (r : Registry) (m : Message) : Except Fault Outline := do
  let (parts, declarations) ← x.bareParts r m
  let values ← x.target.messageValues parts
  x.log m
  let path ← x.messagePath m
  return {
    path := path
    front := Template.renderRows (x.target.messageTemplate.slots.zip values) x.target.frontRows
    opening := x.target.openingLines (shown m.name)
    declarations := declarations
    back := Template.renderRows (x.target.messageTemplate.slots.zip values) x.target.backRows }

/-- The pieces of a message's file are the bare ones, documentation and declarations. -/
theorem messageParts_eq (x : OutputContext) (r : Registry) (m : Message) :
    x.messageParts r m = (x.bareParts r m).map fun b => { b.1 with
      documentation := Text.trim ("\n".intercalate
        (documentation m.comment x.target.documentationDepth Target.commentMark))
      declarations := Text.trim ("\n".intercalate (x.target.fieldLines m.fields b.2)) } := by
  unfold messageParts bareParts
  rw [mapM_eq_map x.coder.declarationLines_eq]
  refine bind_eq_map_bind _ fun lines _ => ?_
  refine map_bind_eq_map_bind _ fun declared made => ?_
  have length : declared.length ≤ m.fields.length :=
    Nat.le_of_eq (forall₂_of_mapM_eq_ok made).length_eq.symm
  have fields : ((m.fields.zip declared).map fun q => (q.2.1, documentation q.1.comment
      x.coder.target.fieldDepth Target.commentMark ++
        [indent x.coder.target.fieldDepth ++ q.2.2])).map (·.1) = declared.map (·.1) := by
    rw [List.map_map, ← List.map_snd_zip length, List.map_map, List.map_snd_zip length]
    rfl
  have lines : ((m.fields.zip declared).map fun q => (q.2.1, documentation q.1.comment
      x.coder.target.fieldDepth Target.commentMark ++
        [indent x.coder.target.fieldDepth ++ q.2.2])).flatMap (·.2) =
      x.target.fieldLines m.fields (declared.map (·.2)) := by
    rw [Target.fieldLines, List.zip_map_right, List.flatMap_map, List.flatMap_map]
    rfl
  refine bind_eq_map_bind _ fun _ _ => ?_
  refine bind_eq_map_bind _ fun _ _ => ?_
  simp only [fields, lines]
  rfl

/-- What the bare pieces of a message's file are. -/
theorem of_bareParts {parts : MessageParts} {declarations : List String}
    (h : x.bareParts r m = .ok (parts, declarations)) :
    parts.message = m ∧ parts.bare = parts ∧ ∃ declared,
      List.Forall₂ (fun f p => x.coder.declared f = .ok p) m.fields declared ∧
      parts.fields = declared.map (·.1) ∧ declarations = declared.map (·.2) := by
  obtain ⟨lines, -, h⟩ := exists_of_bind_eq_ok h
  obtain ⟨declared, made, h⟩ := exists_of_bind_eq_ok h
  obtain ⟨_, -, h⟩ := exists_of_bind_eq_ok h
  obtain ⟨_, -, h⟩ := exists_of_bind_eq_ok h
  cases h
  exact ⟨rfl, rfl, declared, forall₂_of_mapM_eq_ok made, rfl, rfl⟩

/-- What the outline of a message's file is. -/
theorem of_outline {o : Outline} (h : x.outline r m = .ok o) :
    ∃ parts values, x.bareParts r m = .ok (parts, o.declarations) ∧
      x.target.messageValues parts = .ok values ∧
      o.front = Template.renderRows (x.target.messageTemplate.slots.zip values) x.target.frontRows ∧
      o.opening = x.target.openingLines (shown m.name) ∧
      o.back = Template.renderRows (x.target.messageTemplate.slots.zip values) x.target.backRows := by
  obtain ⟨⟨parts, declarations⟩, bare, h⟩ := exists_of_bind_eq_ok h
  obtain ⟨values, valued, h⟩ := exists_of_bind_eq_ok h
  obtain ⟨_, -, h⟩ := exists_of_bind_eq_ok h
  obtain ⟨path, -, h⟩ := exists_of_bind_eq_ok h
  cases h
  exact ⟨parts, values, bare, valued, rfl, rfl, rfl⟩

/-- Documented and declared fields stand behind their indentation. -/
theorem isIndented_fieldLines {fs : List Field} (spelled : ∀ f ∈ fs, f.IsSpelled)
    {declared : List (DeclaredField × String)}
    (h : List.Forall₂ (fun f p => x.coder.declared f = .ok p) fs declared) :
    IsIndented x.target.fieldDepth (x.target.fieldLines fs (declared.map (·.2))) := by
  apply IsIndented.flatMap
  rintro ⟨f, s⟩ mem
  rw [List.zip_map_right, List.mem_map] at mem
  obtain ⟨⟨g, d, u⟩, inside, same⟩ := mem
  cases same
  have made : x.coder.declared g = .ok (d, u) := List.forall₂_zip h inside
  obtain ⟨first, last⟩ := Coder.tight_of_declared (spelled g (List.of_mem_zip inside).1) made
  exact (isIndented_documentation _ _).append (.singleton first last)

/-- The file of a message is its outline with documentation put in. -/
theorem messageFile_eq (spelled : m.IsSpelled) : x.messageFile r m = (x.outline r m).map fun o =>
    ⟨o.path, o.content x.target m⟩ := by
  unfold messageFile outline
  rw [messageParts_eq]
  cases bare : x.bareParts r m with
  | error e => rfl
  | ok b =>
    obtain ⟨parts, declarations⟩ := b
    obtain ⟨message, same, declared, made, -, rfl⟩ := of_bareParts bare
    obtain ⟨name, given, -⟩ := (Option.any_eq_true _ _).mp spelled.name
    obtain ⟨values, others, own, plain, count, agree, hn, hd, hf⟩ := exists_messageValues x.target
      (p := { parts with
        documentation := Text.trim ("\n".intercalate
          (documentation m.comment x.target.documentationDepth Target.commentMark))
        declarations := Text.trim ("\n".intercalate
          (x.target.fieldLines m.fields (declared.map (·.2)))) }) (by simp [message, given])
    have content : x.target.messageTemplate.render Target.templates values = .ok (
        Template.renderRows (x.target.messageTemplate.slots.zip others) x.target.frontRows ++
        endLines (documentation m.comment x.target.documentationDepth Target.commentMark) ++
        endLines (x.target.openingLines (shown m.name)) ++
        endSection (x.target.fieldLines m.fields (declared.map (·.2))) ++
        Template.renderRows (x.target.messageTemplate.slots.zip others) x.target.backRows) := by
      have found : x.target.messageTemplate.template Target.templates =
          .ok x.target.messageLayout := by
        cases x.target <;> rfl
      have name : shown parts.message.name = shown m.name := by rw [message]
      rw [TemplateContract.render_eq found count,
        x.target.render_messageLayout agree (hn.trans name) hd hf,
        (isIndented_documentation _ _).block,
        (isIndented_fieldLines spelled.fields made).block_section]
    have bared : x.target.messageValues parts = .ok others := by
      rw [← same]
      exact plain
    show (x.target.messageValues _ >>= _) = Except.map _ (x.target.messageValues parts >>= _)
    rw [own, bared]
    show (x.target.messageTemplate.render Target.templates values >>= _) =
      Except.map _ (x.log m >>= _)
    rw [content]
    show (x.log m >>= _) = Except.map _ (x.log m >>= _)
    refine bind_eq_map_bind _ fun _ _ => ?_
    exact bind_eq_map_bind _ fun path _ => rfl

/-- A file that is made has an outline. -/
theorem exists_outline_of_messageFile (spelled : m.IsSpelled) {file : OutputFile}
    (h : x.messageFile r m = .ok file) :
    ∃ o, x.outline r m = .ok o ∧ file = ⟨o.path, o.content x.target m⟩ := by
  rw [messageFile_eq spelled] at h
  cases outlined : x.outline r m with
  | error e =>
    rw [outlined] at h
    cases h
  | ok o =>
    rw [outlined] at h
    exact ⟨o, rfl, (Except.ok.inj h).symm⟩

end OutputContext

end PacketSmith
