import PacketSmith.Proofs.ClassLayout
import PacketSmith.Proofs.InertComments
import PacketSmith.Proofs.ScopedCode

/-!
# Templates take lines as they were recorded

Code that goes into a template is recorded line by line, and given to the template as one text
without the blanks around it. The template puts blanks before it and leaves the section out if there
is nothing to put in. `Template.layOut` says what should come of that: the lines of the template with
the values of their slots, and each section with its recorded lines, whole and as they were.

A template is laid out like this if every section is a `Block` at the depth its lines were recorded
at (`Template.render_eq_layOut`); that the depths agree is checked for every template. What is left
is that the lines stand behind their indentation (`Block.Fits`).
-/

namespace PacketSmith

open Code

/-! ### Laying out a template -/

namespace Template

/-- A piece with its value, given the values by slots. -/
def fillPart (values : String → String) : TemplatePart → String
  | .text s => s
  | .slot name => values name

/-- A line with its values, put in as they are. -/
def fillLine (values : String → String) (parts : List TemplatePart) : String :=
  String.join (parts.map (fillPart values))

/-- The lines of a row: a line with its values, or the lines of a section in place of the first line
of its block. A section without lines goes, with all of its block. -/
def layRow (values : String → String) (sections : String → List String) :
    TemplateRow → List String
  | .line parts => [fillLine values parts]
  | .block slot lines =>
    if (sections slot).isEmpty then [] else sections slot ++ lines.tail.map (fillLine values)

/-- The lines of a template, with its values and its sections. -/
def layOut (t : Template) (values : String → String) (sections : String → List String) :
    List String :=
  t.rows.flatMap (layRow values sections)

/-- The slots of a row that is a line. -/
def lineSlots : TemplateRow → List String
  | .line parts => parts.flatMap partSlots
  | .block _ _ => []

/-- A block for a section: its slot behind indentation, with an empty line behind it or none. -/
structure Block where
  /-- The slot. -/
  slot : String
  /-- The depth. -/
  depth : Int
  /-- An empty line follows. -/
  spaced : Bool

/-- The row of a block. -/
def Block.row (b : Block) : TemplateRow :=
  .block b.slot ((if (indent b.depth).isEmpty then [.slot b.slot] else
    [.text (indent b.depth), .slot b.slot]) :: if b.spaced then [[]] else [])

/-- The value of the slot stands for the lines: with indentation before it and an end behind, it is
the lines with their ends. -/
def Block.Fits (b : Block) (value : String) (ss : List String) : Prop :=
  (if value.isEmpty then "" else indent b.depth ++ value ++ "\n") = endLines ss

/-- The row is a line or one of the blocks. -/
def isKnown (bs : List Block) : TemplateRow → Bool
  | .line _ => true
  | .block slot lines => bs.any fun b => b.row == .block slot lines

variable {given : List (String × String)} {values : String → String}
  {sections : String → List String}

/-- A line has the text of its pieces. -/
theorem renderLine_eq {parts : List TemplatePart}
    (h : ∀ slot ∈ parts.flatMap partSlots, valueOf given slot = values slot) :
    renderLine given parts = endLines [fillLine values parts] := by
  have same : ∀ p ∈ parts, renderPart given p = fillPart values p := by
    intro p mem
    cases p with
    | text s => rfl
    | slot name => exact h name (List.mem_flatMap.mpr ⟨_, mem, List.mem_singleton_self name⟩)
  rw [renderLine, List.map_congr_left same, endLines_cons, endLines, List.map_nil, String.join_nil,
    String.append_empty]
  rfl

/-- Lines have no text exactly if there are none. -/
theorem endLines_eq_empty_iff {ss : List String} : endLines ss = "" ↔ ss = [] := by
  cases ss with
  | nil => simp [endLines]
  | cons s ss => simp [endLines_cons]

/-- The first line of a block. -/
theorem Block.renderLine_first (b : Block) (given : List (String × String)) :
    renderLine given (if (indent b.depth).isEmpty then [.slot b.slot] else
      [.text (indent b.depth), .slot b.slot]) = indent b.depth ++ valueOf given b.slot ++ "\n" := by
  by_cases none : (indent b.depth).isEmpty = true
  · rw [if_pos none, String.isEmpty_iff.mp none]
    simp [renderLine, renderPart]
  · rw [if_neg none]
    simp [renderLine, renderPart]

/-- A block takes the lines that its value stands for. -/
theorem Block.renderRow_eq (b : Block) (fits : b.Fits (valueOf given b.slot) (sections b.slot)) :
    renderRow given b.row = endLines (layRow values sections b.row) := by
  have last : String.join ((if b.spaced then [[]] else []).map (renderLine given)) =
      endLines ((if b.spaced then [[]] else []).map (fillLine values)) := by
    cases b.spaced <;> simp [renderLine, fillLine, endLines]
  unfold Block.Fits at fits
  rw [Block.row, renderRow, layRow]
  by_cases empty : (valueOf given b.slot).isEmpty = true
  · rw [if_pos empty] at fits ⊢
    rw [endLines_eq_empty_iff.mp fits.symm]
    rfl
  · rw [if_neg empty] at fits ⊢
    have some : (sections b.slot).isEmpty = false := by
      rw [List.isEmpty_eq_false_iff]
      intro none
      rw [endLines_eq_empty_iff.mpr none] at fits
      simp at fits
    rw [List.map_cons, String.join_cons, b.renderLine_first, fits, last, some, ← endLines_append]
    rfl

/-- A template is laid out by its values and its sections. -/
theorem render_eq_layOut {t : Template} {bs : List Block} (known : t.rows.all (isKnown bs) = true)
    (slots : ∀ slot ∈ t.rows.flatMap lineSlots, valueOf given slot = values slot)
    (fits : ∀ b ∈ bs, b.Fits (valueOf given b.slot) (sections b.slot)) :
    t.render given = endLines (t.layOut values sections) := by
  show renderRows given t.rows = endLines (t.rows.flatMap (layRow values sections))
  generalize t.rows = rows at *
  induction rows with
  | nil => rfl
  | cons row rest ih =>
    rw [List.all_cons, Bool.and_eq_true] at known
    rw [List.flatMap_cons, List.forall_mem_append] at slots
    rw [renderRows_cons, List.flatMap_cons, endLines_append, ih known.2 slots.2]
    refine congrArg (· ++ _) ?_
    cases row with
    | line parts => exact renderLine_eq slots.1
    | block slot lines =>
      obtain ⟨b, mem, same⟩ := List.any_eq_true.mp known.1
      rw [← beq_iff_eq.mp same]
      exact b.renderRow_eq (fits b mem)

end Template

/-! ### Lines that stand behind their indentation -/

namespace Template.Block

variable {b : Block} {ss : List String}

/-- Lines behind their indentation fit into a block at their depth. -/
theorem Fits.of_isIndented (h : IsIndented b.depth ss) :
    b.Fits (Text.trim ("\n".intercalate ss)) ss :=
  h.block

/-- Lines that are not empty fit into a block without indentation. -/
theorem Fits.of_ne_empty (depth : b.depth = 0) (h : ∀ s ∈ ss, s ≠ "") :
    b.Fits ("\n".intercalate ss) ss := by
  have none : indent 0 = "" := by decide
  rw [Fits, depth, none, String.empty_append]
  exact block_endLines h

end Template.Block

/-! ### The file of a message -/

namespace Target

/-- The sections of a message's template, each at the depth where its lines are recorded. -/
def messageBlocks : Target → List Template.Block
  | cpp => [
    ⟨"includes", 0, false⟩,
    ⟨"doc", cpp.documentationDepth, false⟩,
    ⟨"fields", cpp.fieldDepth, true⟩,
    ⟨"value_of_body", cpp.bodyDepth, false⟩,
    ⟨"operator_body", cpp.bodyDepth, false⟩,
    ⟨"write_body", cpp.bodyDepth, false⟩,
    ⟨"read_body", cpp.bodyDepth, false⟩]
  | typescript => [
    ⟨"imports", 0, true⟩,
    ⟨"doc", typescript.documentationDepth, false⟩,
    ⟨"fields", typescript.fieldDepth, true⟩,
    ⟨"write_body", typescript.bodyDepth, false⟩,
    ⟨"read_body", typescript.bodyDepth, false⟩]

/-- The template of a message indents its sections as their lines are recorded. -/
theorem isKnown_messageLayout (t : Target) :
    t.messageLayout.rows.all (Template.isKnown t.messageBlocks) = true := by
  cases t <;> rfl

/-- The values in the lines of a message's template. -/
def messageValue (t : Target) (m : Message) (fields : List DeclaredField) : String → String
  | "guard" => Text.upper (shown m.name)
  | "root" => t.rootDirectory
  | "name" => shown m.name
  | "value_of_params" => ", ".intercalate (fields.map fun f => f.type ++ " " ++ f.identifier)
  | "protocol_id" => m.id.text
  | _ => ""

/-- The lines that are recorded for the sections of a message's template, given the lines that make
other messages known, the fields with the lines that document and declare them, and the code that
writes and reads the fields. -/
def messageSection (t : Target) (m : Message) (imports : List String)
    (fields : List (DeclaredField × List String)) (written read : List Line) :
    String → List String
  | "includes" => imports
  | "imports" => imports
  | "doc" => documentation m.comment t.documentationDepth commentMark
  | "fields" => fields.flatMap (·.2)
  | "value_of_body" => ((fields.map (·.1)).map Cpp.storeLine).map (indent Cpp.bodyDepth ++ ·)
  | "operator_body" =>
    ((fields.map (·.1)).flatMap Cpp.compareLines).map (indent Cpp.bodyDepth ++ ·)
  | "write_body" => written.map t.line
  | "read_body" => read.map t.line
  | _ => []

end Target

/-- The texts that are given to a message's template for its sections. -/
def Code.MessageParts.sectionText (p : MessageParts) : String → String
  | "includes" => p.dependencies
  | "imports" => p.dependencies
  | "doc" => p.documentation
  | "fields" => p.declarations
  | "value_of_body" => Text.trim ("\n".intercalate (p.fields.map Cpp.assignment))
  | "operator_body" => Text.trim ("\n".intercalate (p.fields.map Cpp.comparison))
  | "write_body" => p.writeBody
  | "read_body" => p.readBody
  | _ => ""

/-- Every slot of a message's template has the value that belongs to it. -/
theorem Target.exists_slotValues (t : Target) {p : MessageParts}
    (name : t = .cpp → p.message.name ≠ none) : ∃ values, t.messageValues p = .ok values ∧
      values.length = t.messageTemplate.slots.length ∧
      (∀ slot ∈ t.messageLayout.rows.flatMap Template.lineSlots,
        Template.valueOf (t.messageTemplate.slots.zip values) slot =
          t.messageValue p.message p.fields slot) ∧
      ∀ b ∈ t.messageBlocks, Template.valueOf (t.messageTemplate.slots.zip values) b.slot =
        p.sectionText b.slot := by
  cases t with
  | cpp =>
    obtain ⟨text, given⟩ := Option.ne_none_iff_exists'.mp (name rfl)
    have lines : cpp.messageLayout.rows.flatMap Template.lineSlots ⊆
        ["guard", "root", "name", "value_of_params", "protocol_id"] := by decide
    simp only [Target.messageValues, Cpp.messageValues, given]
    refine ⟨_, rfl, by simp [Target.messageTemplate, Cpp.messageTemplate], fun slot mem => ?_, ?_⟩
    · have known := lines mem
      simp only [List.mem_cons, List.not_mem_nil, or_false] at known
      have told : shown p.message.name = text := by rw [given]; rfl
      rcases known with rfl | rfl | rfl | rfl | rfl
      · exact congrArg Text.upper told.symm
      · rfl
      · exact told.symm
      · rfl
      · rfl
    · simp only [Target.messageBlocks, List.forall_mem_cons]
      exact ⟨rfl, rfl, rfl, rfl, rfl, rfl, rfl, by simp⟩
  | typescript =>
    have lines : typescript.messageLayout.rows.flatMap Template.lineSlots ⊆
        ["name", "protocol_id"] := by decide
    refine ⟨_, rfl, rfl, fun slot mem => ?_, ?_⟩
    · have known := lines mem
      simp only [List.mem_cons, List.not_mem_nil, or_false] at known
      rcases known with rfl | rfl
      · rfl
      · rfl
    · simp only [Target.messageBlocks, List.forall_mem_cons]
      exact ⟨rfl, rfl, rfl, rfl, rfl, by simp⟩

/-! ### Recorded lines -/

/-- Texts without line ends have none one behind the other. -/
theorem whole_append {a b : String} (ha : '\n' ∉ a.toList) (hb : '\n' ∉ b.toList) :
    '\n' ∉ (a ++ b).toList := by
  rw [String.toList_append, List.mem_append]
  exact not_or.mpr ⟨ha, hb⟩

/-- The lines stand behind their indentation, and none goes on behind a line end. -/
structure AreRecorded (depth : Int) (ss : List String) : Prop where
  /-- Where the lines stand. -/
  indented : IsIndented depth ss
  /-- The lines are whole. -/
  whole : ∀ s ∈ ss, '\n' ∉ s.toList

namespace AreRecorded

variable {depth : Int} {ss us : List String}

theorem nil : AreRecorded depth [] := ⟨.nil, by simp⟩

theorem append (hs : AreRecorded depth ss) (hu : AreRecorded depth us) :
    AreRecorded depth (ss ++ us) :=
  ⟨hs.indented.append hu.indented, List.forall_mem_append.mpr ⟨hs.whole, hu.whole⟩⟩

theorem flatMap {α : Type} {f : α → List String} {xs : List α}
    (h : ∀ x ∈ xs, AreRecorded depth (f x)) : AreRecorded depth (xs.flatMap f) := by
  refine ⟨.flatMap fun x mem => (h x mem).indented, fun s mem => ?_⟩
  obtain ⟨x, inside, own⟩ := List.mem_flatMap.mp mem
  exact (h x inside).whole s own

/-- One line behind its indentation. -/
theorem singleton {s : String} (first : startsTight s = true) (last : endsTight s = true)
    (whole : '\n' ∉ s.toList) : AreRecorded depth [indent depth ++ s] := by
  refine ⟨.singleton first last, fun u mem => ?_⟩
  rw [List.mem_singleton.mp mem]
  exact whole_append (not_mem_of_isFlat (isFlat_indent depth)).2.2 whole

/-- Code in blocks. -/
theorem of_isCode {t : Target} {types scope own : Set String}
    (h : IsCode t types scope depth ss own) : AreRecorded depth ss :=
  ⟨h.isIndented, h.whole⟩

/-- Documentation. -/
theorem documentation (text : Option String) :
    AreRecorded depth (Code.documentation text depth Target.commentMark) := by
  refine ⟨isIndented_documentation text depth, fun s mem feed => ?_⟩
  rw [documentation_eq] at mem
  obtain ⟨line, isLine, rfl⟩ := List.mem_map.mp mem
  exact absurd ((isComment_of_mem_commentLines isLine depth).2 _ feed) (by decide)

end AreRecorded

/-- A name has no braces and no line ends. -/
theorem isFlat_of_any {name : Option String} (h : name.any TypeName.isName = true) :
    isFlat (shown name) = true := by
  obtain ⟨text, rfl, isName⟩ := (Option.any_eq_true _ _).mp h
  exact isFlat_of_all (Bool.and_eq_true_iff.mp (Script.isSegment_of_isName isName)).2

section Bodies

variable {t : Target} {ids : TypeName.MessageIds} {fs : List Field} {n next : Nat} {ls : List Line}

/-- The code that writes fields is recorded in whole lines. -/
theorem areRecorded_writeFields (names : ∀ f ∈ fs, f.name.any TypeName.isName = true)
    (h : WriteFieldLines t fs n ls next) : AreRecorded t.bodyDepth (ls.map t.line) := by
  induction h with
  | nil => exact .nil
  | @cons f fs n middle next ls ms lines _ ih =>
    obtain ⟨name, others⟩ := List.forall_mem_cons.mp names
    have source : IsSource t Set.univ (.field (shown f.name)) := by
      refine ⟨?_, fun x _ => Set.mem_univ x⟩
      cases t <;> exact isFlat_append (by decide) (isFlat_of_any name)
    have code : IsCode t ∅ _ _ _ _ := isCode_write lines source
    rw [List.map_append]
    exact (AreRecorded.of_isCode code).append (ih others)

/-- The check before a field is recorded in whole lines. -/
theorem areRecorded_checkLines (t : Target) (tail : Bool) :
    AreRecorded t.bodyDepth ((Target.checkLines t tail).map t.line) := by
  cases tail with
  | false => exact .nil
  | true =>
    cases t with
    | cpp =>
      exact .singleton (s := "if (!buffer.isReadable()) \x7b return packet; \x7d") (by decide)
        (by decide) (by decide)
    | typescript =>
      have none : ∀ x ∈ temporaries "if (!buffer.isReadable()) \x7b", x ∈ (∅ : Set String) ∨
          x ∈ (∅ : Set String) := by
        rw [temporaries_of_isWord (by decide)]
        simp
      have header : IsHeader .typescript ∅ ∅ (Target.typescript.statement .ifNotReadable) :=
        ⟨by decide, ⟨"if (!buffer.isReadable()) ", by decide, by decide⟩, by simp, none⟩
      have body : IsPlain .typescript ∅ (∅ ∪ ∅) ∅ (Target.typescript.statement .endReading) :=
        .using (by decide) (.fixed (by decide)) (by simp) (by decide)
      have code : IsCode .typescript ∅ ∅ 2 ((⟨2, .ifNotReadable⟩ :: ([⟨2 + 1, .endReading⟩] ++
          [⟨2, .close⟩])).map Target.typescript.line) ∅ := .loop_line header (.using body .nil)
      exact .of_isCode code

/-- The code that reads fields is recorded in whole lines. -/
theorem areRecorded_readFields (resolved : ∀ f ∈ fs, f.type.Resolved ids)
    (names : ∀ f ∈ fs, f.name.any TypeName.isName = true) {tail : Bool}
    (h : ReadFieldLines t tail fs n ls next) : AreRecorded t.bodyDepth (ls.map t.line) := by
  induction h with
  | nil => exact .nil
  | @cons tail f fs n middle next ls ms lines _ ih =>
    obtain ⟨name, others⟩ := List.forall_mem_cons.mp names
    obtain ⟨first, rest⟩ := List.forall_mem_cons.mp resolved
    obtain ⟨own, code, -⟩ := isCode_read first lines ∅
    have store : AreRecorded t.bodyDepth
        [t.line ⟨t.bodyDepth, .store (shown f.name) (.result n)⟩] := by
      obtain ⟨front, text, fixed, apart, tight⟩ : ∃ front, t.statement
          (.store (shown f.name) (.result n)) = front ++ shown f.name ++ " = " ++
            Script.numbered "result" n ++ ";" ∧ Mentions front [] ∧ endsApart front = true ∧
          startsTight front = true := by
        cases t with
        | cpp => exact ⟨"packet->", rfl, .fixed (by decide), by decide, by decide⟩
        | typescript => exact ⟨"packet.", rfl, .fixed (by decide), by decide, by decide⟩
      have own : Mentions (Script.numbered "result" n) _ := .temporary n (by decide)
      have mentions : Mentions (front ++ shown f.name ++ " = " ++ Script.numbered "result" n ++
          ";") _ :=
        ((fixed.behind ⟨isFlat_of_any name, rfl⟩ apart).around own (by decide)).close (by decide)
      show AreRecorded t.bodyDepth [indent t.bodyDepth ++ t.statement _]
      rw [text]
      refine .singleton ?_ (endsTight_append _ (by decide)) (not_mem_of_isFlat mentions.flat).2.2
      simp only [String.append_assoc]
      exact startsTight_append tight _
    rw [List.map_append, List.map_append, List.map_cons, ← List.singleton_append]
    exact (areRecorded_checkLines t _).append
      ((AreRecorded.of_isCode code).append (store.append (ih rest others)))

end Bodies

/-! ### Declared fields -/

/-- The texts of type names have no line ends. -/
theorem isFlat_of_isPlainText {s : String} (h : TypeName.IsPlainText s) : isFlat s = true := by
  refine List.all_eq_true.mpr fun c mem => ?_
  have char := List.all_eq_true.mp h.chars c mem
  simp only [Bool.and_eq_true, bne_iff_ne]
  refine ⟨⟨?_, ?_⟩, ?_⟩ <;> (rintro rfl; exact absurd char (by decide))

/-- The initial value of a field has no line ends. -/
theorem isFlat_of_initialValue {tag : Tag} {value : String}
    (h : TypeScript.initialValue tag = .ok value) : isFlat value = true := by
  unfold TypeScript.initialValue at h
  split at h
  all_goals cases h
  all_goals decide

/-- A declaration has no line ends. -/
theorem isFlat_of_declared {c : Coder} {f : Field} (spelled : f.IsSpelled) {d : DeclaredField}
    {s : String} (h : c.declared f = .ok (d, s)) : isFlat s = true := by
  have name := isFlat_of_any spelled.name
  cases target : c.target with
  | cpp =>
    obtain ⟨rfl, typed⟩ := Coder.cpp_of_declared target h
    have type := isFlat_of_isPlainText (Target.cpp.isPlainText_of_spell spelled.type typed)
    exact isFlat_append (isFlat_append (isFlat_append type (by decide)) name) (by decide)
  | typescript =>
    obtain ⟨-, identifier, declaration, serializer, typed⟩ := Coder.of_declared h
    rw [target] at declaration typed
    have type : isFlat d.type = true := by
      obtain ⟨text, spell, typed⟩ := exists_of_bind_eq_ok typed
      have flat := isFlat_of_isPlainText (Target.typescript.isPlainText_of_spell spelled.type spell)
      cases serializer with
      | message =>
        rw [← Except.ok.inj typed]
        exact isFlat_append flat (by decide)
      | _ =>
        rw [← Except.ok.inj typed]
        exact flat
    obtain ⟨value, initial, declaration⟩ := exists_of_bind_eq_ok declaration
    cases declaration
    rw [identifier]
    exact isFlat_append (isFlat_append (isFlat_append (isFlat_append (isFlat_append name (by decide))
      type) (by decide)) (isFlat_of_initialValue initial)) (by decide)

/-- The lines that document and declare a field are recorded whole, and its name has no line ends. -/
theorem areRecorded_declarationLines {c : Coder} {f : Field} (spelled : f.IsSpelled)
    {p : DeclaredField × List String} (h : c.declarationLines f = .ok p) :
    AreRecorded c.target.fieldDepth p.2 ∧ isFlat p.1.identifier = true := by
  rw [Coder.declarationLines_eq] at h
  cases declared : c.declared f with
  | error e =>
    rw [declared] at h
    cases h
  | ok q =>
    obtain ⟨d, s⟩ := q
    rw [declared] at h
    cases h
    obtain ⟨first, last⟩ := Coder.tight_of_declared spelled declared
    have whole := (not_mem_of_isFlat (isFlat_of_declared spelled declared)).2.2
    refine ⟨(AreRecorded.documentation f.comment).append (.singleton first last whole), ?_⟩
    obtain ⟨-, identifier, -, -⟩ := Coder.of_declared declared
    rw [identifier]
    exact isFlat_of_any spelled.name

/-! ### Functions of the class -/

namespace Cpp

variable {fs : List DeclaredField} (names : ∀ f ∈ fs, isFlat f.identifier = true)

include names

/-- The statements that store fields are recorded in whole lines. -/
theorem areRecorded_storeLine :
    AreRecorded bodyDepth ((fs.map storeLine).map (indent bodyDepth ++ ·)) := by
  rw [List.map_map, List.map_eq_flatMap]
  refine .flatMap fun f mem => .singleton ?_ (endsTight_append _ (by decide)) ?_
  · simp only [storeLine, String.append_assoc]
    exact startsTight_append (by decide) _
  · have name := (not_mem_of_isFlat (names f mem)).2.2
    exact whole_append (whole_append (whole_append (whole_append (by decide) name) (by decide)) name)
      (by decide)

/-- The statements that compare fields are recorded in whole lines. -/
theorem areRecorded_compareLines :
    AreRecorded bodyDepth ((fs.flatMap compareLines).map (indent bodyDepth ++ ·)) := by
  rw [List.map_flatMap]
  refine .flatMap fun f mem => ?_
  have name := (not_mem_of_isFlat (names f mem)).2.2
  refine (AreRecorded.singleton ?_ (endsTight_append _ (by decide)) ?_).append
    (.singleton ?_ (endsTight_append _ (by decide)) ?_)
  · simp only [String.append_assoc]
    exact startsTight_append (by decide) _
  · exact whole_append (whole_append (whole_append (whole_append (by decide) name) (by decide)) name)
      (by decide)
  · simp only [String.append_assoc]
    exact startsTight_append (by decide) _
  · exact whole_append (whole_append (whole_append (whole_append (by decide) name) (by decide)) name)
      (by decide)

end Cpp

/-! ### The file of a message as it is laid out -/

section MessageFile

variable {m : Message} {imports : List String} {fields : List (DeclaredField × List String)}
  {written read : List Line}

/-- The pieces of a message's file, given the lines that are recorded for it. -/
def Target.messageParts (t : Target) (m : Message) (imports : List String)
    (fields : List (DeclaredField × List String)) (written read : List Line) : MessageParts where
  message := m
  dependencies := "\n".intercalate imports
  documentation := Text.trim ("\n".intercalate
    (documentation m.comment t.documentationDepth Target.commentMark))
  fields := fields.map (·.1)
  declarations := Text.trim ("\n".intercalate (fields.flatMap (·.2)))
  writeBody := t.fragment written
  readBody := t.fragment read

/-- The lines of the sections are recorded at their depths and in whole, those that make other
messages known aside: these have the names of directories in them. -/
def Target.HasSections (t : Target) (sections : String → List String) : Prop :=
  ∀ b ∈ t.messageBlocks, b.slot ∉ ["includes", "imports"] →
    AreRecorded b.depth (sections b.slot)

/-- The texts for the sections of a message's template stand for the recorded lines. -/
theorem Target.fits_messageParts (t : Target) (filled : ∀ s ∈ imports, s ≠ "")
    (recorded : t.HasSections (t.messageSection m imports fields written read)) :
    ∀ b ∈ t.messageBlocks, b.Fits ((t.messageParts m imports fields written read).sectionText b.slot)
      (t.messageSection m imports fields written read b.slot) := by
  unfold Target.HasSections at recorded
  cases t with
  | cpp =>
    simp only [messageBlocks, List.forall_mem_cons] at recorded ⊢
    obtain ⟨-, doc, declared, -, -, write, back, -⟩ := recorded
    exact ⟨.of_ne_empty rfl filled, .of_isIndented (doc (by decide)).indented,
      .of_isIndented (declared (by decide)).indented, Cpp.block_assignments _,
      Cpp.block_comparisons _, .of_isIndented (write (by decide)).indented,
      .of_isIndented (back (by decide)).indented, by simp⟩
  | typescript =>
    simp only [messageBlocks, List.forall_mem_cons] at recorded ⊢
    obtain ⟨-, doc, declared, write, back, -⟩ := recorded
    exact ⟨.of_ne_empty rfl filled, .of_isIndented (doc (by decide)).indented,
      .of_isIndented (declared (by decide)).indented,
      .of_isIndented (write (by decide)).indented, .of_isIndented (back (by decide)).indented,
      by simp⟩

/-- The template of a message takes the recorded lines. -/
theorem Target.exists_render_messageParts (t : Target) (name : t = .cpp → m.name ≠ none)
    (filled : ∀ s ∈ imports, s ≠ "")
    (recorded : t.HasSections (t.messageSection m imports fields written read)) :
    ∃ values, t.messageValues (t.messageParts m imports fields written read) = .ok values ∧
      t.messageTemplate.render Target.templates values =
        .ok (endLines (t.messageLayout.layOut (t.messageValue m (fields.map (·.1)))
          (t.messageSection m imports fields written read))) := by
  obtain ⟨values, given, count, lines, sections⟩ :=
    t.exists_slotValues (p := t.messageParts m imports fields written read) name
  have found : t.messageTemplate.template Target.templates = .ok t.messageLayout := by
    cases t <;> rfl
  refine ⟨values, given, ?_⟩
  rw [TemplateContract.render_eq found count]
  refine congrArg Except.ok (Template.render_eq_layOut t.isKnown_messageLayout lines fun b mem => ?_)
  rw [sections b mem]
  exact t.fits_messageParts filled recorded b mem

/-- The lines for the sections of a message's template are recorded whole. -/
theorem hasSections_messageSection {c : Coder} {ids : TypeName.MessageIds}
    (spelled : ∀ f ∈ m.fields, f.IsSpelled)
    (resolved : ∀ f ∈ m.fields, f.type.Resolved ids)
    (made : List.Forall₂ (fun f p => c.declarationLines f = .ok p) m.fields fields)
    {middle last : Nat} (writeLines : WriteFieldLines c.target m.fields 0 written middle)
    (readLines : ReadFieldLines c.target false m.fields middle read last) (imports : List String) :
    c.target.HasSections (c.target.messageSection m imports fields written read) := by
  have names : ∀ f ∈ m.fields, f.name.any TypeName.isName = true :=
    fun f mem => (spelled f mem).name
  have each : ∀ p ∈ fields,
      AreRecorded c.target.fieldDepth p.2 ∧ isFlat p.1.identifier = true := by
    intro p mem
    obtain ⟨f, inside, own⟩ := exists_of_mem_forall₂ made mem
    exact areRecorded_declarationLines (spelled f inside) own
  have declared : AreRecorded c.target.fieldDepth (fields.flatMap (·.2)) :=
    .flatMap fun p mem => (each p mem).1
  have identifiers : ∀ d ∈ fields.map (·.1), isFlat d.identifier = true :=
    List.forall_mem_map.mpr fun p mem => (each p mem).2
  have doc : AreRecorded c.target.documentationDepth
      (documentation m.comment c.target.documentationDepth Target.commentMark) := .documentation _
  have write := areRecorded_writeFields names writeLines
  have back := areRecorded_readFields resolved names readLines
  unfold Target.HasSections
  generalize c.target = t at *
  cases t with
  | cpp =>
    simp only [Target.messageBlocks, List.forall_mem_cons]
    exact ⟨fun other => absurd (by decide) other, fun _ => doc, fun _ => declared,
      fun _ => Cpp.areRecorded_storeLine identifiers,
      fun _ => Cpp.areRecorded_compareLines identifiers, fun _ => write, fun _ => back, by simp⟩
  | typescript =>
    simp only [Target.messageBlocks, List.forall_mem_cons]
    exact ⟨fun other => absurd (by decide) other, fun _ => doc, fun _ => declared, fun _ => write,
      fun _ => back, by simp⟩

/-- The file of a message is its template, laid out around the recorded lines. -/
theorem OutputContext.messageFile_eq_layOut {x : OutputContext} {r : Registry}
    (name : x.target = .cpp → m.name ≠ none)
    (made : m.fields.mapM x.coder.declarationLines = .ok fields)
    {middle last : Nat} (hw : x.coder.writeFields m.fields 0 = ⟨written, middle, .ok ()⟩)
    (hr : x.coder.readFields false m.fields middle = ⟨read, last, .ok ()⟩)
    (recorded : ∀ imports,
      x.target.HasSections (x.target.messageSection m imports fields written read)) :
    x.messageFile r m = (do
      let imports ← x.dependencyLines r m
      x.log m
      let path ← x.messagePath m
      return ⟨path, endLines (x.target.messageLayout.layOut
        (x.target.messageValue m (fields.map (·.1)))
        (x.target.messageSection m imports fields written read))⟩) := by
  unfold OutputContext.messageFile OutputContext.messageParts
  cases told : x.dependencyLines r m with
  | error e => rfl
  | ok imports =>
    have filled : ∀ s ∈ imports, s ≠ "" := by
      intro s mem
      obtain ⟨ids, all, -, rfl, related⟩ := OutputContext.forall₂_of_dependencyLines told
      obtain ⟨id, -, b, -, line⟩ := exists_of_mem_forall₂ related (List.mem_eraseDups.mp mem)
      exact ne_empty_of_import (.inr ⟨_, line⟩)
    obtain ⟨values, given, rendered⟩ :=
      x.target.exists_render_messageParts name filled (recorded imports)
    rw [made, hw]
    show ((x.coder.readFields false m.fields middle).result >>= fun _ => _) >>= _ = _
    rw [hr]
    show (x.target.messageValues (x.target.messageParts m imports fields written read) >>= _) = _
    rw [given]
    show (x.target.messageTemplate.render Target.templates values >>= _) = _
    rw [rendered]
    rfl

/-- The file of a message whose fields have names and resolved types is laid out around the code of
its fields. -/
theorem OutputContext.exists_layOut {x : OutputContext} {r : Registry} {ids : TypeName.MessageIds}
    (prepared : Generator.prepare x.target = .ok x.coder) (name : x.target = .cpp → m.name ≠ none)
    (resolved : ∀ f ∈ m.fields, f.type.Resolved ids)
    (names : ∀ f ∈ m.fields, f.name.any TypeName.isName = true) :
    ∃ fields written read middle last,
      m.fields.mapM x.coder.declarationLines = .ok fields ∧
      x.coder.writeFields m.fields 0 = ⟨written, middle, .ok ()⟩ ∧
      x.coder.readFields false m.fields middle = ⟨read, last, .ok ()⟩ ∧
      ReadFieldLines x.target false m.fields middle read last ∧
      (∀ imports, x.target.HasSections (x.target.messageSection m imports fields written read)) ∧
      x.messageFile r m = (do
        let imports ← x.dependencyLines r m
        x.log m
        let path ← x.messagePath m
        return ⟨path, endLines (x.target.messageLayout.layOut
          (x.target.messageValue m (fields.map (·.1)))
          (x.target.messageSection m imports fields written read))⟩) := by
  obtain ⟨-, std⟩ := of_prepare prepared
  obtain ⟨fields, made⟩ : ∃ fields, m.fields.mapM x.coder.declarationLines = .ok fields :=
    exists_mapM_eq_ok fun f mem => exists_declarationLines std (resolved f mem)
  obtain ⟨written, middle, writeLines, hw⟩ := exists_writeFields std resolved 0
  obtain ⟨read, last, readLines, hr⟩ := exists_readFields std resolved false middle
  have recorded := hasSections_messageSection
    (fun f mem => ⟨names f mem, (resolved f mem).wellFormed_name⟩) resolved
    (forall₂_of_mapM_eq_ok made) writeLines readLines
  exact ⟨fields, written, read, middle, last, made, hw, hr, readLines, recorded,
    messageFile_eq_layOut name made hw hr recorded⟩

end MessageFile

/-! ### The file of the manager as it is laid out -/

namespace Target

/-- The template of the manager. -/
def managerLayout : Target → Template
  | cpp => Template.cppManager
  | typescript => Template.typescriptManager

/-- The sections of the manager's template, each at the depth where its lines are recorded. -/
def managerBlocks : Target → List Template.Block
  | cpp => [⟨"includes", 0, false⟩, ⟨"registrations", cpp.managerDepth, false⟩]
  | typescript => [⟨"imports", 0, true⟩, ⟨"registrations", typescript.managerDepth, true⟩]

/-- The values in the lines of the manager's template. -/
def managerValue (t : Target) : String → String
  | "root" => t.rootDirectory
  | _ => ""

/-- The lines that are recorded for the registrations of messages. -/
def registrationLines (t : Target) (ms : List Message) : List String :=
  ms.map fun m => indent t.managerDepth ++ t.registration m

/-- The lines that are recorded for the sections of the manager's template. -/
def managerSection (t : Target) (imports : List String) (ms : List Message) :
    String → List String
  | "includes" => imports
  | "imports" => imports
  | "registrations" => t.registrationLines ms
  | _ => []

/-- The template of the manager indents its sections as their lines are recorded. -/
theorem isKnown_managerLayout (t : Target) :
    t.managerLayout.rows.all (Template.isKnown t.managerBlocks) = true := by
  cases t <;> rfl

/-- Registrations stand behind their indentation. -/
theorem isIndented_registrationLines (t : Target) (ms : List Message) :
    IsIndented t.managerDepth (t.registrationLines ms) := by
  rw [registrationLines, List.map_eq_flatMap]
  exact .flatMap fun m _ => .singleton (registration_tight t m).1 (registration_tight t m).2

/-- Registrations of messages with names are recorded in whole lines. -/
theorem areRecorded_registrationLines (t : Target) {ms : List Message}
    (names : ∀ m ∈ ms, m.name.any TypeName.isName = true) :
    AreRecorded t.managerDepth (t.registrationLines ms) := by
  rw [registrationLines, List.map_eq_flatMap]
  refine .flatMap fun m mem => .singleton (registration_tight t m).1 (registration_tight t m).2 ?_
  have id := (not_mem_of_isFlat (Mentions.id m.id).flat).2.2
  have name := (not_mem_of_isFlat (isFlat_of_any (names m mem))).2.2
  cases t with
  | cpp =>
    exact whole_append (whole_append (whole_append (whole_append (by decide) id) (by decide)) name)
      (by decide)
  | typescript =>
    exact whole_append (whole_append (whole_append (whole_append (by decide) id) (by decide)) name)
      (by decide)

/-- The template of the manager takes the recorded lines. -/
theorem render_managerValues (t : Target) {imports : List String} (filled : ∀ s ∈ imports, s ≠ "")
    (ms : List Message) :
    t.managerTemplate.render Target.templates (t.managerValues ("\n".intercalate imports)
        (Text.trim ("\n".intercalate (t.registrationLines ms)))) =
      .ok (endLines (t.managerLayout.layOut t.managerValue (t.managerSection imports ms))) := by
  have lines := t.isIndented_registrationLines ms
  have found : t.managerTemplate.template Target.templates = .ok t.managerLayout := by
    cases t <;> rfl
  have count : ∀ first second,
      (t.managerValues first second).length = t.managerTemplate.slots.length := by
    cases t <;> exact fun _ _ => rfl
  rw [TemplateContract.render_eq found (count _ _)]
  refine congrArg Except.ok (Template.render_eq_layOut t.isKnown_managerLayout
    (fun slot mem => ?_) ?_)
  · cases t with
    | cpp =>
      have slots : cpp.managerLayout.rows.flatMap Template.lineSlots ⊆ ["root"] := by decide
      rw [List.mem_singleton.mp (slots mem)]
      rfl
    | typescript =>
      have slots : typescript.managerLayout.rows.flatMap Template.lineSlots = [] := by decide
      rw [slots] at mem
      cases mem
  · cases t <;>
      exact List.forall_mem_cons.mpr ⟨.of_ne_empty rfl filled,
        List.forall_mem_singleton.mpr (.of_isIndented lines)⟩

end Target

/-- The file of the manager is its template, laid out around the recorded lines. -/
theorem OutputContext.managerFile_eq_layOut (x : OutputContext) (r : Registry) :
    x.managerFile r = (do
      let imports ← r.messages.mapM x.target.managerImport
      return ⟨x.root.child (managerName ++ "." ++ x.target.extension),
        endLines (x.target.managerLayout.layOut x.target.managerValue
          (x.target.managerSection imports.eraseDups r.messages))⟩) := by
  unfold OutputContext.managerFile
  cases made : r.messages.mapM x.target.managerImport with
  | error e => rfl
  | ok imports =>
    have filled : ∀ s ∈ imports.eraseDups, s ≠ "" := by
      intro s mem
      obtain ⟨m, -, line⟩ :=
        exists_of_mem_forall₂ (forall₂_of_mapM_eq_ok made) (List.mem_eraseDups.mp mem)
      exact ne_empty_of_import (.inl line)
    have rendered := x.target.render_managerValues filled r.messages
    show (x.target.managerTemplate.render Target.templates _ >>= fun content => _) = _
    rw [← Target.registrationLines, rendered]
    rfl

namespace OutputContext

/-! ### Files as they are laid out -/

/-- The files of messages and of the manager are their templates, line by line, with the values of
slots put in as they are and each section in the lines that were recorded for it: whole lines behind
their indentation, the first one too. A section without lines leaves nothing of its block. -/
theorem layOut_of_ofDefinition {d : RegistryDefinition} {r : Registry}
    (h : Registry.ofDefinition d = .ok r) {x : OutputContext}
    (prepared : Generator.prepare x.target = .ok x.coder) :
    (∀ m ∈ r.messages, m.name.any TypeName.isName = true →
      (∀ f ∈ m.fields, f.name.any TypeName.isName = true) →
      ∃ fields written read middle last,
        m.fields.mapM x.coder.declarationLines = .ok fields ∧
        x.coder.writeFields m.fields 0 = ⟨written, middle, .ok ()⟩ ∧
        x.coder.readFields false m.fields middle = ⟨read, last, .ok ()⟩ ∧
        (∀ imports, x.target.HasSections (x.target.messageSection m imports fields written read)) ∧
        x.messageFile r m = (do
          let imports ← x.dependencyLines r m
          x.log m
          let path ← x.messagePath m
          return ⟨path, endLines (x.target.messageLayout.layOut
            (x.target.messageValue m (fields.map (·.1)))
            (x.target.messageSection m imports fields written read))⟩)) ∧
    ((∀ m ∈ r.messages, m.name.any TypeName.isName = true) →
      AreRecorded x.target.managerDepth (x.target.registrationLines r.messages)) ∧
    x.managerFile r = (do
      let imports ← r.messages.mapM x.target.managerImport
      return ⟨x.root.child (managerName ++ "." ++ x.target.extension),
        endLines (x.target.managerLayout.layOut x.target.managerValue
          (x.target.managerSection imports.eraseDups r.messages))⟩) := by
  refine ⟨fun m hm name names => ?_, x.target.areRecorded_registrationLines,
    x.managerFile_eq_layOut r⟩
  have given : m.name ≠ none := by
    obtain ⟨text, some, -⟩ := (Option.any_eq_true _ _).mp name
    rw [some]
    exact Option.some_ne_none text
  obtain ⟨fields, written, read, middle, last, made, hw, hr, -, recorded, form⟩ := exists_layOut
    prepared (fun _ => given) ((Registry.isBuilt_of_ofDefinition h).resolved m hm) names
  exact ⟨fields, written, read, middle, last, made, hw, hr, recorded, form⟩

/-- Documentation and a field in the files of a message. -/
theorem layOut_of_ofDefinition_documented : ∃ r m,
    Registry.ofDefinition (Sample.documented "\x7b\x7b doc \x7d\x7d\n\n  two ") = .ok r ∧
    m ∈ r.messages ∧ m.name.any TypeName.isName = true ∧
    (∀ f ∈ m.fields, f.name.any TypeName.isName = true) ∧
    ∀ t : Target, ∃ (x : OutputContext) (file : OutputFile) (values : String → String)
      (sections : String → List String), x.target = t ∧
      Generator.prepare x.target = .ok x.coder ∧ x.messageFile r m = .ok file ∧
      file.content = endLines (t.messageLayout.layOut values sections) ∧
      t.HasSections sections ∧ (sections "doc").length = 3 := by
  obtain ⟨r, made⟩ : ∃ r, Registry.ofDefinition
      (Sample.documented "\x7b\x7b doc \x7d\x7d\n\n  two ") = .ok r := ⟨_, by cbv⟩
  obtain ⟨m, hm, comment, name, names, modules, id, given, ⟨ids, told⟩, -⟩ :=
    Sample.exists_of_documented made
  refine ⟨r, m, made, hm, name, names, fun t => ?_⟩
  obtain ⟨x, rfl, prepared⟩ : ∃ x : OutputContext, x.target = t ∧
      Generator.prepare x.target = .ok x.coder := by
    obtain ⟨c, prepared, rfl, -⟩ := Script.exists_prepare t
    exact ⟨⟨⟨.here, ["out"]⟩, c, false⟩, rfl, prepared⟩
  obtain ⟨file, laid⟩ := exists_messageFile (Registry.isBuilt_of_ofDefinition made) modules prepared
    hm id given told
  obtain ⟨fields, written, read, middle, last, -, -, -, recorded, form⟩ :=
    (layOut_of_ofDefinition made prepared).1 m hm name names
  obtain ⟨imports, -, content⟩ := exists_of_bind_eq_ok (form.symm.trans laid)
  obtain ⟨_, -, content⟩ := exists_of_bind_eq_ok content
  obtain ⟨path, -, content⟩ := exists_of_bind_eq_ok content
  have text : file.content = endLines (x.target.messageLayout.layOut
      (x.target.messageValue m (fields.map (·.1)))
      (x.target.messageSection m imports fields written read)) := by
    rw [← Except.ok.inj content]
  refine ⟨x, file, _, _, rfl, prepared, laid, text, recorded imports, ?_⟩
  show (documentation m.comment _ _).length = 3
  rw [documentation_eq, List.length_map, comment]
  decide

end OutputContext

end PacketSmith
