import PacketSmith.Proofs.MessageLayout

/-!
# The class of a message in a header

The class of a message declares a member for each field, and functions: one that makes a message of
its fields (`Cpp.valueOf`), one that tells the id, and the order of messages (`Cpp.less`). The text of
the class in a header is that of its members, each behind its documentation, and of its functions,
line by line (`exists_classText_of_messageFile`).
-/

namespace PacketSmith

open Code

namespace Cpp

/-! ### Functions -/

/-- A function of a class. -/
structure Method where
  /-- What stands before the parameters. -/
  opening : String
  /-- The declarations of the parameters. -/
  parameters : List String
  /-- What stands behind the parameters. -/
  qualifier : String
  /-- The lines of the body. -/
  body : List String

/-- The lines of a function. -/
def Method.lines (f : Method) : List String :=
  [indent 2 ++ f.opening ++ "(" ++ ", ".intercalate f.parameters ++ ")" ++ f.qualifier ++ " \x7b"] ++
    f.body.map (indent 3 ++ ·) ++ [indent 2 ++ "\x7d"]

/-- The statement that stores a parameter in its field. -/
def storeLine (f : DeclaredField) : String := "packet." ++ f.identifier ++ " = " ++ f.identifier ++ ";"

/-- The statements that compare a field with that of the other message. -/
def compareLines (f : DeclaredField) : List String := [
  "if (" ++ f.identifier ++ " < _." ++ f.identifier ++ ") \x7b return true; \x7d",
  "if (_." ++ f.identifier ++ " < " ++ f.identifier ++ ") \x7b return false; \x7d"]

/-- The function that makes a message of its fields. -/
def valueOf (name : String) (fields : List DeclaredField) : Method where
  opening := "static " ++ name ++ " valueOf"
  parameters := fields.map fun f => f.type ++ " " ++ f.identifier
  qualifier := ""
  body := ["auto packet = " ++ name ++ "();"] ++ fields.map storeLine ++ ["return packet;"]

/-- The function that tells the id of a message. -/
def protocolId (id : String) : Method where
  opening := "int16_t protocolId"
  parameters := []
  qualifier := " override"
  body := ["return " ++ id ++ ";"]

/-- The order of messages: by the fields, one after the other. -/
def less (name : String) (fields : List DeclaredField) : Method where
  opening := "bool operator<"
  parameters := ["const " ++ name ++ " &_"]
  qualifier := " const"
  body := fields.flatMap compareLines ++ ["return false;"]

/-- The lines of a class behind its members. -/
def functionLines (name id : String) (fields : List DeclaredField) : List String :=
  [indent 2 ++ "~" ++ name ++ "() override = default;", ""] ++ (valueOf name fields).lines ++ [""] ++
    (protocolId id).lines ++ [""] ++ (less name fields).lines ++ [indent 1 ++ "\x7d;"]

/-- The text of the class of a message, with the documentation of its fields. -/
def classText (m : Message) (fields : List DeclaredField) : String :=
  endLines (Target.cpp.openingLines (shown m.name)) ++
    endSection (Target.cpp.fieldLines m.fields (fields.map declaration)) ++
    endLines (functionLines (shown m.name) m.id.text fields)

/-! ### Functions in the template -/

/-- Statements that store fields stand behind their indentation. -/
theorem block_assignments (fields : List DeclaredField) :
    (if (Text.trim ("\n".intercalate (fields.map assignment))).isEmpty then "" else
      indent 3 ++ Text.trim ("\n".intercalate (fields.map assignment)) ++ "\n") =
    endLines ((fields.map storeLine).map (indent 3 ++ ·)) := by
  have lines : fields.map assignment = (fields.map storeLine).map (indent 3 ++ ·) := by
    rw [List.map_map]
    apply List.map_congr_left
    intro f _
    simp only [assignment, storeLine, bodyDepth, Function.comp_apply, String.append_assoc]
  have tight : ∀ s ∈ fields.map storeLine, startsTight s = true ∧ endsTight s = true := by
    rw [List.forall_mem_map]
    intro f _
    constructor
    · simp only [storeLine, String.append_assoc]
      exact startsTight_append (by decide) _
    · exact endsTight_append _ (by decide)
  rw [lines]
  exact (IsIndented.map tight).block

/-- Statements that compare fields stand behind their indentation. -/
theorem block_comparisons (fields : List DeclaredField) :
    (if (Text.trim ("\n".intercalate (fields.map comparison))).isEmpty then "" else
      indent 3 ++ Text.trim ("\n".intercalate (fields.map comparison)) ++ "\n") =
    endLines ((fields.flatMap compareLines).map (indent 3 ++ ·)) := by
  have indented : IsIndented 3 (fields.map comparison) := by
    rw [List.map_eq_flatMap]
    apply IsIndented.flatMap
    intro f _
    simp only [comparison, bodyDepth, String.append_assoc]
    apply IsIndented.singleton
    · exact startsTight_append (by decide) _
    · simp only [← String.append_assoc]
      exact endsTight_append _ (by decide)
  rw [indented.block]
  clear indented
  induction fields with
  | nil => rfl
  | cons f fs ih =>
    have feed : ") \x7b return true; \x7d\n" = ") \x7b return true; \x7d" ++ "\n" := by decide
    rw [List.map_cons, List.flatMap_cons, List.map_append, endLines_append, endLines_cons, ih]
    refine congrArg (· ++ _) ?_
    simp only [comparison, feed, bodyDepth, compareLines, endLines, List.map_cons, List.map_nil,
      String.join_cons, String.join_nil, String.append_empty, String.append_assoc]

/-- The rows of a message's template for the functions of its class. -/
def functionRows : List TemplateRow := Target.cpp.backRows.take 17

/-- The rows of a message's template behind its class. -/
def coderRows : List TemplateRow := Target.cpp.backRows.drop 17

/-- The rows for functions are the lines of the functions. -/
theorem renderRows_functionRows {slots : List (String × String)} {name id : String}
    {fields : List DeclaredField} (hn : Template.valueOf slots "name" = name)
    (hp : Template.valueOf slots "value_of_params" =
      ", ".intercalate (fields.map fun f => f.type ++ " " ++ f.identifier))
    (hv : Template.valueOf slots "value_of_body" =
      Text.trim ("\n".intercalate (fields.map assignment)))
    (hi : Template.valueOf slots "protocol_id" = id)
    (ho : Template.valueOf slots "operator_body" =
      Text.trim ("\n".intercalate (fields.map comparison))) :
    Template.renderRows slots functionRows = endLines (functionLines name id fields) := by
  have rows : functionRows = [
      .line [.text "        ~", .slot "name", .text "() override = default;"],
      .line [],
      .line [.text "        static ", .slot "name", .text " valueOf(", .slot "value_of_params",
        .text ") \x7b"],
      .line [.text "            auto packet = ", .slot "name", .text "();"],
      .block "value_of_body" [[.text "            ", .slot "value_of_body"]],
      .line [.text "            return packet;"],
      .line [.text "        \x7d"],
      .line [],
      .line [.text "        int16_t protocolId() override \x7b"],
      .line [.text "            return ", .slot "protocol_id", .text ";"],
      .line [.text "        \x7d"],
      .line [],
      .line [.text "        bool operator<(const ", .slot "name", .text " &_) const \x7b"],
      .block "operator_body" [[.text "            ", .slot "operator_body"]],
      .line [.text "            return false;"],
      .line [.text "        \x7d"],
      .line [.text "    \x7d;"]] := rfl
  have three : "            " = indent 3 := by decide
  rw [rows]
  simp only [Template.renderRows, Template.renderRow, Template.renderLine, Template.renderPart,
    hn, hp, hv, hi, ho, three, List.map_cons, List.map_nil, String.join_cons, String.join_nil,
    String.append_empty, String.empty_append, block_assignments, block_comparisons]
  have one : "    \x7d;" = indent 1 ++ "\x7d;" := by decide
  have end_ : "        \x7d" = indent 2 ++ "\x7d" := by decide
  have destructor : "        ~" = indent 2 ++ "~" := by decide
  have static : "        static " = indent 2 ++ "static " := by decide
  have opens : " valueOf(" = " valueOf" ++ "(" := by decide
  have closes : ") \x7b" = ")" ++ " \x7b" := by decide
  have made : "            auto packet = " = indent 3 ++ "auto packet = " := by decide
  have returned : "            return packet;" = indent 3 ++ "return packet;" := by decide
  have telling : "        int16_t protocolId() override \x7b" =
    indent 2 ++ "int16_t protocolId" ++ "(" ++ ")" ++ " override" ++ " \x7b" := by decide
  have told : "            return " = indent 3 ++ "return " := by decide
  have order : "        bool operator<(const " = indent 2 ++ "bool operator<" ++ "(" ++ "const " := by
    decide
  have other : " &_) const \x7b" = " &_" ++ ")" ++ " const" ++ " \x7b" := by decide
  have equal : "            return false;" = indent 3 ++ "return false;" := by decide
  have none : endLines [] = "" := rfl
  simp only [one, end_, destructor, static, opens, closes, made, returned, telling, told, order,
    other, equal, none, functionLines, valueOf, protocolId, less, Method.lines, endLines_append,
    endLines_cons, List.map_append, List.map_cons, List.map_nil, List.cons_append, List.nil_append,
    String.intercalate_nil, String.intercalate_singleton, String.append_empty, String.empty_append,
    String.append_assoc]

/-- The rows behind the declarations are the functions of the class, and what stands behind it. -/
theorem renderRows_backRows {p : MessageParts} {name : String} (given : p.message.name = some name)
    {values : List String} (h : messageValues p = .ok values) :
    Template.renderRows (messageTemplate.slots.zip values) Target.cpp.backRows =
      endLines (functionLines name p.message.id.text p.fields) ++
        Template.renderRows (messageTemplate.slots.zip values) coderRows := by
  have rows : Target.cpp.backRows = functionRows ++ coderRows := (List.take_append_drop 17 _).symm
  rw [messageValues, given] at h
  cases h
  rw [rows]
  generalize coderRows = more
  rw [Template.renderRows_append,
    @renderRows_functionRows _ name p.message.id.text p.fields]
  all_goals rfl

/-- The field is declared under its name, with the spelling of its type. -/
structure IsDeclared (f : Field) (d : DeclaredField) : Prop where
  /-- The name. -/
  identifier : d.identifier = shown f.name
  /-- The type. -/
  type : Target.cpp.spelling.spell f.type.name = .ok d.type

end Cpp

namespace OutputContext

variable {x : OutputContext} {r : Registry} {m : Message}

/-- What the outline of a header is. -/
theorem exists_fields_of_outline (target : x.target = .cpp) (spelled : m.IsSpelled) {o : Outline}
    (h : x.outline r m = .ok o) : ∃ fields behind,
      List.Forall₂ Cpp.IsDeclared m.fields fields ∧
      o.opening = Target.cpp.openingLines (shown m.name) ∧
      o.declarations = fields.map Cpp.declaration ∧
      o.back = endLines (Cpp.functionLines (shown m.name) m.id.text fields) ++ behind := by
  obtain ⟨parts, values, bare, valued, -, opening, back⟩ := of_outline h
  obtain ⟨rfl, -, declared, made, fields, declarations⟩ := of_bareParts bare
  obtain ⟨name, given, -⟩ := (Option.any_eq_true _ _).mp spelled.name
  have own : ∀ f p, x.coder.declared f = .ok p → Cpp.IsDeclared f p.1 ∧ Cpp.declaration p.1 = p.2 := by
    rintro f ⟨d, s⟩ one
    obtain ⟨-, identifier, declaration, -⟩ := Coder.of_declared one
    obtain ⟨-, typed⟩ := Coder.cpp_of_declared target one
    have same : x.coder.target = .cpp := target
    rw [same] at declaration
    exact ⟨⟨identifier, typed⟩, Except.ok.inj declaration⟩
  refine ⟨parts.fields, Template.renderRows (x.target.messageTemplate.slots.zip values)
    Cpp.coderRows, ?_, by rw [opening, target], ?_, ?_⟩
  · rw [fields, List.forall₂_map_right_iff]
    exact made.imp fun f p one => (own f p one).1
  · rw [declarations, fields, List.map_map]
    apply List.map_congr_left
    intro p mem
    obtain ⟨f, -, one⟩ := exists_of_mem_forall₂ made mem
    exact (own f p one).2.symm
  · rw [back]
    rw [target] at valued ⊢
    rw [given]
    exact Cpp.renderRows_backRows given valued

/-- The text of a message's class stands in the header of the message. -/
theorem exists_classText_of_messageFile (target : x.target = .cpp) (spelled : m.IsSpelled)
    {file : OutputFile} (laid : x.messageFile r m = .ok file) :
    ∃ fields before behind, List.Forall₂ Cpp.IsDeclared m.fields fields ∧
      file.content = before ++ Cpp.classText m fields ++ behind := by
  obtain ⟨o, outlined, rfl⟩ := exists_outline_of_messageFile spelled laid
  obtain ⟨fields, behind, declared, opening, declarations, back⟩ :=
    exists_fields_of_outline target spelled outlined
  refine ⟨fields, o.front ++ endLines (documentation m.comment Target.cpp.documentationDepth
    Target.commentMark), behind, declared, ?_⟩
  show o.content x.target m = _
  rw [target, Outline.content, Cpp.classText, opening, declarations, back]
  simp only [← String.append_assoc]

end OutputContext

end PacketSmith
