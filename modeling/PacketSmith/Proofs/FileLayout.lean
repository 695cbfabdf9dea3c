import PacketSmith.Proofs.BuiltRegistry
import PacketSmith.Proofs.OutputPaths

/-!
# The layout of generated files

Where imports and registrations stand in generated files. The file of the manager is laid out in
full (`managerText`, `managerFile_eq`): its imports, one statement for each message, and text that
is the same for every registry. The file of a message is laid out up to the end of its imports
(`HasImports`, `exists_of_messageFile`).

Templates are opened here only, so what is said about imports and registrations elsewhere does not
depend on how a template is put together.
-/

namespace PacketSmith

open Code

/-! ### Lines -/

/-- Lines with their ends. -/
def endLines (ss : List String) : String := String.join (ss.map (· ++ "\n"))

/-- Lines with their ends, and an empty line behind them if there are any. -/
def endSection (ss : List String) : String := endLines ss ++ if ss.isEmpty then "" else "\n"

/-- Lines with their ends, from the first line on. -/
theorem endLines_cons (s : String) (ss : List String) :
    endLines (s :: ss) = s ++ "\n" ++ endLines ss := by
  simp [endLines]

/-- Lines follow lines. -/
theorem endLines_append (ss us : List String) :
    endLines (ss ++ us) = endLines ss ++ endLines us := by
  simp [endLines]

/-- Lines with ends between them and one behind. -/
theorem intercalate_append_end {ss : List String} (h : ss ≠ []) :
    "\n".intercalate ss ++ "\n" = endLines ss := by
  induction ss with
  | nil => exact absurd rfl h
  | cons s ss ih =>
    cases ss with
    | nil => simp [endLines]
    | cons u us =>
      have rest := ih (by simp)
      rw [String.intercalate_cons_cons, String.append_assoc, rest]
      simp [endLines, String.append_assoc]

/-- A text of lines is not empty if the first one is not. -/
theorem intercalate_isEmpty {s : String} (h : s ≠ "") (ss : List String) :
    ("\n".intercalate (s :: ss)).isEmpty = false := by
  cases ss <;> simp [h]

/-- What stands before the first divider is the same in a text and in a start of it. -/
theorem eq_of_prefix_divided {c : Char} {a b xs ys : List Char} (ha : c ∉ a) (hb : c ∉ b)
    (h : a ++ c :: xs <+: b ++ c :: ys) : a = b := by
  have first : ∀ l more : List Char, c ∉ l → (l ++ c :: more).takeWhile (· != c) = l := by
    intro l more out
    rw [List.takeWhile_append_of_pos]
    · simp
    · intro d mem
      rw [bne_iff_ne]
      rintro rfl
      exact out mem
  obtain ⟨rest, same⟩ := h
  rw [List.append_assoc, List.cons_append] at same
  rw [← first a (xs ++ rest) ha, same, first b ys hb]

/-! ### Trimmed lines -/

/-- The text starts with a character that is no blank. -/
def startsTight (s : String) : Bool := s.toList.head?.any (!Text.isBlank ·)

/-- The text ends with a character that is no blank. -/
def endsTight (s : String) : Bool := s.toList.getLast?.any (!Text.isBlank ·)

/-- A text starts as its first part does. -/
theorem startsTight_append {a : String} (h : startsTight a = true) (b : String) :
    startsTight (a ++ b) = true := by
  unfold startsTight at h ⊢
  rw [String.toList_append]
  cases chars : a.toList with
  | nil => simp [chars] at h
  | cons c cs => simpa [chars] using h

/-- A text ends as its last part does, if that is not empty. -/
theorem endsTight_append_of_ne (a : String) {b : String} (h : b ≠ "") :
    endsTight (a ++ b) = endsTight b := by
  have some : b.toList ≠ [] := by simpa using h
  unfold endsTight
  rw [String.toList_append, List.getLast?_append_of_ne_nil _ some]

/-- A text whose last part does not end with a blank does not either. -/
theorem endsTight_append (a : String) {b : String} (h : endsTight b = true) :
    endsTight (a ++ b) = true := by
  rw [endsTight_append_of_ne a]
  · exact h
  · rintro rfl
    cases h

/-- Nothing is dropped in front of a character that stays. -/
theorem dropWhile_of_head {cs : List Char} (h : cs.head?.any (!Text.isBlank ·) = true) :
    cs.dropWhile Text.isBlank = cs := by
  cases cs with
  | nil => rfl
  | cons c cs =>
    have stays : Text.isBlank c = false := by simpa using h
    rw [List.dropWhile_cons_of_neg (by simp [stays])]

/-- Indentation is made of spaces. -/
theorem eq_space_of_mem_indent {depth : Int} {c : Char} (mem : c ∈ (indent depth).toList) :
    c = ' ' := by
  rw [indent, String.toList_ofList] at mem
  exact List.eq_of_mem_replicate mem

/-- Indentation is made of blanks. -/
theorem isBlank_of_mem_indent {depth : Int} {c : Char} (mem : c ∈ (indent depth).toList) :
    Text.isBlank c = true := by
  rw [eq_space_of_mem_indent mem]
  decide

/-- A text whose ends are no blanks stays when it is trimmed, and the blanks before it go. -/
theorem trim_indent {s : String} (first : startsTight s = true) (last : endsTight s = true)
    (depth : Int) : Text.trim (indent depth ++ s) = s := by
  have back : s.toList.reverse.head?.any (!Text.isBlank ·) = true := by
    rwa [List.head?_reverse]
  rw [Text.trim, String.toList_append,
    List.dropWhile_append_of_pos fun c mem => isBlank_of_mem_indent mem, dropWhile_of_head first,
    Text.dropEndBlanks, dropWhile_of_head back, List.reverse_reverse, String.ofList_toList]

/-- A text of lines ends as its last line does. -/
theorem endsTight_intercalate {ss : List String} (some : ss ≠ [])
    (h : ∀ s ∈ ss.getLast?, endsTight s = true) : endsTight ("\n".intercalate ss) = true := by
  induction ss with
  | nil => exact absurd rfl some
  | cons s ss ih =>
    cases ss with
    | nil => simpa using h
    | cons u us =>
      rw [String.intercalate_cons_cons]
      exact endsTight_append _ (ih (by simp) (by simpa using h))

/-- A text of lines starts as its first line does. -/
theorem startsTight_intercalate {s : String} (h : startsTight s = true) (ss : List String) :
    startsTight ("\n".intercalate (s :: ss)) = true := by
  cases ss with
  | nil => simpa using h
  | cons u us =>
    rw [String.intercalate_cons_cons, String.append_assoc]
    exact startsTight_append h _

/-- A text that starts with a character is not empty. -/
theorem ne_empty_of_startsTight {s : String} (h : startsTight s = true) : s ≠ "" := by
  rintro rfl
  cases h

/-- The first line stands behind its indentation and starts with no other blank, and the last line
does not end with one. So nothing but that indentation goes when the lines are trimmed. -/
structure IsIndented (depth : Int) (ss : List String) : Prop where
  /-- What the first line is. -/
  first : ∀ s ∈ ss.head?, ∃ u, startsTight u = true ∧ s = indent depth ++ u
  /-- How the last line ends. -/
  last : ∀ s ∈ ss.getLast?, endsTight s = true

namespace IsIndented

variable {depth : Int} {ss us : List String}

theorem nil : IsIndented depth [] := ⟨by simp, by simp⟩

/-- One line behind its indentation. -/
theorem singleton {s : String} (first : startsTight s = true) (last : endsTight s = true) :
    IsIndented depth [indent depth ++ s] where
  first := by
    rintro _ ⟨rfl⟩
    exact ⟨s, first, rfl⟩
  last := by
    rintro _ ⟨rfl⟩
    exact endsTight_append _ last

/-- Indented lines behind indented lines. -/
theorem append (hs : IsIndented depth ss) (hu : IsIndented depth us) :
    IsIndented depth (ss ++ us) where
  first := by
    cases ss with
    | nil => exact hu.first
    | cons s ss => exact hs.first
  last := by
    intro s mem
    by_cases empty : us = []
    · rw [empty, List.append_nil] at mem
      exact hs.last s mem
    · rw [List.getLast?_append_of_ne_nil _ empty] at mem
      exact hu.last s mem

/-- Pieces of indented lines, one behind the other. -/
theorem flatMap {α : Type} {f : α → List String} {xs : List α}
    (h : ∀ x ∈ xs, IsIndented depth (f x)) : IsIndented depth (xs.flatMap f) := by
  induction xs with
  | nil => exact nil
  | cons x xs ih =>
    obtain ⟨first, rest⟩ := List.forall_mem_cons.mp h
    rw [List.flatMap_cons]
    exact first.append (ih rest)

/-- Lines without blanks at their ends, each behind the indentation. -/
theorem map (h : ∀ s ∈ ss, startsTight s = true ∧ endsTight s = true) :
    IsIndented depth (ss.map (indent depth ++ ·)) := by
  rw [List.map_eq_flatMap]
  exact flatMap fun s mem => singleton (h s mem).1 (h s mem).2

/-- Trimmed lines are not empty, and the indentation before them makes them what they were. -/
theorem indent_trim (h : IsIndented depth ss) (some : ss ≠ []) :
    (Text.trim ("\n".intercalate ss)).isEmpty = false ∧
      indent depth ++ Text.trim ("\n".intercalate ss) = "\n".intercalate ss := by
  cases ss with
  | nil => exact absurd rfl some
  | cons s ss =>
    obtain ⟨u, tight, rfl⟩ := h.first s rfl
    have starts := startsTight_intercalate tight ss
    have ends := endsTight_intercalate some h.last
    rw [String.intercalate_cons_append] at ends ⊢
    rw [endsTight_append_of_ne _ (ne_empty_of_startsTight starts)] at ends
    rw [trim_indent starts ends]
    exact ⟨intercalate_isEmpty (ne_empty_of_startsTight tight) ss, rfl⟩

/-- Lines appear as they are, with an end behind each, where a template takes them trimmed and
indents the first one again. -/
theorem block (h : IsIndented depth ss) :
    (if (Text.trim ("\n".intercalate ss)).isEmpty then "" else
      indent depth ++ Text.trim ("\n".intercalate ss) ++ "\n") = endLines ss := by
  by_cases empty : ss = []
  · rw [empty]
    rfl
  · obtain ⟨filled, back⟩ := h.indent_trim empty
    rw [filled, back, ← intercalate_append_end empty]
    rfl

/-- The same where the template leaves an empty line behind them. -/
theorem block_section (h : IsIndented depth ss) :
    (if (Text.trim ("\n".intercalate ss)).isEmpty then "" else
      indent depth ++ Text.trim ("\n".intercalate ss) ++ "\n" ++ "\n") = endSection ss := by
  by_cases empty : ss = []
  · rw [empty]
    rfl
  · obtain ⟨filled, back⟩ := h.indent_trim empty
    rw [filled, back, intercalate_append_end empty, endSection, if_neg (by simp),
      if_neg (by simpa using empty)]

end IsIndented

/-! ### Templates -/

namespace Template

/-- The text of rows with their values. -/
def renderRows (values : List (String × String)) (rows : List TemplateRow) : String :=
  String.join (rows.map (renderRow values))

/-- The text of a row stands before that of the rows behind it. -/
theorem renderRows_cons (values : List (String × String)) (row : TemplateRow)
    (rows : List TemplateRow) :
    renderRows values (row :: rows) = renderRow values row ++ renderRows values rows := by
  rw [renderRows, List.map_cons, String.join_cons]
  rfl

/-- The text of rows stands before that of the rows behind them. -/
theorem renderRows_append (values : List (String × String)) (rows more : List TemplateRow) :
    renderRows values (rows ++ more) = renderRows values rows ++ renderRows values more := by
  unfold renderRows
  rw [List.map_append, String.join_append]

/-- A template is its first rows and the rest of its rows. -/
theorem render_split (t : Template) (values : List (String × String)) (k : Nat) :
    t.render values = renderRows values (t.rows.take k) ++ renderRows values (t.rows.drop k) := by
  rw [← renderRows_append, List.take_append_drop]
  rfl

/-- A line has the same text for values that agree in its slots. -/
theorem renderLine_congr {parts : List TemplatePart} {values more : List (String × String)}
    (h : ∀ slot ∈ parts.flatMap partSlots, valueOf values slot = valueOf more slot) :
    renderLine values parts = renderLine more parts := by
  have same : ∀ p ∈ parts, renderPart values p = renderPart more p := by
    intro p mem
    cases p with
    | text s => rfl
    | slot name => exact h name (List.mem_flatMap.mpr ⟨_, mem, List.mem_singleton_self name⟩)
  unfold renderLine
  rw [List.map_congr_left same]

/-- Rows have the same text for values that agree in their slots. -/
theorem renderRows_congr {rows : List TemplateRow} {values more : List (String × String)}
    (h : ∀ slot ∈ rows.flatMap rowSlots, valueOf values slot = valueOf more slot) :
    renderRows values rows = renderRows more rows := by
  have same : ∀ row ∈ rows, renderRow values row = renderRow more row := by
    intro row mem
    have slots : ∀ slot ∈ rowSlots row, valueOf values slot = valueOf more slot :=
      fun slot inside => h slot (List.mem_flatMap.mpr ⟨row, mem, inside⟩)
    cases row with
    | line parts => exact renderLine_congr slots
    | block slot lines =>
      obtain ⟨first, rest⟩ := List.forall_mem_cons.mp slots
      have inner : ∀ parts ∈ lines, renderLine values parts = renderLine more parts := by
        intro parts mem
        apply renderLine_congr
        intro slot inside
        exact rest slot (List.mem_flatMap.mpr ⟨parts, mem, inside⟩)
      rw [renderRow, renderRow, first, List.map_congr_left inner]
  unfold renderRows
  rw [List.map_congr_left same]

/-- Rows without slots have the same text for all values. -/
theorem renderRows_of_slots (rows : List TemplateRow) (h : rows.flatMap rowSlots = [])
    (values more : List (String × String)) : renderRows values rows = renderRows more rows := by
  apply renderRows_congr
  rw [h]
  simp

/-- A pair of a list with distinct first parts is found by its first part. -/
theorem lookup_of_mem {pairs : List (String × String)} {key value : String}
    (distinct : (pairs.map Prod.fst).Nodup) (mem : (key, value) ∈ pairs) :
    pairs.lookup key = some value := by
  induction pairs with
  | nil => cases mem
  | cons pair rest ih =>
    obtain ⟨first, others⟩ := List.nodup_cons.mp distinct
    rcases List.mem_cons.mp mem with rfl | inside
    · exact List.lookup_cons_self
    · have other : (key == pair.1) = false := by
        rw [beq_eq_false_iff_ne]
        rintro rfl
        exact first (List.mem_map.mpr ⟨_, inside, rfl⟩)
      rw [List.lookup_cons, other]
      exact ih others inside

/-- The slot at a position has the value at that position. -/
theorem valueOf_zip {slots values : List String} (distinct : slots.Nodup)
    (count : values.length = slots.length) {i : Nat} {slot value : String}
    (hs : slots[i]? = some slot) (hv : values[i]? = some value) :
    valueOf (slots.zip values) slot = value := by
  have keys : ((slots.zip values).reverse.map Prod.fst).Nodup := by
    rw [List.map_reverse, List.map_fst_zip (by omega), List.nodup_reverse]
    exact distinct
  have mem : (slot, value) ∈ (slots.zip values).reverse := by
    rw [List.mem_reverse]
    exact List.mem_of_getElem? (List.getElem?_zip_eq_some.mpr ⟨hs, hv⟩)
  rw [valueOf, lookup_of_mem keys mem, Option.getD_some]

end Template

/-- The text of a template takes as many values as there are slots. -/
theorem TemplateContract.render_eq {c : TemplateContract} {library : List Template} {t : Template}
    (found : c.template library = .ok t) {values : List String}
    (count : values.length = c.slots.length) :
    c.render library values = .ok (t.render (c.slots.zip values)) := by
  unfold TemplateContract.render
  rw [if_neg (not_not_intro count), found]
  rfl

/-! ### The file of the manager -/

namespace Target

/-- What every file of a target imports. -/
def ownImports : Target → List String
  | cpp => ["#include \"" ++ Cpp.rootDirectory ++ "/ByteBuffer.h\""]
  | typescript => []

/-- The text of the manager's file with its imports and the statements that register messages. -/
def managerText : Target → List String → List String → String
  | cpp, imports, registrations =>
    endLines ["#ifndef GALALITH_PROTOCOLMANAGER_H", "#define GALALITH_PROTOCOLMANAGER_H", ""] ++
      endLines imports ++
      endLines ["", "namespace galalith \x7b", "", "    inline void initProtocol() \x7b"] ++
      endLines (registrations.map (indent 2 ++ ·)) ++
      Template.renderRows [] (Template.cppManager.rows.drop 10)
  | typescript, imports, registrations =>
    endSection imports ++
      endLines ["const protocols = new Map<number, any>();", ""] ++
      endSection registrations ++
      Template.renderRows [] (Template.typescriptManager.rows.drop 4)

end Target

/-- The text of lines in a block of a template. -/
theorem block_endLines {ss : List String} (h : ∀ s ∈ ss, s ≠ "") :
    (if ("\n".intercalate ss).isEmpty then "" else "\n".intercalate ss ++ "\n") = endLines ss := by
  cases ss with
  | nil => rfl
  | cons s ss =>
    rw [intercalate_isEmpty (h s List.mem_cons_self), intercalate_append_end (by simp)]
    rfl

/-- The text of lines in a block of a template that leaves an empty line behind them. -/
theorem block_endSection {ss : List String} (h : ∀ s ∈ ss, s ≠ "") :
    (if ("\n".intercalate ss).isEmpty then "" else "\n".intercalate ss ++ "\n" ++ "\n") =
      endSection ss := by
  cases ss with
  | nil => rfl
  | cons s ss =>
    rw [intercalate_isEmpty (h s List.mem_cons_self), intercalate_append_end (by simp)]
    rfl

/-- The manager's header, given the values of its slots. -/
theorem render_cppManager (imports registrations : String) :
    Cpp.managerTemplate.render Target.templates (Cpp.managerValues imports registrations) =
      .ok (endLines
          ["#ifndef GALALITH_PROTOCOLMANAGER_H", "#define GALALITH_PROTOCOLMANAGER_H", ""] ++
        (endLines Target.cpp.ownImports ++ (if imports.isEmpty then "" else imports ++ "\n")) ++
        endLines ["", "namespace galalith \x7b", "", "    inline void initProtocol() \x7b"] ++
        (if registrations.isEmpty then "" else indent 2 ++ registrations ++ "\n") ++
        Template.renderRows [] (Template.cppManager.rows.drop 10)) := by
  have found : Cpp.managerTemplate.template Target.templates = .ok Template.cppManager := rfl
  have two : indent 2 = "        " := by decide
  have count : (Cpp.managerValues imports registrations).length =
    Cpp.managerTemplate.slots.length := rfl
  rw [TemplateContract.render_eq found count, Template.render_split _ _ 10, two,
    Template.renderRows_of_slots (Template.cppManager.rows.drop 10) (by decide) _ []]
  generalize Template.renderRows [] (Template.cppManager.rows.drop 10) = rest
  have root : Template.valueOf (Cpp.managerTemplate.slots.zip
      (Cpp.managerValues imports registrations)) "root" = Cpp.rootDirectory := rfl
  have first : Template.valueOf (Cpp.managerTemplate.slots.zip
      (Cpp.managerValues imports registrations)) "includes" = imports := rfl
  have second : Template.valueOf (Cpp.managerTemplate.slots.zip
      (Cpp.managerValues imports registrations)) "registrations" = registrations := rfl
  simp only [Template.renderRows, Template.cppManager, List.take_succ_cons, List.take_zero,
    List.map_cons, List.map_nil, Template.renderRow, Template.renderLine, Template.renderPart,
    root, first, second, String.join_cons, String.join_nil, String.append_empty,
    String.empty_append, endLines, Target.ownImports, String.append_assoc]

/-- The manager's module, given the values of its slots. -/
theorem render_typescriptManager (imports registrations : String) :
    TypeScript.managerTemplate.render Target.templates
        (TypeScript.managerValues imports registrations) =
      .ok ((if imports.isEmpty then "" else imports ++ "\n" ++ "\n") ++
        endLines ["const protocols = new Map<number, any>();", ""] ++
        (if registrations.isEmpty then "" else registrations ++ "\n" ++ "\n") ++
        Template.renderRows [] (Template.typescriptManager.rows.drop 4)) := by
  have found : TypeScript.managerTemplate.template Target.templates =
    .ok Template.typescriptManager := rfl
  have count : (TypeScript.managerValues imports registrations).length =
    TypeScript.managerTemplate.slots.length := rfl
  rw [TemplateContract.render_eq found count, Template.render_split _ _ 4,
    Template.renderRows_of_slots (Template.typescriptManager.rows.drop 4) (by decide) _ []]
  generalize Template.renderRows [] (Template.typescriptManager.rows.drop 4) = rest
  have first : Template.valueOf (TypeScript.managerTemplate.slots.zip
      (TypeScript.managerValues imports registrations)) "imports" = imports := rfl
  have second : Template.valueOf (TypeScript.managerTemplate.slots.zip
      (TypeScript.managerValues imports registrations)) "registrations" = registrations := rfl
  simp only [Template.renderRows, Template.typescriptManager, List.take_succ_cons, List.take_zero,
    List.map_cons, List.map_nil, Template.renderRow, Template.renderLine, Template.renderPart,
    first, second, String.join_cons, String.join_nil, String.append_empty, String.empty_append,
    endLines, String.append_assoc]

/-- A statement that registers a message has no blanks at its ends. -/
theorem registration_tight (t : Target) (m : Message) :
    startsTight (t.registration m) = true ∧ endsTight (t.registration m) = true := by
  -- the parts before the name and behind it are the same for every message
  cases t with
  | cpp =>
    refine ⟨startsTight_append (startsTight_append (startsTight_append ?_ _) _) _,
      endsTight_append _ (by decide)⟩
    exact startsTight_append (by decide) _
  | typescript =>
    refine ⟨startsTight_append (startsTight_append (startsTight_append ?_ _) _) _,
      endsTight_append _ (by decide)⟩
    exact startsTight_append (by decide) _

/-- The manager's template is laid out around imports and registrations. -/
theorem render_manager (t : Target) {imports : List String} (h : ∀ s ∈ imports, s ≠ "")
    (ms : List Message) :
    t.managerTemplate.render Target.templates (t.managerValues ("\n".intercalate imports)
      (Text.trim ("\n".intercalate (ms.map fun m => indent t.managerDepth ++ t.registration m)))) =
    .ok (t.managerText (t.ownImports ++ imports) (ms.map t.registration)) := by
  have tight : ∀ s ∈ ms.map t.registration, startsTight s = true ∧ endsTight s = true := by
    intro s mem
    obtain ⟨m, -, rfl⟩ := List.mem_map.mp mem
    exact registration_tight t m
  have lines : ms.map (fun m => indent t.managerDepth ++ t.registration m) =
      (ms.map t.registration).map (indent t.managerDepth ++ ·) := by
    rw [List.map_map]
    rfl
  rw [lines]
  generalize ms.map t.registration = registrations at tight ⊢
  cases t with
  | cpp =>
    refine (render_cppManager _ _).trans ?_
    rw [Target.managerText, endLines_append, ← block_endLines h, ← (IsIndented.map tight).block]
    rfl
  | typescript =>
    have zero : indent Target.typescript.managerDepth = "" := by decide
    have lines := (@IsIndented.map Target.typescript.managerDepth _ tight).block_section
    simp only [zero, String.empty_append, List.map_id'] at lines ⊢
    refine (render_typescriptManager _ _).trans ?_
    rw [block_endSection h, lines]
    rfl

/-- The statement that imports a name along a way. -/
def Target.importOf : Target → String → String → String
  | cpp, _, way => "#include \"" ++ way ++ "\""
  | typescript, name, way => "import " ++ name ++ " from '" ++ way ++ "';"

/-- The lines by which files make a message known are import statements, so they are not empty. -/
theorem ne_empty_of_import {t : Target} {b : Message} {s : String}
    (h : t.managerImport b = .ok s ∨ ∃ m, t.dependencyLine m b = .ok s) : s ≠ "" := by
  obtain ⟨name, way, rfl⟩ : ∃ name way, s = t.importOf name way := by
    cases t with
    | cpp =>
      have line : Cpp.includeLine b = .ok s := h.elim id fun ⟨_, line⟩ => line
      obtain ⟨directory, -, line⟩ := exists_of_bind_eq_ok line
      cases line
      refine ⟨"", Path.join [Cpp.rootDirectory, directory, b.name.getD ""] ++ ".h", ?_⟩
      show _ ++ (".h" ++ "\"") = _ ++ (_ ++ ".h") ++ "\""
      simp only [String.append_assoc]
    | typescript =>
      rcases h with line | ⟨m, line⟩
      · obtain ⟨directory, -, line⟩ := exists_of_bind_eq_ok line
        cases line
        exact ⟨_, _, rfl⟩
      · obtain ⟨source, -, line⟩ := exists_of_bind_eq_ok line
        obtain ⟨directory, -, line⟩ := exists_of_bind_eq_ok line
        cases line
        exact ⟨_, _, rfl⟩
  cases t <;> simp [Target.importOf]

/-- The manager makes a message known exactly if the message has a module. -/
theorem exists_managerImport_iff (t : Target) (m : Message) :
    (∃ s, t.managerImport m = .ok s) ↔ m.module ≠ none := by
  constructor
  · rintro ⟨s, h⟩ none
    have fails : m.directory = .error .nullText := by simp [Message.directory, none]
    cases t with
    | cpp =>
      obtain ⟨directory, found, -⟩ := exists_of_bind_eq_ok h
      cases fails.symm.trans found
    | typescript =>
      obtain ⟨directory, found, -⟩ := exists_of_bind_eq_ok h
      cases fails.symm.trans found
  · intro some
    have found := Message.directory_eq some
    cases t with
    | cpp => exact ⟨_, by rw [Target.managerImport, Cpp.includeLine, found]; rfl⟩
    | typescript => exact ⟨_, by rw [Target.managerImport, TypeScript.managerImport, found]; rfl⟩

namespace OutputContext

variable {x : OutputContext} {r : Registry} {m : Message} {file : OutputFile}

/-- The file of the manager, given the lines that make the messages known. -/
theorem managerFile_eq {imports : List String}
    (h : r.messages.mapM x.target.managerImport = .ok imports) :
    x.managerFile r = .ok ⟨x.root.child (managerName ++ "." ++ x.target.extension),
      x.target.managerText (x.target.ownImports ++ imports.eraseDups)
        (r.messages.map x.target.registration)⟩ := by
  have lines : ∀ s ∈ imports.eraseDups, s ≠ "" := by
    intro s mem
    obtain ⟨m, -, made⟩ :=
      exists_of_mem_forall₂ (forall₂_of_mapM_eq_ok h) (List.mem_eraseDups.mp mem)
    exact ne_empty_of_import (.inl made)
  unfold managerFile
  rw [h]
  have content := render_manager x.target lines r.messages
  show (x.target.managerTemplate.render Target.templates _ >>= fun content => _) = _
  rw [content]
  rfl

/-- The file of the manager is laid out from the lines that make the messages known. -/
theorem exists_of_managerFile (h : x.managerFile r = .ok file) :
    ∃ imports, r.messages.mapM x.target.managerImport = .ok imports ∧
      file = ⟨x.root.child (managerName ++ "." ++ x.target.extension),
        x.target.managerText (x.target.ownImports ++ imports.eraseDups)
          (r.messages.map x.target.registration)⟩ := by
  have whole := h
  unfold managerFile at h
  obtain ⟨imports, made, -⟩ := exists_of_bind_eq_ok h
  exact ⟨imports, made, Except.ok.inj (whole.symm.trans (managerFile_eq made))⟩

/-- The file of the manager is laid out exactly if every message has a module. -/
theorem exists_managerFile_iff :
    (∃ file, x.managerFile r = .ok file) ↔ ∀ m ∈ r.messages, m.module ≠ none := by
  constructor
  · rintro ⟨file, h⟩ m mem
    obtain ⟨imports, made, -⟩ := exists_of_managerFile h
    obtain ⟨s, -, line⟩ := exists_of_mem_forall₂ (forall₂_of_mapM_eq_ok made).flip mem
    exact (exists_managerImport_iff x.target m).mp ⟨s, line⟩
  · intro modules
    obtain ⟨imports, made⟩ : ∃ imports, r.messages.mapM x.target.managerImport = .ok imports :=
      exists_mapM_eq_ok fun m mem => (exists_managerImport_iff x.target m).mpr (modules m mem)
    exact ⟨_, managerFile_eq made⟩

end OutputContext

/-! ### The files of messages -/

/-- The text of a file has its import statements in front, one to a line: behind the guard and up to
the namespace, or from the start of the file up to a line that is no import. -/
def Target.HasImports : Target → String → List String → Prop
  | cpp, content, imports => ∃ guard rest, content =
      endLines ["#ifndef GALALITH_" ++ guard ++ "_H", "#define GALALITH_" ++ guard ++ "_H", ""] ++
        endLines imports ++ endLines ["", "namespace galalith \x7b"] ++ rest
  | typescript, content, imports => ∃ rest, content = endSection imports ++ rest ∧
      ¬ "import ".toList <+: rest.toList

/-- A text that starts with another character than an import is none. -/
theorem not_import_of_head {s : String} (h : s.toList.head? ≠ some 'i') :
    ¬ "import ".toList <+: s.toList := by
  rintro ⟨rest, same⟩
  rw [← same] at h
  exact h rfl

/-- The text of the manager's file has its imports in front. -/
theorem hasImports_managerText (t : Target) (imports registrations : List String) :
    t.HasImports (t.managerText imports registrations) imports := by
  cases t with
  | cpp =>
    refine ⟨"PROTOCOLMANAGER", endLines ["", "    inline void initProtocol() \x7b"] ++
      endLines (registrations.map (indent 2 ++ ·)) ++
      Template.renderRows [] (Template.cppManager.rows.drop 10), ?_⟩
    have lines :
        endLines ["", "namespace galalith \x7b", "", "    inline void initProtocol() \x7b"] =
        endLines ["", "namespace galalith \x7b"] ++
          endLines ["", "    inline void initProtocol() \x7b"] :=
      endLines_append ["", "namespace galalith \x7b"] ["", "    inline void initProtocol() \x7b"]
    rw [Target.managerText, lines]
    simp only [String.append_assoc]
    rfl
  | typescript =>
    refine ⟨endLines ["const protocols = new Map<number, any>();", ""] ++
      endSection registrations ++
      Template.renderRows [] (Template.typescriptManager.rows.drop 4), ?_, ?_⟩
    · rw [Target.managerText]
      simp only [String.append_assoc]
    · have first : (endLines ["const protocols = new Map<number, any>();", ""]).toList.head? =
          some 'c' := by decide
      apply not_import_of_head
      rw [String.append_assoc, String.toList_append, List.head?_append, first, Option.some_or]
      decide

/-- The first values of a message's header. -/
theorem Cpp.exists_messageValues {p : MessageParts} {name : String}
    (given : p.message.name = some name) : ∃ others, others.length = 9 ∧
      Cpp.messageValues p =
        .ok (Text.upper name :: Cpp.rootDirectory :: p.dependencies :: others) := by
  simp only [Cpp.messageValues, given]
  exact ⟨_, rfl, rfl⟩

/-- The header of a message is laid out, with its imports in front. -/
theorem exists_render_cppMessage (guard imports : String) {others : List String}
    (count : others.length = 9) : ∃ rest, Cpp.messageTemplate.render Target.templates
        (guard :: Cpp.rootDirectory :: imports :: others) =
      .ok (endLines
          ["#ifndef GALALITH_" ++ guard ++ "_H", "#define GALALITH_" ++ guard ++ "_H", ""] ++
        (endLines Target.cpp.ownImports ++ (if imports.isEmpty then "" else imports ++ "\n")) ++
        endLines ["", "namespace galalith \x7b"] ++ rest) := by
  have found : Cpp.messageTemplate.template Target.templates = .ok Template.cppMessage := rfl
  have distinct : Cpp.messageTemplate.slots.Nodup := by decide
  have length : (guard :: Cpp.rootDirectory :: imports :: others).length =
      Cpp.messageTemplate.slots.length := by
    rw [List.length_cons, List.length_cons, List.length_cons, count]
    rfl
  have first := Template.valueOf_zip distinct length (i := 0) rfl rfl
  have second := Template.valueOf_zip distinct length (i := 1) rfl rfl
  have third := Template.valueOf_zip distinct length (i := 2) rfl rfl
  generalize guard :: Cpp.rootDirectory :: imports :: others = values at first second third length ⊢
  refine ⟨Template.renderRows (Cpp.messageTemplate.slots.zip values)
    (Template.cppMessage.rows.drop 7), ?_⟩
  rw [TemplateContract.render_eq found length, Template.render_split _ _ 7]
  generalize Template.renderRows (Cpp.messageTemplate.slots.zip values)
    (Template.cppMessage.rows.drop 7) = rest
  simp only [Template.renderRows, Template.cppMessage, List.take_succ_cons, List.take_zero,
    List.map_cons, List.map_nil, Template.renderRow, Template.renderLine, Template.renderPart,
    first, second, third, String.join_cons, String.join_nil, String.append_empty,
    String.empty_append, endLines, Target.ownImports, String.append_assoc]

/-- The module of a message is laid out, with its imports in front. -/
theorem exists_render_typescriptMessage {p : MessageParts}
    (doc : p.documentation.toList.head? ≠ some 'i') : ∃ rest,
      TypeScript.messageTemplate.render Target.templates (TypeScript.messageValues p) =
        .ok ((if p.dependencies.isEmpty then "" else p.dependencies ++ "\n" ++ "\n") ++ rest) ∧
      ¬ "import ".toList <+: rest.toList := by
  have found : TypeScript.messageTemplate.template Target.templates =
    .ok Template.typescriptMessage := rfl
  have count : (TypeScript.messageValues p).length = TypeScript.messageTemplate.slots.length := rfl
  have first : Template.valueOf (TypeScript.messageTemplate.slots.zip
      (TypeScript.messageValues p)) "imports" = p.dependencies := rfl
  have second : Template.valueOf (TypeScript.messageTemplate.slots.zip
      (TypeScript.messageValues p)) "doc" = p.documentation := rfl
  refine ⟨Template.renderRows (TypeScript.messageTemplate.slots.zip (TypeScript.messageValues p))
    (Template.typescriptMessage.rows.drop 1), ?_, ?_⟩
  · rw [TemplateContract.render_eq found count, Template.render_split _ _ 1]
    generalize Template.renderRows (TypeScript.messageTemplate.slots.zip
      (TypeScript.messageValues p)) (Template.typescriptMessage.rows.drop 1) = rest
    simp only [Template.renderRows, Template.typescriptMessage, List.take_succ_cons, List.take_zero,
      List.map_cons, List.map_nil, Template.renderRow, Template.renderLine, Template.renderPart,
      first, String.join_cons, String.join_nil, String.append_empty, String.empty_append,
      String.append_assoc]
  · -- behind the imports stands the documentation or, without any, the class
    have rows : Template.typescriptMessage.rows.drop 1 = .block "doc" [[.slot "doc"]] ::
      .line [.text "class ", .slot "name", .text " \x7b"] ::
        Template.typescriptMessage.rows.drop 3 := rfl
    apply not_import_of_head
    simp only [rows, Template.renderRows_cons, Template.renderRow, Template.renderLine,
      Template.renderPart, List.map_cons, List.map_nil, second, String.join_cons, String.join_nil,
      String.append_empty, String.append_assoc]
    by_cases empty : p.documentation = ""
    · rw [if_pos (by simpa using empty), String.empty_append]
      simp
    · rw [if_neg (by simpa using empty), String.append_assoc, String.toList_append,
        List.head?_append_of_ne_nil _ (by simpa using empty)]
      exact doc

/-- Blanks go from the end of a text down to a character that is none. -/
theorem dropEndBlanks_append {c : Char} (h : Text.isBlank c = false) (cs ds : List Char) :
    Text.dropEndBlanks (cs ++ c :: ds) = cs ++ c :: Text.dropEndBlanks ds := by
  unfold Text.dropEndBlanks
  rw [List.reverse_append, List.reverse_cons, List.append_assoc, List.dropWhile_append]
  split
  · rename_i none
    simp [h, List.isEmpty_iff.mp none]
  · simp

/-- A text that starts with no blank starts with the same character without the blanks at its end. -/
theorem head?_dropEndBlanks {c : Char} (h : Text.isBlank c = false) (cs : List Char) :
    (Text.dropEndBlanks (c :: cs)).head? = some c := by
  rw [← List.nil_append (c :: cs), dropEndBlanks_append h]
  rfl

/-- A text of lines starts as its first line does. -/
theorem head?_intercalate {s : String} {c : Char} (h : s.toList.head? = some c)
    (ss : List String) : ("\n".intercalate (s :: ss)).toList.head? = some c := by
  cases ss with
  | nil => simpa using h
  | cons u us =>
    rw [String.intercalate_cons_cons, String.append_assoc, String.toList_append,
      List.head?_append, h, Option.some_or]

/-- Documentation that stands in no block is empty or starts with its mark. -/
theorem head?_documentation (comment : Option String) :
    (Text.trim ("\n".intercalate
      (documentation comment 0 Target.commentMark))).toList.head? ≠ some 'i' := by
  have slash : Text.isBlank '/' = false := by decide
  cases comment with
  | none => decide
  | some text =>
    rw [documentation]
    cases lines : Text.lines (Text.trim text) with
    | nil => decide
    | cons l ls =>
      have first : (Text.trimEnd (indent 0 ++ Target.commentMark ++ l)).toList.head? =
          some '/' := by
        rw [Text.trimEnd, String.toList_ofList, String.toList_append]
        exact head?_dropEndBlanks slash _
      have whole := head?_intercalate first
        (ls.map fun l => Text.trimEnd (indent 0 ++ Target.commentMark ++ l))
      rw [List.map_cons, Text.trim, String.toList_ofList]
      cases chars : ("\n".intercalate (Text.trimEnd (indent 0 ++ Target.commentMark ++ l) ::
          ls.map fun l => Text.trimEnd (indent 0 ++ Target.commentMark ++ l))).toList with
      | nil => decide
      | cons c cs =>
        rw [chars] at whole
        obtain rfl : c = '/' := by simpa using whole
        rw [List.dropWhile_cons_of_neg (by simp [slash]), head?_dropEndBlanks slash]
        decide

namespace OutputContext

variable {x : OutputContext} {r : Registry} {m : Message} {file : OutputFile}

/-- A message's file has a line for each dependency, each once. -/
theorem forall₂_of_dependencyLines {lines : List String} (h : x.dependencyLines r m = .ok lines) :
    ∃ ids all, r.dependencies m.id = .ok ids ∧ lines = all.eraseDups ∧
      List.Forall₂ (fun id s => ∃ b, r.get id = .ok b ∧ x.target.dependencyLine m b = .ok s)
        ids all := by
  unfold dependencyLines at h
  obtain ⟨ids, found, h⟩ := exists_of_bind_eq_ok h
  obtain ⟨all, made, h⟩ := exists_of_bind_eq_ok h
  cases h
  refine ⟨ids, all, found, rfl, (forall₂_of_mapM_eq_ok made).imp fun id s line => ?_⟩
  obtain ⟨b, got, line⟩ := exists_of_bind_eq_ok line
  exact ⟨b, got, line⟩

/-- The pieces of a message's file that come before its code. -/
theorem exists_of_messageParts {p : MessageParts} (h : x.messageParts r m = .ok p) :
    ∃ lines, x.dependencyLines r m = .ok lines ∧ p.message = m ∧
      p.dependencies = "\n".intercalate lines ∧
      p.documentation = Text.trim ("\n".intercalate
        (documentation m.comment x.target.documentationDepth Target.commentMark)) := by
  unfold messageParts at h
  obtain ⟨lines, made, h⟩ := exists_of_bind_eq_ok h
  obtain ⟨declared, -, h⟩ := exists_of_bind_eq_ok h
  obtain ⟨_, -, h⟩ := exists_of_bind_eq_ok h
  obtain ⟨_, -, h⟩ := exists_of_bind_eq_ok h
  cases h
  exact ⟨lines, made, rfl, rfl, rfl⟩

/-- The text of a message with a name is laid out, with its dependencies' lines in front. -/
theorem exists_content {p : MessageParts} (parts : x.messageParts r m = .ok p)
    (name : m.name ≠ none) : ∃ values content lines, x.target.messageValues p = .ok values ∧
      x.target.messageTemplate.render Target.templates values = .ok content ∧
      x.dependencyLines r m = .ok lines ∧
      x.target.HasImports content (x.target.ownImports ++ lines) := by
  obtain ⟨lines, made, rfl, dependencies, doc⟩ := exists_of_messageParts parts
  have filled : ∀ s ∈ lines, s ≠ "" := by
    intro s mem
    obtain ⟨ids, all, -, rfl, related⟩ := forall₂_of_dependencyLines made
    obtain ⟨id, -, b, -, line⟩ := exists_of_mem_forall₂ related (List.mem_eraseDups.mp mem)
    exact ne_empty_of_import (.inr ⟨_, line⟩)
  obtain ⟨text, given⟩ := Option.ne_none_iff_exists'.mp name
  cases target : x.target with
  | cpp =>
    obtain ⟨others, count, values⟩ := Cpp.exists_messageValues given
    obtain ⟨rest, rendered⟩ := exists_render_cppMessage (Text.upper text) p.dependencies count
    refine ⟨_, _, lines, values, rendered, made, Text.upper text, rest, ?_⟩
    rw [endLines_append, dependencies, block_endLines filled]
  | typescript =>
    rw [target] at doc
    have first : p.documentation.toList.head? ≠ some 'i' := by
      rw [doc]
      exact head?_documentation _
    obtain ⟨rest, rendered, other⟩ := exists_render_typescriptMessage first
    refine ⟨_, _, lines, rfl, rendered, made, rest, ?_, other⟩
    rw [dependencies, block_endSection filled]
    rfl

/-- The file of a message is at the message's path. -/
theorem messagePath_of_messageFile (h : x.messageFile r m = .ok file) :
    x.messagePath m = .ok file.path := by
  unfold messageFile at h
  obtain ⟨_, -, h⟩ := exists_of_bind_eq_ok h
  obtain ⟨_, -, h⟩ := exists_of_bind_eq_ok h
  obtain ⟨_, -, h⟩ := exists_of_bind_eq_ok h
  obtain ⟨_, -, h⟩ := exists_of_bind_eq_ok h
  obtain ⟨path, placed, h⟩ := exists_of_bind_eq_ok h
  cases h
  exact placed

/-- The file of a message with a name has its dependencies' lines in front. -/
theorem exists_of_messageFile (h : x.messageFile r m = .ok file) (name : m.name ≠ none) :
    ∃ lines, x.dependencyLines r m = .ok lines ∧
      x.target.HasImports file.content (x.target.ownImports ++ lines) := by
  unfold messageFile at h
  obtain ⟨p, parts, h⟩ := exists_of_bind_eq_ok h
  obtain ⟨values, given, h⟩ := exists_of_bind_eq_ok h
  obtain ⟨content, rendered, h⟩ := exists_of_bind_eq_ok h
  obtain ⟨_, -, h⟩ := exists_of_bind_eq_ok h
  obtain ⟨path, -, h⟩ := exists_of_bind_eq_ok h
  cases h
  obtain ⟨values', content', lines, given', rendered', made, imports⟩ := exists_content parts name
  obtain rfl := Except.ok.inj (given.symm.trans given')
  obtain rfl := Except.ok.inj (rendered.symm.trans rendered')
  exact ⟨lines, made, imports⟩

/-- Every message has its file among those of the registry, and so has the manager. -/
theorem mem_files {files : List OutputFile} (laid : x.files r = .ok files) :
    (∀ m ∈ r.messages, ∃ file ∈ files, x.messageFile r m = .ok file) ∧
    ∃ file ∈ files, x.managerFile r = .ok file := by
  obtain ⟨messages, made, laid⟩ := exists_of_bind_eq_ok laid
  obtain ⟨manager, registers, laid⟩ := exists_of_bind_eq_ok laid
  cases laid
  refine ⟨fun m hm => ?_, manager, by simp, registers⟩
  obtain ⟨file, mem, message⟩ := exists_of_mem_forall₂ (forall₂_of_mapM_eq_ok made).flip hm
  exact ⟨file, by simp [mem], message⟩

end OutputContext

end PacketSmith
