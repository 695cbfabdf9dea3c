import PacketSmith.Proofs.CodeLines
import PacketSmith.Proofs.GeneratedPaths

/-!
# Include guards

A header stands between a test of its macro and the end of that test, and defines the macro first
(`guard?`). So of the headers with one macro only the first reaches the compiler (`included`).

The macro of a message is made from its name in upper case, without its module. The macros of all
headers of a registry are distinct exactly if the names of the messages, of the manager and of the
buffer differ in more than letter case, and exactly then no header is dropped when some are included
together (`nodup_guards_iff`). Nothing keeps messages from names that differ in letter case alone.
-/

namespace PacketSmith

open Code

/-! ### The letter case of names -/

namespace Text

/-- The first characters of all have an upper case only if they are letters. -/
theorem upperChar_of_lt {c : Char} (low : c.toNat < 128) :
    upperChar c = [if 97 ≤ c.toNat ∧ c.toNat ≤ 122 then Char.ofNat (c.toNat - 32) else c] := by
  have expanded : ∀ p ∈ expansions, 128 ≤ p.1 := by decide +kernel
  have shifted : ∀ s ∈ shifts.tail, 128 ≤ s.first := by decide +kernel
  have plain : expansions.lookup c.toNat = none := by
    rw [List.lookup_eq_none_iff]
    intro p mem
    have far := expanded p mem
    rw [bne_iff_ne]
    omega
  have other : shifts.tail.find? (·.covers c.toNat) = none := by
    rw [List.find?_eq_none]
    intro s mem
    have far := shifted s mem
    simp only [Shift.covers, Bool.and_eq_true, decide_eq_true_eq]
    omega
  have letters : shifts = ⟨0x61, 0x7A, 1, -32⟩ :: shifts.tail := rfl
  rw [upperChar, plain, letters, List.find?_cons]
  by_cases letter : 97 ≤ c.toNat ∧ c.toNat ≤ 122
  · have covered : Shift.covers ⟨0x61, 0x7A, 1, -32⟩ c.toNat = true := by
      simp [Shift.covers, letter, Nat.mod_one]
    have code : ((c.toNat : Int) + -32).toNat = c.toNat - 32 := by omega
    rw [covered, if_pos letter, ← code]
  · have uncovered : Shift.covers ⟨0x61, 0x7A, 1, -32⟩ c.toNat = false := by
      simp only [Shift.covers, Bool.and_eq_false_iff, decide_eq_false_iff_not]
      omega
    rw [uncovered, if_neg letter, other]

/-- The characters of names have one upper-case form, which is a character of names too, and what is
lost by changing letter case is letter case alone. -/
theorem upperChar_of_isNamePart {c : Char} (h : TypeName.isNamePart c = true) :
    upperChar c = [c.toUpper] ∧ TypeName.isNamePart c.toUpper = true ∧
      c.toUpper.toLower = c.toLower ∧ c.toLower.toUpper = c.toUpper := by
  have all : ∀ n < 128, TypeName.isNamePart (Char.ofNat n) = true →
      (if 97 ≤ n ∧ n ≤ 122 then Char.ofNat (n - 32) else Char.ofNat n) = (Char.ofNat n).toUpper ∧
      TypeName.isNamePart (Char.ofNat n).toUpper = true ∧
      (Char.ofNat n).toUpper.toLower = (Char.ofNat n).toLower ∧
      (Char.ofNat n).toLower.toUpper = (Char.ofNat n).toUpper := by
    decide +kernel
  have low : c.toNat < 128 := by
    simp only [TypeName.isNamePart, TypeName.isNameStart, Bool.or_eq_true, Bool.and_eq_true,
      decide_eq_true_eq, beq_iff_eq, Char.le_def, UInt32.le_iff_toNat_le] at h
    rcases h with (((⟨-, h⟩ | ⟨-, h⟩) | rfl) | rfl) | ⟨-, h⟩
    · exact Nat.lt_of_le_of_lt h (by decide)
    · exact Nat.lt_of_le_of_lt h (by decide)
    · decide
    · decide
    · exact Nat.lt_of_le_of_lt h (by decide)
  have here := all c.toNat low
  rw [Char.ofNat_toNat] at here
  rw [upperChar_of_lt low, (here h).1]
  exact ⟨rfl, (here h).2⟩

variable {a b : String}

/-- The upper-case form of a name is made character by character. -/
theorem upper_of_isName (h : TypeName.isName a = true) : upper a = a.toUpper := by
  have parts : ∀ c ∈ a.toList, upperChar c = [c.toUpper] := fun c mem =>
    (upperChar_of_isNamePart (TypeName.isNamePart_of_isNameList h mem)).1
  apply String.toList_inj.mp
  rw [upper, String.toList_ofList, String.toUpper, String.toList_map, List.map_eq_flatMap,
    List.flatMap_congr parts]

/-- Changing letter case twice is changing it once. -/
theorem toLower_toUpper_of_isName (h : TypeName.isName a = true) :
    a.toUpper.toLower = a.toLower ∧ a.toLower.toUpper = a.toUpper := by
  have parts : ∀ c ∈ a.toList,
      c.toUpper.toLower = c.toLower ∧ c.toLower.toUpper = c.toUpper := fun c mem =>
    (upperChar_of_isNamePart (TypeName.isNamePart_of_isNameList h mem)).2.2
  constructor
  · apply String.toList_inj.mp
    simp only [String.toUpper, String.toLower, String.toList_map, List.map_map]
    exact List.map_congr_left fun c mem => (parts c mem).1
  · apply String.toList_inj.mp
    simp only [String.toUpper, String.toLower, String.toList_map, List.map_map]
    exact List.map_congr_left fun c mem => (parts c mem).2

/-- Names have one upper-case form exactly if they differ in letter case at most. -/
theorem toUpper_eq_iff (ha : TypeName.isName a = true) (hb : TypeName.isName b = true) :
    a.toUpper = b.toUpper ↔ a.toLower = b.toLower := by
  obtain ⟨lowA, upA⟩ := toLower_toUpper_of_isName ha
  obtain ⟨lowB, upB⟩ := toLower_toUpper_of_isName hb
  constructor
  · intro same
    rw [← lowA, same, lowB]
  · intro same
    rw [← upA, same, upB]

end Text

/-! ### Guarded headers -/

/-- The macro that guards a header: the first line tests for it, the second defines it, and the last
line ends the test. -/
def guard? (content : String) : Option String :=
  match Text.cutLines (· == '\n') content.toList with
  | first :: second :: rest =>
    let name := (first.drop "#ifndef ".length).dropLast
    if first = "#ifndef ".toList ++ name ++ ['\n'] ∧ second = "#define ".toList ++ name ++ ['\n'] ∧
        rest.getLast? = some "#endif\n".toList then
      some (String.ofList name)
    else none
  | _ => none

/-- The text is whole lines between the lines of a guard. -/
def IsGuarded (name content : String) : Prop :=
  ∃ body, Text.IsWhole (· == '\n') body.toList ∧
    content = endLines ["#ifndef " ++ name, "#define " ++ name] ++ body ++ endLines ["#endif"]

/-- The macro of a guarded text. -/
theorem IsGuarded.guard? {name content : String} (line : '\n' ∉ name.toList)
    (h : IsGuarded name content) : guard? content = some name := by
  obtain ⟨body, whole, rfl⟩ := h
  have clean : ∀ s : String, '\n' ∉ s.toList →
      Text.cutLines (· == '\n') (s ++ name ++ "\n").toList = [(s ++ name ++ "\n").toList] := by
    intro s out
    apply cutLines_feed
    rw [String.toList_append, List.mem_append, not_or]
    exact ⟨out, line⟩
  have lines : Text.cutLines (· == '\n') (endLines ["#ifndef " ++ name, "#define " ++ name] ++ body ++
      endLines ["#endif"]).toList = ("#ifndef " ++ name ++ "\n").toList ::
        ("#define " ++ name ++ "\n").toList ::
        (Text.cutLines (· == '\n') body.toList ++ ["#endif\n".toList]) := by
    have front : Text.IsWhole (· == '\n') (endLines ["#ifndef " ++ name, "#define " ++ name]).toList :=
      isWhole_endLines (by decide) _
    rw [String.toList_append, String.toList_append, List.append_assoc, Text.cutLines_append front,
      Text.cutLines_append whole, cutLines_endLines (by decide), List.flatMap_cons,
      List.flatMap_cons, List.flatMap_nil, clean _ (by decide), clean _ (by decide)]
    rfl
  have eight : "#ifndef ".length = 8 := by decide
  unfold PacketSmith.guard?
  rw [lines]
  simp [eight]

/-- The headers that reach the compiler when some are included one after the other: a header whose
macro is defined is dropped, and the others define theirs. -/
def included (defined : List String) : List OutputFile → List OutputFile
  | [] => []
  | h :: hs =>
    match guard? h.content with
    | none => h :: included defined hs
    | some name =>
      if name ∈ defined then included defined hs else h :: included (name :: defined) hs

/-- Headers are dropped, and the others stay in their order. -/
theorem included_sublist (defined : List String) (hs : List OutputFile) :
    List.Sublist (included defined hs) hs := by
  induction hs generalizing defined with
  | nil => exact .slnil
  | cons h hs ih =>
    unfold included
    split
    · exact (ih defined).cons_cons h
    · split
      · exact (ih defined).cons h
      · exact (ih _).cons_cons h

/-- No header is dropped exactly if no two have one macro, and none of them is defined before. -/
theorem included_eq_self_iff {hs : List OutputFile} (all : ∀ h ∈ hs, guard? h.content ≠ none)
    (defined : List String) : included defined hs = hs ↔
      (hs.map (guard? ·.content)).Nodup ∧
        ∀ name ∈ defined, some name ∉ hs.map (guard? ·.content) := by
  induction hs generalizing defined with
  | nil => simp [included]
  | cons h hs ih =>
    obtain ⟨first, rest⟩ := List.forall_mem_cons.mp all
    obtain ⟨name, guard⟩ := Option.ne_none_iff_exists'.mp first
    have step : included defined (h :: hs) = if name ∈ defined then included defined hs else
        h :: included (name :: defined) hs := by
      rw [included, guard]
    rw [step, List.map_cons, guard, List.nodup_cons]
    by_cases known : name ∈ defined
    · rw [if_pos known]
      constructor
      · intro same
        have length := (included_sublist defined hs).length_le
        rw [same, List.length_cons] at length
        omega
      · rintro ⟨-, apart⟩
        exact absurd List.mem_cons_self (apart name known)
    · rw [if_neg known, List.cons_eq_cons, ih rest]
      constructor
      · rintro ⟨-, distinct, apart⟩
        obtain ⟨own, others⟩ := List.forall_mem_cons.mp apart
        refine ⟨⟨own, distinct⟩, fun other mem => ?_⟩
        rw [List.mem_cons, not_or]
        refine ⟨?_, others other mem⟩
        rintro ⟨rfl⟩
        exact known mem
      · rintro ⟨⟨own, distinct⟩, apart⟩
        refine ⟨rfl, distinct, List.forall_mem_cons.mpr ⟨own, fun other mem => ?_⟩⟩
        exact fun inside => apart other mem (List.mem_cons_of_mem _ inside)

/-- A header with the macro of each header reaches the compiler, unless the macro is defined before. -/
theorem exists_included {hs : List OutputFile} {h : OutputFile} {name : String} (mem : h ∈ hs)
    (guard : guard? h.content = some name) {defined : List String} (free : name ∉ defined) :
    ∃ k ∈ included defined hs, guard? k.content = some name := by
  induction hs generalizing defined with
  | nil => cases mem
  | cons u us ih =>
    by_cases same : guard? u.content = some name
    · refine ⟨u, ?_, same⟩
      rw [included, same]
      simp [free]
    · have inside : h ∈ us := by
        rcases List.mem_cons.mp mem with rfl | inside
        · exact absurd guard same
        · exact inside
      unfold included
      split
      · obtain ⟨k, there, found⟩ := ih inside free
        exact ⟨k, List.mem_cons_of_mem _ there, found⟩
      · rename_i other found
        split
        · exact ih inside free
        · have apart : name ∉ other :: defined := by
            rw [List.mem_cons, not_or]
            refine ⟨?_, free⟩
            rintro rfl
            exact same found
          obtain ⟨k, there, found⟩ := ih inside apart
          exact ⟨k, List.mem_cons_of_mem _ there, found⟩

/-! ### The guards of a registry -/

/-- The macro that guards the header of a name. -/
def guardOf (name : String) : String := "GALALITH_" ++ name.toUpper ++ "_H"

/-- The macro of a name whose upper-case form is known. -/
theorem guardOf_eq {name large : String} (h : name.toList.map Char.toUpper = large.toList) :
    guardOf name = "GALALITH_" ++ large ++ "_H" := by
  have same : name.toUpper = large := by
    apply String.toList_inj.mp
    rw [String.toUpper, String.toList_map, h]
  rw [guardOf, same]

/-- Names have one macro exactly if they differ in letter case at most. -/
theorem guardOf_eq_iff {a b : String} (ha : TypeName.isName a = true)
    (hb : TypeName.isName b = true) : guardOf a = guardOf b ↔ a.toLower = b.toLower := by
  rw [guardOf, guardOf, String.append_left_inj, String.append_right_inj, Text.toUpper_eq_iff ha hb]

/-- A macro is on one line. -/
theorem feed_not_mem_guardOf {name : String} (h : TypeName.isName name = true) :
    '\n' ∉ (guardOf name).toList := by
  rw [guardOf, String.toList_append, String.toList_append, String.toUpper, String.toList_map]
  simp only [List.mem_append, List.mem_map, not_or, not_exists, not_and]
  refine ⟨⟨by decide, fun c mem same => ?_⟩, by decide⟩
  have part := (Text.upperChar_of_isNamePart (TypeName.isNamePart_of_isNameList h mem)).2.1
  rw [same] at part
  exact absurd part (by decide)

/-- The header of a message is guarded by its first value. -/
theorem isGuarded_render_cppMessage (name : String) {others : List String}
    (count : others.length = 11) : ∃ content,
      Cpp.messageTemplate.render Target.templates (name :: others) = .ok content ∧
        IsGuarded ("GALALITH_" ++ name ++ "_H") content := by
  have found : Cpp.messageTemplate.template Target.templates = .ok Template.cppMessage := rfl
  have length : (name :: others).length = Cpp.messageTemplate.slots.length := by
    rw [List.length_cons, count]
    rfl
  have first := Template.valueOf_zip (by decide) length (i := 0) rfl rfl
  refine ⟨_, TemplateContract.render_eq found length, Template.renderRows
    (Cpp.messageTemplate.slots.zip (name :: others)) (Template.cppMessage.rows.drop 2).dropLast,
    isWhole_renderRows (by decide) _ _, ?_⟩
  generalize Cpp.messageTemplate.slots.zip (name :: others) = values at first ⊢
  have last : Template.cppMessage.rows.drop 2 =
    (Template.cppMessage.rows.drop 2).dropLast ++ [.line [.text "#endif"]] := rfl
  generalize (Template.cppMessage.rows.drop 2).dropLast = inner at last ⊢
  rw [Template.render_split _ _ 2, last, Template.renderRows_append]
  generalize Template.renderRows values inner = body
  have test : "#ifndef GALALITH_" = "#ifndef " ++ "GALALITH_" := by decide
  have define : "#define GALALITH_" = "#define " ++ "GALALITH_" := by decide
  simp only [Template.renderRows, Template.cppMessage, List.take_succ_cons, List.take_zero,
    List.map_cons, List.map_nil, Template.renderRow, Template.renderLine, Template.renderPart, first,
    test, define, String.join_cons, String.join_nil, String.append_empty, endLines,
    String.append_assoc]

/-- The macro of the manager. -/
theorem guardOf_manager : guardOf OutputContext.managerName = "GALALITH_PROTOCOLMANAGER_H" :=
  (@guardOf_eq _ "PROTOCOLMANAGER" (by decide)).trans (by decide)

/-- The macro of the buffer. -/
theorem guardOf_buffer : guardOf "ByteBuffer" = "GALALITH_BYTEBUFFER_H" :=
  (@guardOf_eq _ "BYTEBUFFER" (by decide)).trans (by decide)

/-- The header of the manager is guarded by its name. -/
theorem isGuarded_managerText (imports registrations : List String) :
    IsGuarded (guardOf OutputContext.managerName)
      (Target.cpp.managerText imports registrations) := by
  have front : endLines
      ["#ifndef GALALITH_PROTOCOLMANAGER_H", "#define GALALITH_PROTOCOLMANAGER_H", ""] =
      endLines ["#ifndef " ++ "GALALITH_PROTOCOLMANAGER_H",
        "#define " ++ "GALALITH_PROTOCOLMANAGER_H"] ++ endLines [""] := rfl
  have last : Template.cppManager.rows.drop 10 =
    (Template.cppManager.rows.drop 10).dropLast ++ [.line [.text "#endif"]] := rfl
  generalize (Template.cppManager.rows.drop 10).dropLast = inner at last
  refine ⟨endLines ([""] ++ imports ++
      ["", "namespace galalith \x7b", "", "    inline void initProtocol() \x7b"] ++
      registrations.map (indent 2 ++ ·)) ++ Template.renderRows [] inner, ?_, ?_⟩
  · rw [String.toList_append]
    exact (isWhole_endLines (by decide) _).append (isWhole_renderRows (by decide) _ _)
  · rw [guardOf_manager, Target.managerText, front, last, Template.renderRows_append]
    simp only [endLines_append, String.append_assoc]
    rfl

/-- The header of the buffer is guarded by its name. -/
theorem isGuarded_cppBuffer : IsGuarded (guardOf "ByteBuffer") Support.cppBuffer := by
  have lines : Support.cppBufferLines = ["#ifndef GALALITH_BYTEBUFFER_H",
    "#define GALALITH_BYTEBUFFER_H"] ++ (Support.cppBufferLines.drop 2).dropLast ++ ["#endif"] := rfl
  refine ⟨endLines (Support.cppBufferLines.drop 2).dropLast, isWhole_endLines (by decide) _, ?_⟩
  rw [guardOf_buffer]
  show endLines Support.cppBufferLines = _
  rw [lines, endLines_append, endLines_append]
  rfl

/-- The names that the headers of a registry have: those of its messages, of the manager and of the
buffer. -/
def Registry.headerNames (r : Registry) : List String :=
  r.messages.map (fun m => shown m.name) ++ Target.cpp.ownNames

namespace OutputContext

variable {x : OutputContext} {r : Registry} (target : x.target = .cpp)

include target

/-- The header of a message is guarded by the message's name. -/
theorem isGuarded_of_messageFile {m : Message} (name : m.name.any TypeName.isName = true)
    {file : OutputFile} (laid : x.messageFile r m = .ok file) :
    IsGuarded (guardOf (shown m.name)) file.content := by
  obtain ⟨n, given, isName⟩ := (Option.any_eq_true _ _).mp name
  unfold messageFile at laid
  obtain ⟨p, parts, laid⟩ := exists_of_bind_eq_ok laid
  obtain ⟨values, taken, laid⟩ := exists_of_bind_eq_ok laid
  obtain ⟨content, rendered, laid⟩ := exists_of_bind_eq_ok laid
  obtain ⟨_, -, laid⟩ := exists_of_bind_eq_ok laid
  obtain ⟨path, -, laid⟩ := exists_of_bind_eq_ok laid
  cases laid
  obtain ⟨-, -, message, -, -⟩ := exists_of_messageParts parts
  rw [target] at taken rendered
  obtain ⟨others, count, values⟩ := Cpp.exists_messageValues (message ▸ given)
  obtain rfl := Except.ok.inj (taken.symm.trans values)
  have length : (Cpp.rootDirectory :: p.dependencies :: others).length = 11 := by simp [count]
  obtain ⟨content', rendered', guarded⟩ := isGuarded_render_cppMessage (Text.upper n) length
  obtain rfl := Except.ok.inj (rendered.symm.trans rendered')
  rw [Text.upper_of_isName isName] at guarded
  rw [given]
  exact guarded

/-- The macros of the headers of messages. -/
theorem guards_of_messages {ms : List Message}
    (names : ∀ m ∈ ms, m.name.any TypeName.isName = true) {files : List OutputFile}
    (laid : List.Forall₂ (fun m file => x.messageFile r m = .ok file) ms files) :
    files.map (guard? ·.content) = ms.map fun m => some (guardOf (shown m.name)) := by
  induction laid with
  | nil => rfl
  | cons first _ ih =>
    obtain ⟨named, rest⟩ := List.forall_mem_cons.mp names
    obtain ⟨n, given, isName⟩ := (Option.any_eq_true _ _).mp named
    rw [List.map_cons, List.map_cons, ih rest,
      (isGuarded_of_messageFile target named first).guard?]
    rw [given]
    exact feed_not_mem_guardOf isName

/-- The macros of the headers of a registry, in their order. -/
theorem guards_of_files (names : ∀ m ∈ r.messages, m.name.any TypeName.isName = true)
    {files : List OutputFile} (laid : x.files r = .ok files) :
    files.map (guard? ·.content) = r.headerNames.map fun name => some (guardOf name) := by
  obtain ⟨messages, made, laid⟩ := exists_of_bind_eq_ok laid
  obtain ⟨manager, registers, laid⟩ := exists_of_bind_eq_ok laid
  cases laid
  have first := guards_of_messages target names (forall₂_of_mapM_eq_ok made)
  obtain ⟨imports, -, rfl⟩ := exists_of_managerFile registers
  have second := (isGuarded_managerText (Target.cpp.ownImports ++ imports.eraseDups)
    (r.messages.map Target.cpp.registration)).guard? (feed_not_mem_guardOf (by decide))
  have third := isGuarded_cppBuffer.guard? (feed_not_mem_guardOf (by decide))
  rw [Registry.headerNames, List.map_append, List.map_append, List.map_append, first,
    supportFiles_eq target, List.map_map, List.append_assoc, target]
  refine congrArg (_ ++ ·) ?_
  rw [List.map_singleton, List.map_singleton, second, third]
  rfl

/-- The macros of a registry's headers are distinct exactly if the names of its messages, of the
manager and of the buffer differ in more than letter case. Exactly then no header is dropped when
some of them are included, in any order. Then every header reaches the compiler, also if some are
included again. -/
theorem nodup_guards_iff (names : ∀ m ∈ r.messages, m.name.any TypeName.isName = true)
    {files : List OutputFile} (laid : x.files r = .ok files) :
    files.map (guard? ·.content) = r.headerNames.map (fun name => some (guardOf name)) ∧
    ((files.map (guard? ·.content)).Nodup ↔
      r.headerNames.Pairwise fun a b => a.toLower ≠ b.toLower) ∧
    ((files.map (guard? ·.content)).Nodup ↔ ∀ hs, List.Subperm hs files → included [] hs = hs) ∧
    ((files.map (guard? ·.content)).Nodup → ∀ hs, hs ⊆ files → ∀ h ∈ hs, h ∈ included [] hs) := by
  have guards := guards_of_files target names laid
  have owned : ∀ name ∈ Target.cpp.ownNames, TypeName.isName name = true := by decide
  have isName : ∀ name ∈ r.headerNames, TypeName.isName name = true := by
    intro name mem
    rcases List.mem_append.mp mem with message | own
    · obtain ⟨m, hm, rfl⟩ := List.mem_map.mp message
      obtain ⟨n, given, isName⟩ := (Option.any_eq_true _ _).mp (names m hm)
      rw [given]
      exact isName
    · exact owned name own
  have all : ∀ h ∈ files, guard? h.content ≠ none := by
    intro h mem
    have inside : guard? h.content ∈ files.map (guard? ·.content) := List.mem_map.mpr ⟨h, mem, rfl⟩
    rw [guards] at inside
    obtain ⟨name, -, same⟩ := List.mem_map.mp inside
    rw [← same]
    simp
  refine ⟨guards, ?_, ?_, ?_⟩
  · rw [guards, List.Nodup, List.pairwise_map]
    apply List.Pairwise.iff_of_mem
    intro a b ha hb
    rw [ne_eq, ne_eq, Option.some.injEq, guardOf_eq_iff (isName a ha) (isName b hb)]
  · constructor
    · intro distinct hs part
      rw [included_eq_self_iff fun h mem => all h (part.subset mem)]
      obtain ⟨chosen, perm, sub⟩ := part
      exact ⟨(perm.map _).nodup_iff.mp (distinct.sublist (sub.map _)), by simp⟩
    · intro kept
      exact ((included_eq_self_iff all []).mp (kept files (.refl files))).1
  · intro distinct hs part h mem
    obtain ⟨name, guard⟩ := Option.ne_none_iff_exists'.mp (all h (part mem))
    obtain ⟨k, there, same⟩ := exists_included mem guard (List.not_mem_nil (a := name))
    have inside : k ∈ files := part ((included_sublist [] hs).subset there)
    obtain rfl := List.inj_on_of_nodup_map distinct inside (part mem) (same.trans guard.symm)
    exact there

omit target

/-- The five headers of the sample are all included, whatever their order. -/
theorem nodup_guards_iff_modules : ∃ (r : Registry) (x : OutputContext) (files : List OutputFile),
    Registry.ofDefinition Sample.modules = .ok r ∧ x.target = .cpp ∧
    (∀ m ∈ r.messages, m.name.any TypeName.isName = true) ∧ x.files r = .ok files ∧
    files.map (guard? ·.content) = [some "GALALITH_LOGIN_H", some "GALALITH_BAG_H",
      some "GALALITH_OWNER_H", some "GALALITH_PROTOCOLMANAGER_H", some "GALALITH_BYTEBUFFER_H"] ∧
    included [] files.reverse = files.reverse := by
  have facts : ∀ r, Registry.ofDefinition Sample.modules = .ok r →
      (∀ m ∈ r.messages, m.name.any TypeName.isName = true) ∧
      (∀ m ∈ r.messages, m.id ≠ .null ∧ m.name ≠ none ∧ m.module ≠ none) ∧
      r.headerNames = ["Login", "Bag", "Owner", "ProtocolManager", "ByteBuffer"] ∧
      ∃ found, r.messages.mapM (fun m => r.dependencies m.id) = .ok found := by
    intro r made
    obtain rfl := Except.ok.inj (made.symm.trans (by cbv))
    exact ⟨by decide, by decide, by decide, _, by cbv⟩
  obtain ⟨r, made⟩ : ∃ r, Registry.ofDefinition Sample.modules = .ok r := ⟨_, by cbv⟩
  obtain ⟨names, given, headers, found, told⟩ := facts r made
  obtain ⟨x, target, -, prepared⟩ := exists_isRooted .cpp
  obtain ⟨files, laid⟩ := exists_files_of_dependencies (Registry.isBuilt_of_ofDefinition made)
    (fun m hm => (given m hm).2.2) prepared (fun m hm => (given m hm).1)
    (fun m hm => (given m hm).2.1) told
  obtain ⟨guards, -, kept, -⟩ := nodup_guards_iff target names laid
  have login : guardOf "Login" = "GALALITH_LOGIN_H" :=
    (@guardOf_eq _ "LOGIN" (by decide)).trans (by decide)
  have bag : guardOf "Bag" = "GALALITH_BAG_H" := (@guardOf_eq _ "BAG" (by decide)).trans (by decide)
  have owner : guardOf "Owner" = "GALALITH_OWNER_H" :=
    (@guardOf_eq _ "OWNER" (by decide)).trans (by decide)
  have manager : guardOf "ProtocolManager" = "GALALITH_PROTOCOLMANAGER_H" := guardOf_manager
  rw [headers] at guards
  simp only [List.map_cons, List.map_nil, login, bag, owner, manager, guardOf_buffer] at guards
  refine ⟨r, x, files, made, target, names, laid, guards, ?_⟩
  refine kept.mp ?_ _ files.reverse_perm.subperm
  rw [guards]
  decide

namespace Sample

/-- Two messages in two directories, whose names differ in letter case alone. -/
def letterCase : RegistryDefinition where
  messages := some [
    { id := .number 1, name := some "Item", module := some "shop" },
    { id := .number 2, name := some "ITEM", module := some "bag" }]

end Sample

/-- Of two messages whose names differ in letter case alone, the header that is included last is
dropped. -/
theorem header_dropped_by_letter_case :
    ∃ (r : Registry) (x : OutputContext) (files : List OutputFile) (a b : OutputFile),
      Registry.ofDefinition Sample.letterCase = .ok r ∧ x.target = .cpp ∧
      (∀ m ∈ r.messages, m.IsPlaced) ∧ x.files r = .ok files ∧ a ∈ files ∧ b ∈ files ∧
      a.path ≠ b.path ∧ guard? a.content = guard? b.content ∧ included [] [a, b] = [a] := by
  have facts : ∀ r, Registry.ofDefinition Sample.letterCase = .ok r →
      (∀ m ∈ r.messages, m.IsPlaced) ∧
      (∀ m ∈ r.messages, m.id ≠ .null ∧ m.name ≠ none ∧ m.module ≠ none) ∧
      (∃ m ∈ r.messages, ∃ n ∈ r.messages, m.name = some "Item" ∧ n.name = some "ITEM") ∧
      ∃ found, r.messages.mapM (fun m => r.dependencies m.id) = .ok found := by
    intro r made
    obtain rfl := Except.ok.inj (made.symm.trans (by cbv))
    exact ⟨by decide, by decide, ⟨_, .head _, _, .tail _ (.head _), rfl, rfl⟩, _, by cbv⟩
  obtain ⟨r, made⟩ : ∃ r, Registry.ofDefinition Sample.letterCase = .ok r := ⟨_, by cbv⟩
  obtain ⟨placed, given, ⟨m, hm, n, hn, nameM, nameN⟩, found, told⟩ := facts r made
  obtain ⟨x, target, -, prepared⟩ := exists_isRooted .cpp
  obtain ⟨files, laid⟩ := exists_files_of_dependencies (Registry.isBuilt_of_ofDefinition made)
    (fun m hm => (given m hm).2.2) prepared (fun m hm => (given m hm).1)
    (fun m hm => (given m hm).2.1) told
  obtain ⟨a, memA, laidA⟩ := (mem_files laid).1 m hm
  obtain ⟨b, memB, laidB⟩ := (mem_files laid).1 n hn
  have guardA := (isGuarded_of_messageFile target (placed m hm).name laidA).guard?
    (feed_not_mem_guardOf (placed m hm).isName)
  have guardB := (isGuarded_of_messageFile target (placed n hn).name laidB).guard?
    (feed_not_mem_guardOf (placed n hn).isName)
  rw [nameM, @guardOf_eq (shown (some "Item")) "ITEM" (by decide)] at guardA
  rw [nameN, @guardOf_eq (shown (some "ITEM")) "ITEM" (by decide)] at guardB
  refine ⟨r, x, files, a, b, made, target, placed, laid, memA, memB, ?_, guardA.trans guardB.symm,
    ?_⟩
  · rw [← eq_path_of_messageFile (placed m hm) laidA, ← eq_path_of_messageFile (placed n hn) laidB]
    intro paths
    have names := name_of_pathOf_eq (placed m hm) (placed n hn) paths
    rw [nameM, nameN] at names
    exact absurd names (by decide)
  · simp [included, guardA, guardB]

end OutputContext

end PacketSmith
