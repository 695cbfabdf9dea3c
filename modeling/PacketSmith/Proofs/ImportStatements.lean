import PacketSmith.Proofs.RegistryFiles

/-!
# Reading import statements

An import statement is read as its language reads it (`Target.readImport?`): a C++ include is a path
between quotation marks, a TypeScript import binds a name, which is no reserved word, to what a path
between single quotation marks leads to. The path of a statement, its way, goes up to the closing mark.
No end of a line may be met in it, and no backslash, which changes what is behind it.

What is written for a name and a way is read back as them (`readImport?_importOf`), if no character of
the way breaks it (`Target.breaking`). The ways of generated statements have the characters of
names and of the directories of messages, so this comes down to the modules of messages
(`Message.IsImportable`).
-/

namespace PacketSmith

namespace Target

/-- The mark around the way of an import. -/
def wayMark : Target → Char
  | cpp => '"'
  | typescript => '\''

/-- The characters that a way cannot have: the mark around it, the backslash, and ends of lines. -/
def breaking : Target → List Char
  | cpp => ['"', '\\', '\n', '\r']
  | typescript => ['\'', '\\', '\n', '\r', '\u2028', '\u2029']

/-- The character can stand in a way. -/
def isWayChar (t : Target) (c : Char) : Bool := !t.breaking.contains c

/-- The way between marks at the front of some characters, and the characters behind it. -/
def readWay? (t : Target) : List Char → Option (String × List Char)
  | [] => none
  | mark :: cs =>
    match cs.dropWhile t.isWayChar with
    | [] => none
    | last :: rest =>
      if mark == t.wayMark && last == t.wayMark then
        some (String.ofList (cs.takeWhile t.isWayChar), rest)
      else none

/-- The words that an import of TypeScript cannot bind. -/
def reservedWords : List String := [
  "arguments", "await", "break", "case", "catch", "class", "const", "continue", "debugger", "default",
  "delete", "do", "else", "enum", "eval", "export", "extends", "false", "finally", "for", "function",
  "if", "implements", "import", "in", "instanceof", "interface", "let", "new", "null", "package",
  "private", "protected", "public", "return", "static", "super", "switch", "this", "throw", "true",
  "try", "typeof", "var", "void", "while", "with", "yield"]

/-- The name that an import statement binds, if its language binds one, and its way. -/
def readImport? : Target → String → Option (Option String × String)
  | cpp, s => do
    let cs ← s.toList.dropPrefix? "#include ".toList
    let (way, rest) ← cpp.readWay? cs
    if rest.isEmpty then some (none, way) else none
  | typescript, s => do
    let cs ← s.toList.dropPrefix? "import ".toList
    let name := String.ofList (cs.takeWhile TypeName.isNamePart)
    let cs ← (cs.dropWhile TypeName.isNamePart).dropPrefix? " from ".toList
    let (way, rest) ← typescript.readWay? cs
    if TypeName.isName name && !reservedWords.contains name && rest == [';'] then
      some (some name, way)
    else none

/-- The name can be bound by an import. -/
def Binds : Target → String → Prop
  | cpp, _ => True
  | typescript, name => TypeName.isName name = true ∧ name ∉ reservedWords

instance (t : Target) (name : String) : Decidable (t.Binds name) :=
  match t with
  | cpp => inferInstanceAs (Decidable True)
  | typescript => inferInstanceAs (Decidable (_ ∧ _))

/-- The name that is read back from the statement for a name. -/
def bound : Target → String → Option String
  | cpp, _ => none
  | typescript, name => some name

/-- A way between marks is read back, with anything behind it. -/
theorem readWay?_append {t : Target} {way : String} (plain : ∀ c ∈ way.toList, c ∉ t.breaking)
    (rest : List Char) :
    t.readWay? (t.wayMark :: (way.toList ++ t.wayMark :: rest)) = some (way, rest) := by
  have chars : ∀ c ∈ way.toList, t.isWayChar c = true := by
    intro c mem
    simpa [isWayChar] using plain c mem
  have mark : t.isWayChar t.wayMark = false := by cases t <;> decide
  rw [readWay?, List.dropWhile_append_of_pos chars, List.takeWhile_append_of_pos chars]
  simp [mark]

/-- The statement for a name and a way is read back as them. -/
theorem readImport?_importOf {t : Target} {name way : String} (binds : t.Binds name)
    (plain : ∀ c ∈ way.toList, c ∉ t.breaking) :
    t.readImport? (t.importOf name way) = some (t.bound name, way) := by
  cases t with
  | cpp =>
    have chars : (cpp.importOf name way).toList =
        "#include ".toList ++ (cpp.wayMark :: (way.toList ++ cpp.wayMark :: [])) := by
      simp [importOf, wayMark]
    simp only [readImport?, chars, List.dropPrefix?_append_of_beq _ (BEq.refl "#include ".toList),
      Option.bind_eq_bind, Option.bind_some, readWay?_append plain]
    rfl
  | typescript =>
    obtain ⟨isName, free⟩ := binds
    have chars : (typescript.importOf name way).toList = "import ".toList ++ (name.toList ++
        (" from ".toList ++ (typescript.wayMark :: (way.toList ++ typescript.wayMark :: [';'])))) := by
      simp [importOf, wayMark]
    -- the name ends at the blank behind it
    have parts : ∀ c ∈ name.toList, TypeName.isNamePart c = true :=
      fun c mem => TypeName.isNamePart_of_isNameList isName mem
    have blank : TypeName.isNamePart ' ' = false := by decide
    have ends : ∀ cs, (" from ".toList ++ cs).takeWhile TypeName.isNamePart = [] ∧
        (" from ".toList ++ cs).dropWhile TypeName.isNamePart = " from ".toList ++ cs := by
      intro cs
      simp [blank]
    simp only [readImport?, chars, List.dropPrefix?_append_of_beq _ (BEq.refl "import ".toList),
      List.takeWhile_append_of_pos parts, List.dropWhile_append_of_pos parts, ends, List.append_nil,
      List.dropPrefix?_append_of_beq _ (BEq.refl " from ".toList), Option.bind_eq_bind,
      Option.bind_some, readWay?_append plain, String.ofList_toList]
    simp [isName, free, bound]

end Target

/-- The message can be imported: its name can be bound, and its module has nothing that breaks a way.
Backslashes divide a module, so they are not left in its directory. -/
structure Message.IsImportable (t : Target) (m : Message) : Prop where
  /-- The name can be bound. -/
  name : t.Binds (shown m.name)
  /-- The module has no mark and no end of a line. -/
  module : ∀ c ∈ (m.module.getD "").toList, c ∈ t.breaking → c = '\\'

instance (t : Target) (m : Message) : Decidable (m.IsImportable t) :=
  decidable_of_iff (t.Binds (shown m.name) ∧
      (m.module.getD "").toList.all (fun c => decide (c ∈ t.breaking → c = '\\')) = true) <| by
    simp only [List.all_eq_true, decide_eq_true_eq]
    exact ⟨fun h => ⟨h.1, h.2⟩, fun h => ⟨h.name, h.module⟩⟩

/-- The character is one of those that ways to the message are made of: slashes, dots, characters of
names, and those of the message's directory. -/
def Message.HasChar (b : Message) (c : Char) : Prop :=
  c = '/' ∨ c = '.' ∨ TypeName.isNamePart c = true ∨ ∃ u ∈ b.segments, c ∈ u.toList

namespace Message

variable {t : Target} {b : Message}

/-- What ways to a message are made of does not break them. -/
theorem IsImportable.not_mem_breaking (h : b.IsImportable t) {c : Char} (own : b.HasChar c) :
    c ∉ t.breaking := by
  have marks : ∀ c ∈ t.breaking, c ≠ '/' ∧ c ≠ '.' ∧ TypeName.isNamePart c = false ∧
      Text.isMark c.toNat = true := by
    cases t <;> simp [Target.breaking, TypeName.isNamePart, TypeName.isNameStart, Text.isMark]
  intro breaks
  obtain ⟨slash, dot, part, mark⟩ := marks c breaks
  rcases own with rfl | rfl | isPart | ⟨u, segment, inside⟩
  · exact slash rfl
  · exact dot rfl
  · rw [part] at isPart
    cases isPart
  · have there : c ∈ (b.module.getD "").toList := by
      by_contra out
      exact Path.not_mem_directorySegments mark out segment inside
    obtain rfl := h.module c there breaks
    exact absurd ((Path.of_mem_directorySegments segment).2 _ inside) (by decide)

/-- A text of dots and characters of names. -/
theorem hasChar_of_plain {s : String}
    (plain : s.toList.all (fun c => c == '.' || TypeName.isNamePart c) = true) :
    ∀ c ∈ s.toList, b.HasChar c := by
  intro c mem
  have own := List.all_eq_true.mp plain c mem
  rw [Bool.or_eq_true, beq_iff_eq] at own
  exact .inr (own.imp_right .inl)

theorem hasChar_of_isName {name : String} (h : TypeName.isName name = true) :
    ∀ c ∈ name.toList, b.HasChar c :=
  fun _ mem => .inr (.inr (.inl (TypeName.isNamePart_of_isNameList h mem)))

/-- The directory of the message. -/
theorem hasChar_of_mem_directory :
    ∀ c ∈ (Path.directory (b.module.getD "")).toList, b.HasChar c := by
  intro c mem
  by_cases slash : c = '/'
  · exact .inl slash
  · exact .inr (.inr (.inr ((Path.mem_joined_iff slash _).mp mem)))

/-- The relative way to the directory of the message. -/
theorem hasChar_of_mem_relative {source : String} :
    ∀ c ∈ (Path.relative source (Path.directory (b.module.getD ""))).toList, b.HasChar c := by
  intro c mem
  by_cases slash : c = '/'
  · exact .inl slash
  by_cases dot : c = '.'
  · exact .inr (.inl dot)
  exact .inr (.inr (.inr (Path.exists_mem_of_mem_relative slash dot mem)))

/-- Parts that are joined. -/
theorem hasChar_of_mem_join {parts : List String} (h : ∀ s ∈ parts, ∀ c ∈ s.toList, b.HasChar c) :
    ∀ c ∈ (Path.join parts).toList, b.HasChar c := by
  intro c mem
  by_cases slash : c = '/'
  · exact .inl slash
  obtain ⟨s, part, inside⟩ := Path.exists_mem_of_mem_join slash mem
  exact h s part c inside

end Message

end PacketSmith
