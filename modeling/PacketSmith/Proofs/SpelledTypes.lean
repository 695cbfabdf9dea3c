import PacketSmith.Proofs.NameCapture
import PacketSmith.Proofs.RegistryStability
import PacketSmith.Proofs.Temporaries

/-!
# A C++ type tells the wire format

Fields whose types are spelled alike in C++ travel alike (`unnamed_eq_of_spell`): their types differ
in the names of scalars alone, and the code of the one is that of the other, with another source and
other numbers.

The spelling of a type is itself the text of a type name (`Cpp.typeName`), and a text is read in one
way, so types with one spelling have one such name. The name tells the tag of every node, because
containers have heads of their own and scalars have words of their own, unless a message is named by
such a word; and the names of messages tell their ids (`alike_of_typeName`).
-/

namespace PacketSmith

open Code

/-! ### The name that is spelled -/

namespace Cpp

/-- The words of scalars that are no names of scalars themselves. -/
def freeWords : List String := ["bool", "int8_t", "int16_t", "int32_t", "int64_t", "string"]

theorem scalarWord_inj {a b : Scalar} (h : scalarWord a = scalarWord b) : a = b := by
  cases a <;> cases b <;> first | rfl | exact absurd h (by decide)

theorem sequenceWord_inj {a b : Sequence} (h : sequenceWord a = sequenceWord b) : a = b := by
  cases a <;> cases b <;> first | rfl | exact absurd h (by decide)

theorem sequenceWord_ne_map (kind : Sequence) : sequenceWord kind ≠ "map" := by
  cases kind <;> decide

/-- The type name whose text is the C++ spelling of a type. -/
def typeName : WireType → TypeName
  | .mk (.scalar kind) _ _ _ => .simple (scalarWord kind)
  | .mk (.sequence kind) _ [e] _ => .mk (sequenceWord kind) [typeName e]
  | .mk .map _ [k, v] _ => .mk "map" [typeName k, typeName v]
  | .mk _ name _ _ => name

theorem text?_simple {text : String} (h : TypeName.isName text = true) :
    (TypeName.simple text).text? = some text := by
  rw [TypeName.simple, TypeName.text?, if_neg (by simpa using TypeName.ne_arrayHead_of_isName h)]

/-- A resolved type is spelled by the text of its C++ name. -/
theorem exists_spelled {ids : TypeName.MessageIds} {w : WireType} (h : w.Resolved ids) :
    ∃ text, spelling.spell w.name = .ok text ∧ (typeName w).text? = some text ∧
      (typeName w).WellFormed := by
  induction h with
  | @scalar spelled kind found =>
    obtain ⟨before, after, split, -⟩ := List.lookup_eq_some_iff.mp found
    obtain ⟨name, same, -⟩ := lookup_primitives (spelled, kind) (by simp [split])
    have made : TypeName.isName (scalarWord kind) = true := by cases kind <;> decide
    exact ⟨_, (Spelling.spell_name name).trans (congrArg Except.ok same), text?_simple made,
      .simple made⟩
  | @sequence kind e _ ih =>
    obtain ⟨text, spelled, printed, wellFormed⟩ := ih
    have name : TypeName.isName (sequenceWord kind) = true := by cases kind <;> decide
    have texts : TypeName.texts? [typeName e] = some [text] := by
      rw [TypeName.texts?, printed]
      rfl
    refine ⟨_, spell_sequence kind spelled, ?_, .named name (by simpa using wellFormed)⟩
    rw [typeName, Spelling.text?_generic name texts, String.intercalate_singleton]
  | @map k v _ _ ihk ihv =>
    obtain ⟨a, spelledKey, printedKey, key⟩ := ihk
    obtain ⟨b, spelledValue, printedValue, value⟩ := ihv
    have texts : TypeName.texts? [typeName k, typeName v] = some [a, b] := by
      rw [TypeName.texts?, printedKey, TypeName.texts?, printedValue]
      rfl
    refine ⟨_, spell_map spelledKey spelledValue, ?_,
      .named (by decide) (by simpa using ⟨key, value⟩)⟩
    rw [typeName, Spelling.text?_generic (by decide) texts]
    rfl
  | @message head id name other _ =>
    exact ⟨_, Script.spell_message .cpp name other, text?_simple name, .simple name⟩

/-- Types that are spelled alike have one C++ name. -/
theorem typeName_eq_of_spell {ids : TypeName.MessageIds} {w v : WireType} (hw : w.Resolved ids)
    (hv : v.Resolved ids) (same : spelling.spell w.name = spelling.spell v.name) :
    typeName w = typeName v := by
  obtain ⟨text, spelled, printed, wellFormed⟩ := exists_spelled hw
  obtain ⟨other, spelledOther, printedOther, wellFormedOther⟩ := exists_spelled hv
  obtain rfl : text = other := Except.ok.inj ((spelled.symm.trans same).trans spelledOther)
  -- a text is read as the type name it is printed from
  obtain ⟨_, print, read⟩ := TypeName.exists_text_of_wellFormed wellFormed
  obtain ⟨_, printOther, readOther⟩ := TypeName.exists_text_of_wellFormed wellFormedOther
  obtain rfl := Option.some.inj (print.symm.trans printed)
  obtain rfl := Option.some.inj (printOther.symm.trans printedOther)
  exact Option.some.inj (read.symm.trans readOther)

end Cpp

/-! ### Types that are alike -/

mutual

/-- The type without the names in it: tags, ids and parameters of every node. -/
def WireType.unnamed : WireType → WireType
  | .mk tag _ params id => .mk tag (.simple "") (unnamedAll params) id

/-- The types without the names in them. -/
def WireType.unnamedAll : List WireType → List WireType
  | [] => []
  | w :: ws => w.unnamed :: unnamedAll ws

end

/-- The types have the same tags and ids at every node, and each node is spelled alike. -/
inductive WireType.Alike (sp : Spelling) : WireType → WireType → Prop where
  | scalar {kind : Scalar} {a b : TypeName} : sp.spell a = sp.spell b →
      Alike sp (.mk (.scalar kind) a [] .null) (.mk (.scalar kind) b [] .null)
  | sequence {kind : Sequence} {a b : TypeName} {e f : WireType} : sp.spell a = sp.spell b →
      Alike sp e f → Alike sp (.mk (.sequence kind) a [e] .null) (.mk (.sequence kind) b [f] .null)
  | map {a b : TypeName} {k l v w : WireType} : sp.spell a = sp.spell b → Alike sp k l →
      Alike sp v w → Alike sp (.mk .map a [k, v] .null) (.mk .map b [l, w] .null)
  | message {a : TypeName} {id : MessageId} : Alike sp (.mk .message a [] id) (.mk .message a [] id)

namespace WireType

variable {sp : Spelling} {ids : TypeName.MessageIds} {w v : WireType}

theorem Alike.unnamed_eq (h : Alike sp w v) : w.unnamed = v.unnamed := by
  induction h with
  | scalar _ => rfl
  | sequence _ _ ih => simp only [unnamed, unnamedAll, ih]
  | map _ _ _ ihk ihv => simp only [unnamed, unnamedAll, ihk, ihv]
  | message => rfl

/-- Types of one C++ name are spelled alike. -/
theorem spell_eq_of_typeName (hw : w.Resolved ids) (hv : v.Resolved ids)
    (same : Cpp.typeName w = Cpp.typeName v) :
    Cpp.spelling.spell w.name = Cpp.spelling.spell v.name := by
  obtain ⟨text, spelled, printed, -⟩ := Cpp.exists_spelled hw
  obtain ⟨other, spelledOther, printedOther, -⟩ := Cpp.exists_spelled hv
  rw [same, printedOther] at printed
  rw [spelled, spelledOther, Option.some.inj printed]

/-- No message has the word of a scalar as its name: the word is free, or the name of a scalar. -/
theorem ne_word_of_lookup (free : ∀ name ∈ Cpp.freeWords, ids.lookup name = none) {name : String}
    {id : MessageId} (other : TypeName.primitives.lookup name = none)
    (found : ids.lookup name = some id) (kind : Scalar) : name ≠ Cpp.scalarWord kind := by
  rintro rfl
  have cases : Cpp.scalarWord kind ∈ Cpp.freeWords ∨
      TypeName.primitives.lookup (Cpp.scalarWord kind) ≠ none := by
    cases kind <;> decide
  rcases cases with word | taken
  · cases found.symm.trans (free _ word)
  · exact taken other

/-- Types of one C++ name are alike, if no message is named by the word of a scalar. -/
theorem alike_of_typeName (free : ∀ name ∈ Cpp.freeWords, ids.lookup name = none)
    (hw : w.Resolved ids) (hv : v.Resolved ids) (same : Cpp.typeName w = Cpp.typeName v) :
    Alike Cpp.spelling w v := by
  induction hw generalizing v with
  | @scalar a kind found =>
    have whole := spell_eq_of_typeName (.scalar found) hv same
    cases hv with
    | @scalar b other _ =>
      obtain rfl := Cpp.scalarWord_inj (TypeName.mk.inj same).1
      exact .scalar whole
    | sequence _ => cases (TypeName.mk.inj same).2
    | map _ _ => cases (TypeName.mk.inj same).2
    | message _ other given =>
      exact absurd (TypeName.mk.inj same).1.symm (ne_word_of_lookup free other given kind)
  | @sequence kind e he ih =>
    have whole := spell_eq_of_typeName (.sequence he) hv same
    cases hv with
    | scalar _ => cases (TypeName.mk.inj same).2
    | @sequence other f hf =>
      obtain ⟨heads, params⟩ := TypeName.mk.inj same
      obtain rfl := Cpp.sequenceWord_inj heads
      exact .sequence whole (ih hf (List.cons.inj params).1)
    | map _ _ => exact absurd (TypeName.mk.inj same).1 (Cpp.sequenceWord_ne_map kind)
    | message _ _ _ => cases (TypeName.mk.inj same).2
  | @map k l hk hl ihk ihl =>
    have whole := spell_eq_of_typeName (.map hk hl) hv same
    cases hv with
    | scalar _ => cases (TypeName.mk.inj same).2
    | @sequence other f hf =>
      exact absurd (TypeName.mk.inj same).1.symm (Cpp.sequenceWord_ne_map other)
    | map hk' hl' =>
      obtain ⟨key, rest⟩ := List.cons.inj (TypeName.mk.inj same).2
      exact .map whole (ihk hk' key) (ihl hl' (List.cons.inj rest).1)
    | message _ _ _ => cases (TypeName.mk.inj same).2
  | @message head id name other found =>
    cases hv with
    | @scalar b kind _ =>
      exact absurd (TypeName.mk.inj same).1 (ne_word_of_lookup free other found kind)
    | sequence _ => cases (TypeName.mk.inj same).2
    | map _ _ => cases (TypeName.mk.inj same).2
    | message _ _ given =>
      obtain rfl := (TypeName.mk.inj same).1
      obtain rfl := Option.some.inj (found.symm.trans given)
      exact .message

end WireType

/-! ### Code with another source and other numbers -/

namespace Code

/-- The expression with its number moved; one without a number gives way to the source. -/
def Expr.moved : Expr → (source : Expr) → (d : Nat) → Expr
  | text _, source, _ => source
  | field _, source, _ => source
  | element n, _, d => element (n + d)
  | key n, _, d => key (n + d)
  | value n, _, d => value (n + d)
  | result n, _, d => result (n + d)

/-- The statement with another source and with its numbers moved. -/
def Statement.moved (source : Expr) (d : Nat) : Statement → Statement
  | writeScalar kind e => writeScalar kind (e.moved source d)
  | writeSize kind e => writeSize kind (e.moved source d)
  | forElements n e => forElements (n + d) (e.moved source d)
  | forEntries n e => forEntries (n + d) (e.moved source d)
  | writeMessage e id => writeMessage (e.moved source d) id
  | readScalar n kind type => readScalar (n + d) kind type
  | newContainer n type => newContainer (n + d) type
  | readSize n => readSize (n + d)
  | forCount n => forCount (n + d)
  | addElement n kind e => addElement (n + d) kind (e.moved source d)
  | addEntry n k v => addEntry (n + d) (k.moved source d) (v.moved source d)
  | readMessage n id type => readMessage (n + d) id type
  | store name e => store name (e.moved source d)
  | s => s

/-- The line with another source and with its numbers moved. -/
def Line.moved (source : Expr) (d : Nat) (l : Line) : Line := ⟨l.depth, l.statement.moved source d⟩

theorem Expr.moved_of_temporary? {e : Expr} (h : e.temporary? = none) (source : Expr) (d : Nat) :
    e.moved source d = source := by
  cases e <;> first | rfl | cases h

variable {t : Target} {w v : WireType} {e : Expr} {depth : Int} {n next other : Nat}
  {ls ms : List Line}

/-- The lines that write a value are told by the type, the source, the depth and the counter. -/
theorem WriteLines.unique (h : WriteLines w e depth n ls next)
    (k : WriteLines w e depth n ms other) :
    ls = ms ∧ next = other := by
  induction h generalizing ms other with
  | scalar =>
    cases k
    exact ⟨rfl, rfl⟩
  | sequence _ ih =>
    obtain - | inner := k
    obtain ⟨rfl, rfl⟩ := ih inner
    exact ⟨rfl, rfl⟩
  | map _ _ ihk ihv =>
    cases k with
    | map keys values =>
      obtain ⟨rfl, rfl⟩ := ihk keys
      obtain ⟨rfl, rfl⟩ := ihv values
      exact ⟨rfl, rfl⟩
  | message =>
    cases k
    exact ⟨rfl, rfl⟩

/-- So are the lines that read one. -/
theorem ReadLines.unique (h : ReadLines t w depth n ls next) (k : ReadLines t w depth n ms other) :
    ls = ms ∧ next = other := by
  induction h generalizing ms other with
  | scalar spelled =>
    cases k with
    | scalar again =>
      obtain rfl := Except.ok.inj (spelled.symm.trans again)
      exact ⟨rfl, rfl⟩
  | sequence spelled _ ih =>
    cases k with
    | sequence again inner =>
      obtain rfl := Except.ok.inj (spelled.symm.trans again)
      obtain ⟨rfl, rfl⟩ := ih inner
      exact ⟨rfl, rfl⟩
  | map spelled _ _ ihk ihv =>
    cases k with
    | map again keys values =>
      obtain rfl := Except.ok.inj (spelled.symm.trans again)
      obtain ⟨rfl, rfl⟩ := ihk keys
      obtain ⟨rfl, rfl⟩ := ihv values
      exact ⟨rfl, rfl⟩
  | message spelled =>
    cases k with
    | message again =>
      obtain rfl := Except.ok.inj (spelled.symm.trans again)
      exact ⟨rfl, rfl⟩

/-- Types that are alike are written by the same lines, from another source and another number. -/
theorem WriteLines.moved {sp : Spelling} (alike : w.Alike sp v) (h : WriteLines w e depth n ls next)
    (source : Expr) (d : Nat) : WriteLines v (e.moved source d) depth (n + d)
      (ls.map (Line.moved source d)) (next + d) := by
  induction alike generalizing e depth n ls next with
  | scalar _ =>
    cases h
    exact .scalar
  | sequence _ _ ih =>
    obtain - | inner := h
    have body := ih inner
    rw [Nat.add_right_comm] at body
    simpa [Line.moved, Statement.moved] using WriteLines.sequence body
  | map _ _ _ ihk ihv =>
    cases h with
    | map keys values =>
      have first := ihk keys
      rw [Nat.add_right_comm] at first
      simpa [Line.moved, Statement.moved] using WriteLines.map first (ihv values)
  | message =>
    cases h
    exact .message

/-- And they are read by the same lines. -/
theorem ReadLines.moved (alike : w.Alike t.spelling v) (h : ReadLines t w depth n ls next)
    (source : Expr) (d : Nat) : ReadLines t v depth (n + d)
      (ls.map (Line.moved source d)) (next + d) := by
  induction alike generalizing depth n ls next with
  | scalar same =>
    cases h with
    | scalar spelled =>
      rw [Nat.add_right_comm]
      exact .scalar (same.symm.trans spelled)
  | sequence same _ ih =>
    cases h with
    | sequence spelled inner =>
      have body := ih inner
      rw [Nat.add_right_comm] at body
      simpa [Line.moved, Statement.moved, Expr.moved, Nat.add_right_comm] using
        ReadLines.sequence (same.symm.trans spelled) body
  | map same _ _ ihk ihv =>
    cases h with
    | map spelled keys values =>
      have first := ihk keys
      rw [Nat.add_right_comm] at first
      simpa [Line.moved, Statement.moved, Expr.moved, Nat.add_right_comm] using
        ReadLines.map (same.symm.trans spelled) first (ihv values)
  | message =>
    cases h with
    | message spelled =>
      rw [Nat.add_right_comm]
      exact .message spelled

/-- What is emitted for types that are alike differs in the source and in the numbers alone. -/
theorem moved_of_alike {c : Coder} {ids : TypeName.MessageIds} (std : Script.IsStandard c)
    (hw : w.Resolved ids) (hv : v.Resolved ids) (alike : w.Alike c.target.spelling v) (source : Expr)
    (depth : Int) (n d : Nat) :
    (∀ e : Expr, e.temporary? = none → c.write v source depth (n + d) =
      ⟨(c.write w e depth n).lines.map (Line.moved source d), (c.write w e depth n).next + d,
        .ok ()⟩) ∧
    c.read v depth (n + d) = ⟨(c.read w depth n).lines.map (Line.moved source d),
      (c.read w depth n).next + d, .ok (.result (n + d))⟩ := by
  constructor
  · intro e given
    obtain ⟨ls, next, form, emitted⟩ := exists_write std hw e depth n
    obtain ⟨ms, other, formOther, emittedOther⟩ := exists_write std hv source depth (n + d)
    have lines := form.moved alike source d
    rw [e.moved_of_temporary? given] at lines
    obtain ⟨rfl, rfl⟩ := lines.unique formOther
    rw [emitted, emittedOther]
  · obtain ⟨ls, next, form, emitted⟩ := exists_read std hw depth n
    obtain ⟨ms, other, formOther, emittedOther⟩ := exists_read std hv depth (n + d)
    obtain ⟨rfl, rfl⟩ := (form.moved alike source d).unique formOther
    rw [emitted, emittedOther]

end Code

/-! ### Types in a registry -/

/-- The C++ type tells the wire format. In a registry without messages that are named by the word of
a C++ scalar, two types that are spelled alike, anywhere in its fields, have the same tags and ids at
every node. So the code of the one is that of the other: the same lines, but for the source that is
written and the numbers of the variables. -/
theorem unnamed_eq_of_spell {d : RegistryDefinition} {r : Registry}
    (h : Registry.ofDefinition d = .ok r)
    (free : ∀ m ∈ r.messages, ∀ name ∈ Cpp.freeWords, m.name ≠ some name)
    {a b : Message} (ha : a ∈ r.messages) (hb : b ∈ r.messages) {f g : Field} (hf : f ∈ a.fields)
    (hg : g ∈ b.fields) {w v : WireType} (hw : w ∈ f.type.walk) (hv : v ∈ g.type.walk) {c : Coder}
    (prepared : Generator.prepare .cpp = .ok c) (same : c.spell w = c.spell v) :
    (∃ text, c.spell w = .ok text) ∧ w.unnamed = v.unnamed ∧
    ∀ (source : Expr) (depth : Int) (n k : Nat),
      (∀ e : Expr, e.temporary? = none → c.write v source depth (n + k) =
        ⟨(c.write w e depth n).lines.map (Line.moved source k), (c.write w e depth n).next + k,
          .ok ()⟩) ∧
      c.read v depth (n + k) = ⟨(c.read w depth n).lines.map (Line.moved source k),
        (c.read w depth n).next + k, .ok (.result (n + k))⟩ := by
  have built := Registry.isBuilt_of_ofDefinition h
  have resolved := built.resolved_of_mem ha hf hw
  have resolvedOther := built.resolved_of_mem hb hg hv
  obtain ⟨target, std⟩ := of_prepare prepared
  have unused : ∀ name ∈ Cpp.freeWords, (Message.idsByName r.messages).lookup name = none := by
    intro name word
    by_contra found
    obtain ⟨id, found⟩ := Option.ne_none_iff_exists'.mp found
    obtain ⟨m, mem, named, -⟩ := Message.exists_of_lookup found
    exact free m mem name word named
  rw [Coder.spell, Coder.spell, target] at same
  have alike := WireType.alike_of_typeName unused resolved resolvedOther
    (Cpp.typeName_eq_of_spell resolved resolvedOther same)
  obtain ⟨text, spelled, -⟩ := Cpp.exists_spelled resolved
  refine ⟨⟨text, ?_⟩, alike.unnamed_eq, fun source depth n k => ?_⟩
  · rw [Coder.spell, target]
    exact spelled
  · rw [← show c.target.spelling = Cpp.spelling by rw [target]; rfl] at alike
    exact moved_of_alike std resolved resolvedOther alike source depth n k

/-- Two messages with the same contents under other names, and a third one inside. -/
def Sample.twins : RegistryDefinition where
  messages := some [
    { id := .number 7, name := some "Item" },
    { id := .number 8, name := some "Stock",
      fields := some [Registry.Sample.field "parts" "Map<Integer, List<Item[]>>"] },
    { id := .number 9, name := some "Order",
      fields := some [Registry.Sample.field "lines" "java.util.Map<int,List<demo.Item[]>>"] }]

/-- The boxed and the plain key are one C++ type, and are read by the same lines. -/
theorem unnamed_eq_of_spell_boxed : ∃ r c, Registry.ofDefinition Sample.twins = .ok r ∧
    Generator.prepare .cpp = .ok c ∧ ∃ a ∈ r.messages, ∃ b ∈ r.messages, ∃ f ∈ a.fields,
      ∃ g ∈ b.fields, f.name = some "parts" ∧ g.name = some "lines" ∧
      c.spell f.type = .ok "map<int32_t, list<vector<Item>>>" ∧ f.type.unnamed = g.type.unnamed ∧
      (c.read g.type 3 12).lines =
        (c.read f.type 3 5).lines.map (Line.moved (.text "") 7) := by
  obtain ⟨c, prepared, target, -⟩ := Script.exists_prepare .cpp
  refine ⟨_, c, by cbv, prepared, _, .tail _ (.head _), _, .tail _ (.tail _ (.head _)), _, .head _,
    _, .head _, rfl, rfl, ?_⟩
  have spelled : ∀ w : WireType, c.spell w = Cpp.spelling.spell w.name := by
    intro w
    rw [Coder.spell, target]
    rfl
  obtain ⟨-, unnamed, coded⟩ := unnamed_eq_of_spell (d := Sample.twins) (by cbv) (by decide)
    (.tail _ (.head _)) (.tail _ (.tail _ (.head _))) (.head _) (.head _)
    (WireType.mem_walk.mpr (.inl rfl)) (WireType.mem_walk.mpr (.inl rfl)) prepared
    (by rw [spelled, spelled]; rfl)
  refine ⟨(spelled _).trans (by rfl), unnamed, ?_⟩
  exact congrArg Emission.lines (coded (.text "") 3 5 7).2

end PacketSmith
