import PacketSmith.Proofs.ClassLayout
import PacketSmith.Proofs.RegistryFiles
import PacketSmith.Proofs.Script.TypeText

/-!
# Names that fields take away

The class of a message uses names of its own beside those of the fields: the variable `packet` of
`valueOf`, the parameter `_` of `operator<`, and the words of the types that members are declared
with. Nothing keeps a field from one of these names.

What a name denotes is read from the text of the class, as a compiler finds it: the variables of a
function come before the members of its class, and those before everything outside (`Cpp.lookup`). A
class is as it is meant exactly if no field is called `packet` or `_`, and none has the name of a word
in the type of a field (`captures_iff_of_messageFile`).
-/

namespace PacketSmith

open Code Script

namespace Cpp

/-! ### Words and declarations -/

/-- The names in a lexeme. -/
def namesIn : Lexeme → List String
  | .path names => names
  | .mark _ => []

/-- The words of a piece of code. -/
def words (s : String) : List String := (lexemes s).flatMap namesIn

/-- The name that a declaration declares, which is its last word. -/
def declaredName? (s : String) : Option String := (words s).getLast?

/-- The words of the type that a declaration declares its name with. -/
def typeWords (s : String) : List String := (words s).dropLast

/-- The variable that a statement declares. -/
def localName? (s : String) : Option String :=
  match lexemes s with
  | .path ["auto"] :: .path [name] :: .mark '=' :: _ => some name
  | _ => none

/-- The two sides of the comparison that a statement depends on. -/
def compared? (s : String) : Option (List String × List String) :=
  match lexemes s with
  | .path ["if"] :: .mark '(' :: .path a :: .mark '<' :: .path b :: .mark ')' :: _ => some (a, b)
  | _ => none

/-! ### What names denote -/

/-- What a name denotes in a function of a class. -/
inductive Entity where
  /-- A parameter or a variable of the function. -/
  | bound (name : String)
  /-- A member of the class. -/
  | member (name : String)
  /-- Something outside of the class. -/
  | outside (name : String)
deriving DecidableEq, Repr

/-- What a name denotes, given the variables of the function and the members of the class. -/
def lookup (bound members : List String) (name : String) : Entity :=
  if name ∈ bound then .bound name
  else if name ∈ members then .member name
  else .outside name

/-- What a path denotes: what its first name denotes, and the members that are taken of it. -/
def denote (bound members : List String) : List String → Entity × List String
  | [] => (.outside "", [])
  | name :: names => (lookup bound members name, names)

/-- The parameters and variables of a function. -/
def Method.bound (f : Method) : List String :=
  f.parameters.filterMap declaredName? ++ f.body.filterMap localName?

/-- The members of a class, by their declarations. -/
def members (fields : List DeclaredField) : List String :=
  (fields.map declaration).filterMap declaredName?

/-- The comparisons of a function of a class, by what is compared. -/
def Method.comparisons (f : Method) (members : List String) :
    List ((Entity × List String) × (Entity × List String)) :=
  (f.body.filterMap compared?).map fun p => (denote f.bound members p.1, denote f.bound members p.2)

/-- Each member is compared with that of the other message, in both ways. -/
def fieldwise (members : List String) : List ((Entity × List String) × (Entity × List String)) :=
  members.flatMap fun name => [
    ((.member name, []), (.bound "_", [name])),
    ((.bound "_", [name]), (.member name, []))]

/-! ### Types -/

/-- The word of a scalar. -/
def scalarWord : Scalar → String
  | .bool => "bool"
  | .byte => "int8_t"
  | .short => "int16_t"
  | .int => "int32_t"
  | .long => "int64_t"
  | .float => "float"
  | .double => "double"
  | .char => "char"
  | .string => "string"

/-- The word of a sequence. -/
def sequenceWord : Sequence → String
  | .array => "vector"
  | .list => "list"
  | .set => "set"

/-- The word that a type begins with. -/
def firstWord (w : WireType) : String :=
  match w.tag with
  | .scalar kind => scalarWord kind
  | .sequence kind => sequenceWord kind
  | .map => "map"
  | .message | .custom _ => w.name.head

/-- The words of a type: those of all types inside it. -/
def wordsOf (w : WireType) : List String := w.walk.map firstWord

/-- The words of a text with others around it. -/
theorem words_around {a b c : String} (h : (Script.startsApart b && Script.endsApart b) = true) :
    words (a ++ b ++ c) = words a ++ words b ++ words c := by
  unfold words
  rw [lexemes_around h, List.flatMap_append, List.flatMap_append]

/-- A part of a path is a word. -/
theorem words_of_isSegment {s : String} (h : isSegment s = true) : words s = [s] := by
  rw [words, lexemes_of_isSegment h]
  rfl

/-- The words of a head with arguments. -/
theorem words_applied {head inner : String} (hh : isSegment head = true) (hi : IsTypeText inner) :
    words (head ++ "<" ++ inner ++ ">") = head :: words inner := by
  unfold words
  rw [lexemes_applied hh hi, List.flatMap_cons, List.flatMap_cons, List.flatMap_append]
  simp [namesIn]

/-- A sequence is spelled by its word, with its element between brackets. -/
theorem spell_sequence (kind : Sequence) {e : TypeName} {s : String}
    (h : Target.cpp.spelling.spell e = .ok s) :
    Target.cpp.spelling.spell (kind.typeName e) = .ok (sequenceWord kind ++ "<" ++ s ++ ">") := by
  have inner : Target.cpp.spelling.spellAll [e] = .ok [s] := by
    simp only [Spelling.spellAll, h]
    rfl
  cases kind with
  | array =>
    have name : TypeName.isName "vector" = true := by decide
    rw [Sequence.typeName, Spelling.spell_array h]
    exact Pattern.fill_generic name s
  | list =>
    rw [Sequence.typeName, Spelling.spell_generic (by decide) inner, String.intercalate_singleton]
    rfl
  | set =>
    rw [Sequence.typeName, Spelling.spell_generic (by decide) inner, String.intercalate_singleton]
    rfl

/-- A map is spelled by its word, with its key and its value between brackets. -/
theorem spell_map {k v : TypeName} {a b : String} (hk : Target.cpp.spelling.spell k = .ok a)
    (hv : Target.cpp.spelling.spell v = .ok b) :
    Target.cpp.spelling.spell (.mk "Map" [k, v]) = .ok ("map" ++ "<" ++ (a ++ ", " ++ b) ++ ">") := by
  have inner : Target.cpp.spelling.spellAll [k, v] = .ok [a, b] := by
    simp only [Spelling.spellAll, hk, hv]
    rfl
  rw [Spelling.spell_generic (by decide) inner]
  rfl

/-- The words of the primitive spellings. -/
theorem lookup_primitives : ∀ p ∈ TypeName.primitives, TypeName.isName p.1 = true ∧
    Target.cpp.spelling.wordOf p.1 = scalarWord p.2 ∧ isSegment (scalarWord p.2) = true := by
  decide

/-- The spelling of a resolved type has the words of the type. -/
theorem exists_words_of_resolved {ids : TypeName.MessageIds} {w : WireType} (h : w.Resolved ids) :
    ∃ s, Target.cpp.spelling.spell w.name = .ok s ∧ IsTypeText s ∧ words s = wordsOf w := by
  induction h with
  | @scalar word kind known =>
    obtain ⟨before, after, split, -⟩ := List.lookup_eq_some_iff.mp known
    obtain ⟨name, same, segment⟩ := lookup_primitives (word, kind) (by simp [split])
    refine ⟨_, Spelling.spell_name name, ?_, ?_⟩
    · rw [same]
      exact .ofSegment segment
    · rw [same]
      exact words_of_isSegment segment
  | @sequence kind e _ ih =>
    obtain ⟨s, spelled, type, own⟩ := ih
    have segment : isSegment (sequenceWord kind) = true := by cases kind <;> decide
    refine ⟨_, spell_sequence kind spelled, .applied segment type, ?_⟩
    rw [words_applied segment type, own]
    simp [wordsOf, WireType.walk, WireType.walkAll, firstWord, WireType.tag]
  | @map k v _ _ ihk ihv =>
    obtain ⟨a, spelledKey, key, ownKey⟩ := ihk
    obtain ⟨b, spelledValue, value, ownValue⟩ := ihv
    refine ⟨_, spell_map spelledKey spelledValue, .applied (by decide) (key.pair value), ?_⟩
    have comma : words ", " = [] := by decide
    rw [words_applied (by decide) (key.pair value), words_around (by decide), comma, ownKey,
      ownValue]
    simp [wordsOf, WireType.walk, WireType.walkAll, firstWord, WireType.tag]
  | @message head id name other known =>
    have segment := Script.isSegment_of_isName name
    refine ⟨_, spell_message .cpp name other, .ofSegment segment, ?_⟩
    rw [words_of_isSegment segment]
    rfl

/-! ### The text of a class -/

section Fields

variable {d : DeclaredField} (segment : isSegment d.identifier = true)

include segment

/-- A declaration ends with the name that it declares. -/
theorem words_parameter : words (d.type ++ " " ++ d.identifier) = words d.type ++ [d.identifier] := by
  have blank : words " " = [] := by decide
  rw [words_around (by decide), blank, words_of_isSegment segment, List.append_nil]

/-- The declaration of a member ends with the name that it declares. -/
theorem words_declaration : words (declaration d) = words d.type ++ [d.identifier] := by
  have mark : (lexemes ";").flatMap namesIn = [] := by decide
  rw [← words_parameter segment, declaration, words, lexemes_append_right (by decide),
    List.flatMap_append, mark, List.append_nil]
  rfl

/-- A statement that stores a field declares no variable. -/
theorem localName?_storeLine : localName? (storeLine d) = none := by
  have split : storeLine d = "packet" ++ "." ++ d.identifier ++ " = " ++ (d.identifier ++ ";") := by
    have dot : "packet." = "packet" ++ "." := by decide
    rw [storeLine, dot]
    simp only [String.append_assoc]
  have path : Spells ("packet" ++ "." ++ d.identifier) ["packet", d.identifier] :=
    .dot (.single (by decide)) segment
  rw [localName?, split, lexemes_around (by decide), path.lexemes]
  rfl

/-- The lexemes of the statements that compare a field. -/
theorem exists_lexemes_compareLines : ∃ one two,
    compareLines d = [one, two] ∧
    lexemes one = [.path ["if"], .mark '(', .path [d.identifier], .mark '<',
      .path ["_", d.identifier], .mark ')', .mark '\x7b', .path ["return"], .path ["true"],
      .mark ';', .mark '\x7d'] ∧
    lexemes two = [.path ["if"], .mark '(', .path ["_", d.identifier], .mark '<',
      .path [d.identifier], .mark ')', .mark '\x7b', .path ["return"], .path ["false"],
      .mark ';', .mark '\x7d'] := by
  have own : Spells d.identifier [d.identifier] := .single segment
  have other : Spells ("_" ++ "." ++ d.identifier) ["_", d.identifier] :=
    .dot (.single (by decide)) segment
  have condition : ∀ a b as bs tail, Spells a as → Spells b bs →
      lexemes ("if (" ++ (a ++ " < " ++ (b ++ ") " ++ tail))) = .path ["if"] :: .mark '(' ::
        .path as :: .mark '<' :: .path bs :: .mark ')' :: lexemes tail := by
    intro a b as bs tail ha hb
    have opening : lexemes "if (" = [.path ["if"], .mark '('] := by decide
    have sign : lexemes " < " = [.mark '<'] := by decide
    have closing : lexemes ") " = [.mark ')'] := by decide
    rw [lexemes_append_left (by decide), lexemes_around (by decide), lexemes_around (by decide),
      opening, sign, closing, ha.lexemes, hb.lexemes]
    rfl
  have yields : lexemes "\x7b return true; \x7d" =
      [.mark '\x7b', .path ["return"], .path ["true"], .mark ';', .mark '\x7d'] := by decide
  have denies : lexemes "\x7b return false; \x7d" =
      [.mark '\x7b', .path ["return"], .path ["false"], .mark ';', .mark '\x7d'] := by decide
  have first := condition _ _ _ _ "\x7b return true; \x7d" own other
  have second := condition _ _ _ _ "\x7b return false; \x7d" other own
  rw [yields] at first
  rw [denies] at second
  refine ⟨_, _, ?_, first, second⟩
  have left : "if (_." = "if (" ++ "_" ++ "." := by decide
  have right : " < _." = " < " ++ "_" ++ "." := by decide
  have yes : ") \x7b return true; \x7d" = ") " ++ "\x7b return true; \x7d" := by decide
  have no : ") \x7b return false; \x7d" = ") " ++ "\x7b return false; \x7d" := by decide
  simp only [compareLines, left, right, yes, no, String.append_assoc]

/-- Statements that compare fields declare no variable. -/
theorem filterMap_localName?_compareLines : (compareLines d).filterMap localName? = [] := by
  obtain ⟨one, two, lines, first, second⟩ := exists_lexemes_compareLines segment
  rw [lines]
  simp [localName?, first, second]

/-- What the statements about a field compare. -/
theorem filterMap_compared?_compareLines : (compareLines d).filterMap compared? =
    [([d.identifier], ["_", d.identifier]), (["_", d.identifier], [d.identifier])] := by
  obtain ⟨one, two, lines, first, second⟩ := exists_lexemes_compareLines segment
  rw [lines]
  simp [compared?, first, second]

end Fields

section Class

variable {name : String} {fields : List DeclaredField}
  (segments : ∀ d ∈ fields, isSegment d.identifier = true)

include segments

/-- The members of a class have the names of the fields. -/
theorem members_eq : members fields = fields.map (·.identifier) := by
  rw [members, List.filterMap_map, ← List.filterMap_eq_map]
  apply List.filterMap_congr
  intro d mem
  simp [declaredName?, words_declaration (segments d mem)]

/-- The parameters and variables of `valueOf` are the fields and the message that is made. -/
theorem bound_valueOf : (valueOf name fields).bound = fields.map (·.identifier) ++ ["packet"] := by
  have parameters : (valueOf name fields).parameters.filterMap declaredName? =
      fields.map (·.identifier) := by
    rw [valueOf, List.filterMap_map, ← List.filterMap_eq_map]
    apply List.filterMap_congr
    intro d mem
    simp [declaredName?, words_parameter (segments d mem)]
  have made : localName? ("auto packet = " ++ name ++ "();") = some "packet" := by
    have opening : lexemes "auto packet = " = [.path ["auto"], .path ["packet"], .mark '='] := by
      decide
    rw [localName?, String.append_assoc, lexemes_append_left (by decide), opening]
    rfl
  have stores : (fields.map storeLine).filterMap localName? = [] := by
    rw [List.filterMap_map, List.filterMap_eq_nil_iff]
    exact fun d mem => localName?_storeLine (segments d mem)
  have returned : localName? "return packet;" = none := by decide
  rw [Method.bound, parameters, valueOf]
  simp [made, stores, returned]

/-- The variables of `valueOf` are distinct exactly if no member is called as the message that is made.
-/
theorem nodup_bound_valueOf_iff (distinct : (members fields).Nodup) :
    (valueOf name fields).bound.Nodup ↔ "packet" ∉ members fields := by
  rw [bound_valueOf segments, ← members_eq segments, List.nodup_append]
  constructor
  · rintro ⟨-, -, apart⟩ mem
    exact apart _ mem _ (by simp) rfl
  · intro absent
    refine ⟨distinct, by simp, ?_⟩
    rintro n mem _ (_ | ⟨_, ⟨⟩⟩) rfl
    exact absent mem

/-- The words of members' types denote what is outside of the class exactly if they are no members. -/
theorem lookup_typeWords_iff :
    (∀ s ∈ fields.map declaration, ∀ w ∈ typeWords s,
      lookup [] (members fields) w = .outside w) ↔
      ∀ d ∈ fields, ∀ w ∈ words d.type, w ∉ members fields := by
  have outside : ∀ w, lookup [] (members fields) w = .outside w ↔ w ∉ members fields := by
    intro w
    simp [lookup]
  rw [List.forall_mem_map]
  refine forall₂_congr fun d mem => ?_
  rw [typeWords, words_declaration (segments d mem), List.dropLast_concat]
  simp only [outside]

/-- `operator<` has its parameter alone. -/
theorem bound_less : (less name fields).bound = ["_"] := by
  have parameter : declaredName? ("const " ++ name ++ " &_") = some "_" := by
    have last : lexemes " &_" = [.mark '&', .path ["_"]] := by decide
    rw [declaredName?, words, lexemes_append_right (by decide), last, List.flatMap_append]
    simp [namesIn]
  have compares : (fields.flatMap compareLines).filterMap localName? = [] := by
    rw [List.filterMap_flatMap, List.flatMap_eq_nil_iff]
    exact fun d mem => filterMap_localName?_compareLines (segments d mem)
  have returned : localName? "return false;" = none := by decide
  rw [Method.bound, less]
  simp [parameter, compares, returned]

/-- What `operator<` compares. -/
theorem comparisons_less (members : List String) : (less name fields).comparisons members =
    (fields.map (·.identifier)).flatMap fun n => [
      ((lookup ["_"] members n, []), (.bound "_", [n])),
      ((.bound "_", [n]), (lookup ["_"] members n, []))] := by
  have returned : compared? "return false;" = none := by decide
  have compares : (fields.flatMap compareLines).filterMap compared? =
      fields.flatMap fun d => [([d.identifier], ["_", d.identifier]),
        (["_", d.identifier], [d.identifier])] := by
    rw [List.filterMap_flatMap]
    apply List.flatMap_congr
    intro d mem
    exact filterMap_compared?_compareLines (segments d mem)
  have body : (less name fields).body.filterMap compared? =
      fields.flatMap fun d => [([d.identifier], ["_", d.identifier]),
        (["_", d.identifier], [d.identifier])] := by
    rw [less, List.filterMap_append, compares]
    simp [returned]
  rw [Method.comparisons, body, bound_less segments, List.map_flatMap, List.flatMap_map]
  rfl

/-- Members are compared with members exactly if none has the name of the parameter. -/
theorem comparisons_less_iff :
    (less name fields).comparisons (members fields) = fieldwise (members fields) ↔
      "_" ∉ members fields := by
  have blocks : ∀ ns, ns ⊆ members fields →
      ((ns.flatMap fun n => [((lookup ["_"] (members fields) n, ([] : List String)),
          ((Entity.bound "_", [n]))), ((.bound "_", [n]), (lookup ["_"] (members fields) n, []))]) =
        fieldwise ns ↔ "_" ∉ ns) := by
    intro ns
    induction ns with
    | nil => simp [fieldwise]
    | cons n ns ih =>
      intro inside
      obtain ⟨own, others⟩ := List.cons_subset.mp inside
      rw [fieldwise, List.flatMap_cons, List.flatMap_cons, ← fieldwise, List.mem_cons, not_or,
        ← ih others]
      by_cases same : n = "_"
      · simp [lookup, same]
      · simp [lookup, same, own, Ne.symm same]
  rw [comparisons_less segments, ← members_eq segments]
  exact blocks _ (List.Subset.refl _)

end Class

end Cpp

namespace OutputContext

variable {x : OutputContext} {r : Registry} {m : Message} {file : OutputFile}

/-- Fields are declared under their names, with the words of their types. -/
theorem of_isDeclared {ids : TypeName.MessageIds} {fs : List Field} {fields : List DeclaredField}
    (resolved : ∀ f ∈ fs, f.type.Resolved ids) (h : List.Forall₂ Cpp.IsDeclared fs fields) :
    fields.map (·.identifier) = fs.map (shown ·.name) ∧
      fields.map (Cpp.words ·.type) = fs.map (Cpp.wordsOf ·.type) := by
  induction h with
  | nil => exact ⟨rfl, rfl⟩
  | @cons f d fs fields one _ ih =>
    obtain ⟨own, others⟩ := List.forall_mem_cons.mp resolved
    obtain ⟨names, words⟩ := ih others
    obtain ⟨s, spelled, -, same⟩ := Cpp.exists_words_of_resolved own
    obtain rfl := Except.ok.inj (spelled.symm.trans one.type)
    exact ⟨by simp [names, one.identifier], by simp [words, same]⟩

/-- A name that is given is shown as it is. -/
theorem shown_eq_iff {name : Option String} (given : name.any TypeName.isName = true) (s : String) :
    shown name = s ↔ name = some s := by
  obtain ⟨n, rfl, -⟩ := (Option.any_eq_true _ _).mp given
  simp [shown]

section Header

variable (target : x.target = .cpp) (built : r.IsBuilt) (hm : m ∈ r.messages)
  (name : m.name.any TypeName.isName = true)
  (names : ∀ f ∈ m.fields, f.name.any TypeName.isName = true)
  (distinct : (m.fields.map (·.name)).Nodup) (laid : x.messageFile r m = .ok file)

include target built hm name names distinct laid

/-- The class of a message in its header, and what its names denote. -/
theorem exists_class_of_messageFile :
    ∃ fields before behind, file.content = before ++ Cpp.classText m fields ++ behind ∧
      Cpp.members fields = m.fields.map (shown ·.name) ∧
      ((Cpp.valueOf (shown m.name) fields).bound.Nodup ↔ "packet" ∉ m.fields.map (shown ·.name)) ∧
      ((Cpp.less (shown m.name) fields).comparisons (Cpp.members fields) =
          Cpp.fieldwise (Cpp.members fields) ↔ "_" ∉ m.fields.map (shown ·.name)) ∧
      ((∀ s ∈ fields.map Cpp.declaration, ∀ w ∈ Cpp.typeWords s,
          Cpp.lookup [] (Cpp.members fields) w = .outside w) ↔
        ∀ g ∈ m.fields, ∀ w ∈ Cpp.wordsOf g.type, w ∉ m.fields.map (shown ·.name)) := by
  obtain ⟨fields, before, behind, declared, content⟩ :=
    exists_classText_of_messageFile target (built.isSpelled hm name names) laid
  obtain ⟨identifiers, words⟩ := of_isDeclared (built.resolved m hm) declared
  have segments : ∀ d ∈ fields, isSegment d.identifier = true := by
    intro d mem
    obtain ⟨f, inside, one⟩ := exists_of_mem_forall₂ declared mem
    obtain ⟨n, given, isName⟩ := (Option.any_eq_true _ _).mp (names f inside)
    rw [one.identifier, given]
    exact Script.isSegment_of_isName isName
  have members : Cpp.members fields = m.fields.map (shown ·.name) := by
    rw [Cpp.members_eq segments, identifiers]
  have apart : (Cpp.members fields).Nodup := by
    have given : m.fields.map (·.name) = (m.fields.map (shown ·.name)).map some := by
      rw [List.map_map]
      apply List.map_congr_left
      intro f mem
      exact (shown_eq_iff (names f mem) _).mp rfl
    rw [given] at distinct
    rw [members]
    exact distinct.of_map
  have typed : (∀ d ∈ fields, ∀ w ∈ Cpp.words d.type, w ∉ m.fields.map (shown ·.name)) ↔
      ∀ ws ∈ fields.map (Cpp.words ·.type), ∀ w ∈ ws, w ∉ m.fields.map (shown ·.name) := by
    rw [List.forall_mem_map]
  refine ⟨fields, before, behind, content, members, ?_, ?_, ?_⟩
  · rw [Cpp.nodup_bound_valueOf_iff segments apart, members]
  · rw [Cpp.comparisons_less_iff segments, members]
  · rw [Cpp.lookup_typeWords_iff segments, members, typed, words, List.forall_mem_map]

/-- The class of a message in its header, and what it takes for its names to denote what they are
meant to. The variables of `valueOf` are distinct exactly if no field is called `packet`. `operator<`
compares each field with that of the other message exactly if no field is called `_`. The words of
members' types denote what is outside of the class exactly if no field has the name of one. -/
theorem captures_iff_of_messageFile :
    ∃ fields before behind, file.content = before ++ Cpp.classText m fields ++ behind ∧
      Cpp.members fields = m.fields.map (shown ·.name) ∧
      ((Cpp.valueOf (shown m.name) fields).bound.Nodup ↔
        ∀ f ∈ m.fields, f.name ≠ some "packet") ∧
      ((Cpp.less (shown m.name) fields).comparisons (Cpp.members fields) =
          Cpp.fieldwise (Cpp.members fields) ↔ ∀ f ∈ m.fields, f.name ≠ some "_") ∧
      ((∀ s ∈ fields.map Cpp.declaration, ∀ w ∈ Cpp.typeWords s,
          Cpp.lookup [] (Cpp.members fields) w = .outside w) ↔
        ∀ f ∈ m.fields, ∀ g ∈ m.fields, ∀ word ∈ Cpp.wordsOf g.type, f.name ≠ some word) := by
  obtain ⟨fields, before, behind, content, members, makes, orders, types⟩ :=
    exists_class_of_messageFile target built hm name names distinct laid
  have absent : ∀ s, s ∉ m.fields.map (shown ·.name) ↔ ∀ f ∈ m.fields, f.name ≠ some s := by
    intro s
    rw [List.mem_map]
    constructor
    · intro none f mem same
      exact none ⟨f, mem, (shown_eq_iff (names f mem) s).mpr same⟩
    · rintro none ⟨f, mem, same⟩
      exact none f mem ((shown_eq_iff (names f mem) s).mp same)
  refine ⟨fields, before, behind, content, members, ?_, ?_, ?_⟩
  · rw [makes, absent]
  · rw [orders, absent]
  · rw [types]
    simp only [absent]
    constructor
    · exact fun h f mem g among word inside => h g among word inside f mem
    · exact fun h g among word inside f mem => h f mem g among word inside

end Header

namespace Sample

open Registry.Sample (field)

/-- A message whose fields have other names than its class uses. -/
def modest : RegistryDefinition where
  messages := some [
    { id := .number 1, name := some "Item", fields := some [field "weight" "float"] },
    { id := .number 2, name := some "Box", fields := some [
      field "items" "Map<String, List<Item>>", field "sizes" "int[]", field "packets" "long"] }]

/-- A message whose fields have names that its class uses. -/
def greedy : RegistryDefinition where
  messages := some [
    { id := .number 1, name := some "Envelope", fields := some [
      field "packet" "int", field "_" "int", field "map" "Map<Integer, Long>"] }]

end Sample

/-- Fields of containers, of arrays and of nested messages keep their names apart. -/
theorem captures_iff_of_messageFile_sample : ∃ (r : Registry) (m : Message) (x : OutputContext)
    (file : OutputFile) (fields : List DeclaredField) (before behind : String),
    Registry.ofDefinition Sample.modest = .ok r ∧ m ∈ r.messages ∧ m.name = some "Box" ∧
    m.fields.map (·.name) = [some "items", some "sizes", some "packets"] ∧ x.target = .cpp ∧
    x.messageFile r m = .ok file ∧ file.content = before ++ Cpp.classText m fields ++ behind ∧
    (Cpp.valueOf (shown m.name) fields).bound.Nodup ∧
    (Cpp.less (shown m.name) fields).comparisons (Cpp.members fields) =
      Cpp.fieldwise (Cpp.members fields) ∧
    ∀ s ∈ fields.map Cpp.declaration, ∀ w ∈ Cpp.typeWords s,
      Cpp.lookup [] (Cpp.members fields) w = .outside w := by
  obtain ⟨r, made⟩ : ∃ r, Registry.ofDefinition Sample.modest = .ok r := ⟨_, by cbv⟩
  have built := Registry.isBuilt_of_ofDefinition made
  have facts : ∃ m ∈ r.messages, m.name = some "Box" ∧
      m.fields.map (·.name) = [some "items", some "sizes", some "packets"] ∧
      (∀ m ∈ r.messages, m.module ≠ none) ∧ m.id ≠ .null ∧
      (∃ ids, r.dependencies m.id = .ok ids) ∧
      m.fields.flatMap (Cpp.wordsOf ·.type) =
        ["map", "string", "list", "Item", "vector", "int32_t", "int64_t"] := by
    obtain rfl := Except.ok.inj (made.symm.trans (by cbv))
    refine ⟨_, .tail _ (.head _), rfl, rfl, ?_, by simp, ⟨_, by cbv⟩, rfl⟩
    exact List.forall_mem_cons.mpr ⟨by simp, List.forall_mem_singleton.mpr (by simp)⟩
  obtain ⟨m, hm, name, names, modules, id, ⟨ids, told⟩, words⟩ := facts
  have given : ∀ n ∈ m.fields.map (·.name), n.any TypeName.isName = true := by
    rw [names]
    decide
  obtain ⟨x, file, target, laid⟩ := exists_context_of_dependencies built modules .cpp hm id
    (by simp [name]) told
  obtain ⟨fields, before, behind, content, -, makes, orders, types⟩ :=
    captures_iff_of_messageFile target built hm (by rw [name]; decide)
      (fun f mem => given _ (List.mem_map_of_mem mem)) (by rw [names]; decide) laid
  have fresh : ∀ s, some s ∉ m.fields.map (·.name) → ∀ f ∈ m.fields, f.name ≠ some s := by
    rintro s absent f mem same
    exact absent (same ▸ List.mem_map_of_mem mem)
  rw [names] at fresh
  refine ⟨r, m, x, file, fields, before, behind, made, hm, name, names, target, laid, content,
    makes.mpr (fresh _ (by decide)), orders.mpr (fresh _ (by decide)), types.mpr ?_⟩
  intro f mem g among word inside
  have apart : ∀ word ∈ m.fields.flatMap (Cpp.wordsOf ·.type),
      some word ∉ [some "items", some "sizes", some "packets"] := by
    rw [words]
    decide
  exact fresh word (apart word (List.mem_flatMap.mpr ⟨g, among, inside⟩)) f mem

/-- A field called `packet` is declared twice in `valueOf`, one called `_` is hidden in `operator<`,
and one called `map` takes the place of the type that it is declared with. -/
theorem names_captured : ∃ (r : Registry) (m : Message) (x : OutputContext)
    (file : OutputFile) (fields : List DeclaredField) (before behind : String),
    Registry.ofDefinition Sample.greedy = .ok r ∧ m ∈ r.messages ∧
    (m.fields.map (·.name)).Nodup ∧ x.target = .cpp ∧
    x.messageFile r m = .ok file ∧ file.content = before ++ Cpp.classText m fields ++ behind ∧
    ¬(Cpp.valueOf (shown m.name) fields).bound.Nodup ∧
    (Cpp.less (shown m.name) fields).comparisons (Cpp.members fields) ≠
      Cpp.fieldwise (Cpp.members fields) ∧
    ¬∀ s ∈ fields.map Cpp.declaration, ∀ w ∈ Cpp.typeWords s,
      Cpp.lookup [] (Cpp.members fields) w = .outside w := by
  obtain ⟨r, made⟩ : ∃ r, Registry.ofDefinition Sample.greedy = .ok r := ⟨_, by cbv⟩
  have built := Registry.isBuilt_of_ofDefinition made
  have facts : ∃ m ∈ r.messages, m.name = some "Envelope" ∧
      m.fields.map (·.name) = [some "packet", some "_", some "map"] ∧
      m.fields.map (shown ·.name) = ["packet", "_", "map"] ∧
      (∀ m ∈ r.messages, m.module ≠ none) ∧ m.id ≠ .null ∧
      (∃ ids, r.dependencies m.id = .ok ids) ∧
      "map" ∈ m.fields.flatMap (Cpp.wordsOf ·.type) := by
    obtain rfl := Except.ok.inj (made.symm.trans (by cbv))
    refine ⟨_, .head _, rfl, rfl, rfl, ?_, by simp, ⟨_, by cbv⟩, by decide⟩
    exact List.forall_mem_singleton.mpr (by simp)
  obtain ⟨m, hm, name, names, shown_, modules, id, ⟨ids, told⟩, word⟩ := facts
  have given : ∀ n ∈ m.fields.map (·.name), n.any TypeName.isName = true := by
    rw [names]
    decide
  have distinct : (m.fields.map (·.name)).Nodup := by
    rw [names]
    decide
  obtain ⟨x, file, target, laid⟩ := exists_context_of_dependencies built modules .cpp hm id
    (by simp [name]) told
  obtain ⟨fields, before, behind, content, -, makes, orders, types⟩ :=
    exists_class_of_messageFile target built hm (by rw [name]; decide)
      (fun f mem => given _ (List.mem_map_of_mem mem)) distinct laid
  rw [shown_] at makes orders types
  refine ⟨r, m, x, file, fields, before, behind, made, hm, distinct, target, laid, content, ?_, ?_,
    ?_⟩
  · rw [makes]
    decide
  · rw [ne_eq, orders]
    decide
  · rw [types]
    intro none
    obtain ⟨g, among, inside⟩ := List.mem_flatMap.mp word
    exact none g among "map" inside (by decide)

end OutputContext

end PacketSmith
