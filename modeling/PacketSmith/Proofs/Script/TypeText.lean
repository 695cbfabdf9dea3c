import PacketSmith.Proofs.Script.Rendering

/-!
# Spelled types are read back

Every resolved type has a spelling in every target, and the spelling is a text that can stand where
a declaration names a type: that of a scalar is a word (`spell_scalar`), that of a nested message is
its name (`spell_message`), and that of a container is a head with arguments between brackets, where
the head says which collection it is (`spell_sequence`, `spell_map`).

Arguments may be nested. What carries the proof is that the lexemes of a spelled type neither end a
sentence nor close a bracket that they do not open (`IsTypeText`).
-/

namespace PacketSmith.Script

open PacketSmith.Code
open PacketSmith.TypeName (isNameStart isNamePart isNameList isName)

/-! ### Texts of types -/

/-- The text can be an argument of a type. -/
structure IsTypeText (s : String) : Prop where
  /-- It ends no sentence. -/
  quiet : (lexemes s).all isQuiet = true
  /-- Its brackets are balanced. -/
  balanced : ∀ n more, afterArguments? (n + 1) (lexemes s ++ more) = afterArguments? (n + 1) more
  /-- A bracket behind it ends no arrow. -/
  last : s.toList.getLast? ≠ some '-'

/-- The last character of two texts is that of one of them. -/
theorem getLast?_append_ne {c : Char} {a b : List Char} (ha : a.getLast? ≠ some c)
    (hb : b.getLast? ≠ some c) : (a ++ b).getLast? ≠ some c := by
  rw [List.getLast?_append]
  cases h : b.getLast? with
  | none => simpa [h] using ha
  | some d => simpa [h] using hb

/-- A closing bracket stands on its own behind anything but a dash. -/
theorem lexemes_append_bracket {a : String} (h : a.toList.getLast? ≠ some '-') :
    lexemes (a ++ ">") = lexemes a ++ [.mark '>'] := by
  unfold lexemes
  rw [String.toList_append]
  exact lexemesFrom_append (by decide) _ _ _ _ fun _ => h

/-- A part of a path is the text of a type. -/
theorem IsTypeText.ofSegment {s : String} (h : isSegment s = true) : IsTypeText s := by
  have lexed := lexemes_of_isSegment h
  refine ⟨by rw [lexed]; rfl, fun n more => by rw [lexed]; rfl, fun dash => ?_⟩
  have parts : s.toList.all isNamePart = true := (Bool.and_eq_true_iff.mp h).2
  have part := List.all_eq_true.mp parts '-' (List.mem_of_getLast? dash)
  exact absurd part (by decide)

/-- Two types with a comma between them can stand between brackets. -/
theorem IsTypeText.pair {a b : String} (ha : IsTypeText a) (hb : IsTypeText b) :
    IsTypeText (a ++ ", " ++ b) := by
  have lexed : lexemes (a ++ ", " ++ b) = lexemes a ++ ([.mark ','] ++ lexemes b) := by
    rw [lexemes_around (by decide), List.append_assoc]
    rfl
  refine ⟨?_, fun n more => ?_, ?_⟩
  · rw [lexed, List.all_append, List.all_append, ha.quiet, hb.quiet]
    rfl
  · rw [lexed, List.append_assoc, ha.balanced, List.append_assoc, List.singleton_append,
      afterArguments?, if_neg (by decide), if_neg (by decide), hb.balanced]
  · rw [String.toList_append, String.toList_append]
    exact getLast?_append_ne (getLast?_append_ne ha.last (by decide)) hb.last

section Applied

variable {head inner : String}

/-- The lexemes of a head with arguments. -/
theorem lexemes_applied (hh : isSegment head = true) (hi : IsTypeText inner) :
    lexemes (head ++ "<" ++ inner ++ ">") =
      .path [head] :: .mark '<' :: (lexemes inner ++ [.mark '>']) := by
  have last : (head ++ "<" ++ inner).toList.getLast? ≠ some '-' := by
    rw [String.toList_append, String.toList_append]
    exact getLast?_append_ne (getLast?_append_ne (IsTypeText.ofSegment hh).last (by decide)) hi.last
  rw [lexemes_append_bracket last, lexemes_around (by decide), lexemes_of_isSegment hh]
  rfl

/-- A head with arguments is the text of a type. -/
theorem IsTypeText.applied (hh : isSegment head = true) (hi : IsTypeText inner) :
    IsTypeText (head ++ "<" ++ inner ++ ">") := by
  have lexed := lexemes_applied hh hi
  refine ⟨?_, fun n more => ?_, ?_⟩
  · rw [lexed, List.all_cons, List.all_cons, List.all_append, hi.quiet]
    rfl
  · rw [lexed, List.cons_append, List.cons_append, List.append_assoc, afterArguments?,
      if_neg (by simp), if_neg (by simp), afterArguments?, if_pos rfl, hi.balanced,
      List.singleton_append, afterArguments?, if_neg (by decide), if_pos rfl]
  · rw [String.toList_append, show (">").toList = ['>'] from rfl, List.getLast?_concat]
    decide

/-- A head with arguments declares the collection of its head. -/
theorem declaresCollection_applied {t : Target} {kind : Collection} (hh : isSegment head = true)
    (collection : collection? t head = some kind) (hi : IsTypeText inner) :
    DeclaresCollection t (head ++ "<" ++ inner ++ ">") kind := by
  refine ⟨head, lexemes inner ++ [.mark '>'], lexemes_applied hh hi, collection, ?_, fun more => ?_⟩
  · rw [List.all_append, hi.quiet]
    rfl
  · rw [List.append_assoc, hi.balanced, List.singleton_append, afterArguments?, if_neg (by decide),
      if_pos rfl, afterArguments?]

end Applied

/-! ### Spellings -/

/-- What collection a sequence is declared as. -/
def collectionOf : Sequence → Collection
  | .array => .list
  | .list => .list
  | .set => .set

/-- A name alone is spelled by its word, or as it is. -/
theorem spell_simple (sp : Spelling) {head : String} (h : head ≠ TypeName.arrayHead) :
    sp.spell (.simple head) = .ok ((sp.primitives.lookup head).getD head) := by
  unfold TypeName.simple Spelling.spell
  rw [if_neg (by simpa using h)]

/-- The word of every primitive spelling can be the type of a declared scalar. -/
theorem isScalarType_primitives (t : Target) : ∀ p ∈ TypeName.primitives,
    p.1 ≠ TypeName.arrayHead ∧
      isScalarType ((t.spelling.primitives.lookup p.1).getD p.1) = true := by
  cases t <;> decide

/-- The spelling of a scalar is a word. -/
theorem spell_scalar (t : Target) {word : String} {kind : Scalar}
    (h : TypeName.primitives.lookup word = some kind) :
    ∃ s, t.spelling.spell (.simple word) = .ok s ∧ isScalarType s = true := by
  obtain ⟨before, after, split, -⟩ := List.lookup_eq_some_iff.mp h
  obtain ⟨head, type⟩ := isScalarType_primitives t (word, kind) (by simp [split])
  exact ⟨_, spell_simple _ head, type⟩

/-- The targets have words for the primitive spellings and for no other names. -/
theorem lookup_primitives_eq_none (t : Target) {head : String}
    (h : TypeName.primitives.lookup head = none) : t.spelling.primitives.lookup head = none := by
  have keys : t.spelling.primitives.map (·.1) = TypeName.primitives.map (·.1) := by
    cases t <;> rfl
  rw [List.lookup_eq_none_iff] at h ⊢
  intro p mem
  have key : p.1 ∈ TypeName.primitives.map (·.1) := keys ▸ List.mem_map_of_mem mem
  obtain ⟨q, inside, same⟩ := List.mem_map.mp key
  rw [← same]
  exact h q inside

/-- A nested message is spelled by its name. -/
theorem spell_message (t : Target) {head : String} (name : isName head = true)
    (h : TypeName.primitives.lookup head = none) : t.spelling.spell (.simple head) = .ok head := by
  rw [spell_simple _ (TypeName.ne_arrayHead_of_isName name), lookup_primitives_eq_none t h]
  rfl

/-- The pattern of arrays puts the element between the brackets of a head. -/
theorem fill_array (t : Target) (element : String) : ∃ head, isSegment head = true ∧
    collection? t head = some .list ∧
    Pattern.fill t.spelling.array element = .ok (head ++ "<" ++ element ++ ">") := by
  unfold Pattern.fill
  cases t with
  | cpp =>
    have pattern : Target.cpp.spelling.array.toList =
        ['v', 'e', 'c', 't', 'o', 'r', '<', '\x7b', '\x7d', '>'] := rfl
    refine ⟨"vector", by decide, rfl, ?_⟩
    rw [pattern]
    refine congrArg Except.ok (String.toList_inj.mp ?_)
    simp
  | typescript =>
    have pattern : Target.typescript.spelling.array.toList =
        ['A', 'r', 'r', 'a', 'y', '<', '\x7b', '\x7d', '>'] := rfl
    refine ⟨"Array", by decide, rfl, ?_⟩
    rw [pattern]
    refine congrArg Except.ok (String.toList_inj.mp ?_)
    simp

/-- A sequence is spelled as a head with its element between brackets. -/
theorem spell_sequence (t : Target) (kind : Sequence) {e : TypeName} {s : String}
    (h : t.spelling.spell e = .ok s) : ∃ head, isSegment head = true ∧
      collection? t head = some (collectionOf kind) ∧
      t.spelling.spell (kind.typeName e) = .ok (head ++ "<" ++ s ++ ">") := by
  cases kind with
  | array =>
    obtain ⟨head, segment, collection, filled⟩ := fill_array t s
    refine ⟨head, segment, collection, ?_⟩
    unfold Sequence.typeName TypeName.array Spelling.spell
    rw [if_pos (by decide), Spelling.spellFirst, h]
    exact filled
  | list =>
    unfold Sequence.typeName Spelling.spell
    rw [if_neg (by decide)]
    simp only [Spelling.spellAll, h]
    cases t with
    | cpp => exact ⟨"list", by decide, rfl, rfl⟩
    | typescript => exact ⟨"Array", by decide, rfl, rfl⟩
  | set =>
    unfold Sequence.typeName Spelling.spell
    rw [if_neg (by decide)]
    simp only [Spelling.spellAll, h]
    cases t with
    | cpp => exact ⟨"set", by decide, rfl, rfl⟩
    | typescript => exact ⟨"Set", by decide, rfl, rfl⟩

/-- A map is spelled as a head with its key and its value between brackets. -/
theorem spell_map (t : Target) {k v : TypeName} {a b : String}
    (hk : t.spelling.spell k = .ok a) (hv : t.spelling.spell v = .ok b) :
    ∃ head, isSegment head = true ∧ collection? t head = some .map ∧
      t.spelling.spell (.mk "Map" [k, v]) = .ok (head ++ "<" ++ (a ++ ", " ++ b) ++ ">") := by
  unfold Spelling.spell
  rw [if_neg (by decide)]
  simp only [Spelling.spellAll, hk, hv]
  cases t with
  | cpp => exact ⟨"map", by decide, rfl, rfl⟩
  | typescript => exact ⟨"Map", by decide, rfl, rfl⟩

/-- Every resolved type has a spelling that is the text of a type. -/
theorem spell_resolved (t : Target) {ids : TypeName.MessageIds} {w : WireType}
    (h : w.Resolved ids) : ∃ s, t.spelling.spell w.name = .ok s ∧ IsTypeText s := by
  induction h with
  | scalar word =>
    obtain ⟨s, spelled, type⟩ := spell_scalar t word
    simp only [isScalarType, Bool.and_eq_true] at type
    exact ⟨s, spelled, .ofSegment type.1.1.1⟩
  | @sequence kind e _ ih =>
    obtain ⟨s, spelled, type⟩ := ih
    obtain ⟨head, segment, -, whole⟩ := spell_sequence t kind spelled
    exact ⟨_, whole, .applied segment type⟩
  | map _ _ ihk ihv =>
    obtain ⟨a, spelledKey, key⟩ := ihk
    obtain ⟨b, spelledValue, value⟩ := ihv
    obtain ⟨head, segment, -, whole⟩ := spell_map t spelledKey spelledValue
    exact ⟨_, whole, .applied segment (key.pair value)⟩
  | message name other _ =>
    exact ⟨_, spell_message t name other, .ofSegment (isSegment_of_isName name)⟩

end PacketSmith.Script
