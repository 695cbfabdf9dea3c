import Mathlib
import PacketSmith.Proofs.NameCapture

/-!
# The order of messages

The class of a message has an `operator<`, which compares the message with another one field by
field. Its statements are read from the text of the header and run on two messages
(`Cpp.Method.result?`), where nothing is known of the fields but that their own `<` is a strict weak
order.

The first field in which two messages are not tied decides (`Cpp.Precedes`), and this is a strict
weak order again. Messages that are tied in all fields, and no others, are tied
(`isStrictWeakOrder_of_messageFile`). So messages can be elements of sets and keys of maps, and
fields of other messages.
-/

namespace PacketSmith

open Code Script

/-! ### One relation after another -/

section ThenBy

variable {α : Type*} {r s : α → α → Prop} {a b c : α}

/-- By the first relation, or where that is tied by the second one. -/
def ThenBy (r s : α → α → Prop) (a b : α) : Prop := r a b ∨ IncompRel r a b ∧ s a b

/-- What is less than one of two tied values is less than the other one. -/
theorem rel_of_rel_of_incompRel [IsStrictWeakOrder α r] (ab : r a b) (bc : IncompRel r b c) :
    r a c := by
  by_contra none
  by_cases back : r c a
  · exact bc.2 (IsTrans.trans _ _ _ back ab)
  · have tied : IncompRel r a b := IsStrictWeakOrder.incomp_trans a c b ⟨none, back⟩ bc.symm
    exact tied.1 ab

/-- What is greater than one of two tied values is greater than the other one. -/
theorem rel_of_incompRel_of_rel [IsStrictWeakOrder α r] (ab : IncompRel r a b) (bc : r b c) :
    r a c := by
  by_contra none
  by_cases back : r c a
  · exact ab.2 (IsTrans.trans _ _ _ bc back)
  · have tied : IncompRel r b c := IsStrictWeakOrder.incomp_trans b a c ab.symm ⟨none, back⟩
    exact tied.1 bc

/-- Values are tied if they are tied in both relations. -/
theorem incompRel_thenBy_iff :
    IncompRel (ThenBy r s) a b ↔ IncompRel r a b ∧ IncompRel s a b := by
  constructor
  · rintro ⟨left, right⟩
    have first : IncompRel r a b := ⟨fun ab => left (.inl ab), fun ba => right (.inl ba)⟩
    exact ⟨first, fun ab => left (.inr ⟨first, ab⟩), fun ba => right (.inr ⟨first.symm, ba⟩)⟩
  · rintro ⟨first, second⟩
    constructor
    · rintro (ab | ⟨-, ab⟩)
      · exact first.1 ab
      · exact second.1 ab
    · rintro (ba | ⟨-, ba⟩)
      · exact first.2 ba
      · exact second.2 ba

/-- Strict weak orders one after the other are a strict weak order. -/
theorem isStrictWeakOrder_thenBy [IsStrictWeakOrder α r] [IsStrictWeakOrder α s] :
    IsStrictWeakOrder α (ThenBy r s) where
  irrefl := by
    rintro a (aa | ⟨-, aa⟩)
    · exact irrefl a aa
    · exact irrefl a aa
  trans := by
    rintro a b c (ab | ⟨tied, ab⟩) (bc | ⟨tied', bc⟩)
    · exact .inl (IsTrans.trans _ _ _ ab bc)
    · exact .inl (rel_of_rel_of_incompRel ab tied')
    · exact .inl (rel_of_incompRel_of_rel tied bc)
    · exact .inr ⟨IsStrictWeakOrder.incomp_trans a b c tied tied',
        IsTrans.trans _ _ _ ab bc⟩
  incomp_trans := by
    intro a b c ab bc
    obtain ⟨ab, ab'⟩ := incompRel_thenBy_iff.mp ab
    obtain ⟨bc, bc'⟩ := incompRel_thenBy_iff.mp bc
    exact incompRel_thenBy_iff.mpr ⟨IsStrictWeakOrder.incomp_trans a b c ab bc,
      IsStrictWeakOrder.incomp_trans a b c ab' bc'⟩

end ThenBy

namespace Cpp

universe u

/-! ### Statements -/

/-- A statement of a function that tells yes or no. -/
inductive Verdict where
  /-- The function ends with a value if one path is less than another. -/
  | returnIf (left right : List String) (value : Bool)
  /-- The function ends with a value. -/
  | returns (value : Bool)
deriving DecidableEq

/-- The words for truth. -/
def truth? (word : String) : Option Bool :=
  if word = "true" then some true else if word = "false" then some false else none

/-- The statement on a line. -/
def verdict? (s : String) : Option Verdict :=
  match lexemes s with
  | [.path ["if"], .mark '(', .path left, .mark '<', .path right, .mark ')', .mark '\x7b',
      .path ["return"], .path [word], .mark ';', .mark '\x7d'] =>
    (truth? word).map (.returnIf left right)
  | [.path ["return"], .path [word], .mark ';'] => (truth? word).map .returns
  | _ => none

/-- Which of two messages a value is taken of. -/
inductive Side where
  /-- The message whose function is called. -/
  | own
  /-- The message that is given to the function. -/
  | other

/-- The message and its member that a path denotes. A variable of the function is the message that
is given to it. -/
def operand? (bound members : List String) (path : List String) : Option (Side × String) :=
  match denote bound members path with
  | (.member name, []) => some (.own, name)
  | (.bound _, [name]) => if name ∈ members then some (.other, name) else none
  | _ => none

section Values

variable {V : String → Type u} (lt : ∀ n, V n → V n → Prop) [∀ n, DecidableRel (lt n)]

/-- One of two messages, given by the values of their members. -/
def Side.of (a b : ∀ n, V n) : Side → ∀ n, V n
  | own => a
  | other => b

/-- Whether one path is less than another. Members of different names are not compared. -/
def isLess? (bound members : List String) (a b : ∀ n, V n) (left right : List String) :
    Option Bool := do
  let (one, n) ← operand? bound members left
  let (two, k) ← operand? bound members right
  if n = k then some (decide (lt n (one.of a b n) (two.of a b n))) else none

/-- What a function tells of two messages by the statements that are left of it. -/
def run? (bound members : List String) (a b : ∀ n, V n) : List String → Option Bool
  | [] => none
  | line :: lines => do
    match ← verdict? line with
    | .returns value => some value
    | .returnIf left right value =>
      if ← isLess? lt bound members a b left right then some value
      else run? bound members a b lines

/-- What a function of a class tells of two messages. -/
def Method.result? (f : Method) (members : List String) (a b : ∀ n, V n) : Option Bool :=
  run? lt f.bound members a b f.body

end Values

/-! ### Lexicographic order -/

section Precedes

variable {V : String → Type u} {lt : ∀ n, V n → V n → Prop} {names : List String} {a b : ∀ n, V n}

/-- One message comes before another by the first of their members that are not tied. -/
def Precedes (lt : ∀ n, V n → V n → Prop) (names : List String) (a b : ∀ n, V n) : Prop :=
  ∃ before n after, names = before ++ n :: after ∧
    (∀ k ∈ before, IncompRel (lt k) (a k) (b k)) ∧ lt n (a n) (b n)

/-- Messages without members are tied. -/
theorem not_precedes_nil : ¬Precedes lt [] a b := by
  rintro ⟨before, n, after, split, -⟩
  simp at split

/-- The first member decides, and where it is tied the others do. -/
theorem precedes_cons (n : String) :
    Precedes lt (n :: names) = ThenBy (fun a b => lt n (a n) (b n)) (Precedes lt names) := by
  funext a b
  apply propext
  constructor
  · rintro ⟨_ | ⟨_, before⟩, k, after, split, tied, less⟩
    · obtain ⟨rfl, rfl⟩ := List.cons.inj split
      exact .inl less
    · obtain ⟨rfl, rfl⟩ := List.cons.inj split
      obtain ⟨first, others⟩ := List.forall_mem_cons.mp tied
      exact .inr ⟨first, before, k, after, rfl, others, less⟩
  · rintro (less | ⟨first, before, k, after, rfl, tied, less⟩)
    · exact ⟨[], n, names, rfl, by simp, less⟩
    · exact ⟨n :: before, k, after, rfl, List.forall_mem_cons.mpr ⟨first, tied⟩, less⟩

/-- Messages are tied if they are tied in all members. -/
theorem incompRel_precedes_iff :
    IncompRel (Precedes lt names) a b ↔ ∀ n ∈ names, IncompRel (lt n) (a n) (b n) := by
  induction names with
  | nil => simp [IncompRel, not_precedes_nil]
  | cons n names ih =>
    rw [precedes_cons, incompRel_thenBy_iff, ih, List.forall_mem_cons]
    rfl

/-- Messages are ordered if their members are. -/
theorem isStrictWeakOrder_precedes (h : ∀ n ∈ names, IsStrictWeakOrder (V n) (lt n)) :
    IsStrictWeakOrder (∀ n, V n) (Precedes lt names) := by
  induction names with
  | nil =>
    exact {
      irrefl := fun _ => not_precedes_nil
      trans := fun _ _ _ ab => absurd ab not_precedes_nil
      incomp_trans := fun _ _ _ _ _ => ⟨not_precedes_nil, not_precedes_nil⟩ }
  | cons n names ih =>
    obtain ⟨first, others⟩ := List.forall_mem_cons.mp h
    have one : IsStrictWeakOrder (∀ n, V n) fun a b => lt n (a n) (b n) :=
      inferInstanceAs (IsStrictWeakOrder _ (Function.onFun (lt n) fun a : ∀ n, V n => a n))
    have rest := ih others
    rw [precedes_cons]
    exact isStrictWeakOrder_thenBy

end Precedes

/-! ### The statements of `operator<` -/

section Run

variable {V : String → Type u} {lt : ∀ n, V n → V n → Prop} [∀ n, DecidableRel (lt n)]
  {members : List String} {a b : ∀ n, V n}

/-- The name of a member denotes that of this message. -/
theorem operand?_own {n : String} (mem : n ∈ members) (other : n ≠ "_") :
    operand? ["_"] members [n] = some (.own, n) := by
  simp [operand?, denote, lookup, mem, other]

/-- Behind the name of the parameter, the name of a member denotes that of the other message. -/
theorem operand?_other {n : String} (mem : n ∈ members) :
    operand? ["_"] members ["_", n] = some (.other, n) := by
  simp [operand?, denote, lookup, mem]

/-- A member of this message is compared with that of the other one. -/
theorem isLess?_own {n : String} (mem : n ∈ members) (other : n ≠ "_") :
    isLess? lt ["_"] members a b [n] ["_", n] = some (decide (lt n (a n) (b n))) := by
  rw [isLess?, operand?_own mem other, operand?_other mem]
  exact if_pos rfl

/-- A member of the other message is compared with that of this one. -/
theorem isLess?_other {n : String} (mem : n ∈ members) (other : n ≠ "_") :
    isLess? lt ["_"] members a b ["_", n] [n] = some (decide (lt n (b n) (a n))) := by
  rw [isLess?, operand?_own mem other, operand?_other mem]
  exact if_pos rfl

/-- The statements about one field end the function unless the field is tied. -/
theorem run?_compareLines {d : DeclaredField} (segment : isSegment d.identifier = true)
    (mem : d.identifier ∈ members) (other : d.identifier ≠ "_") (lines : List String) :
    run? lt ["_"] members a b (compareLines d ++ lines) =
      if lt d.identifier (a d.identifier) (b d.identifier) then some true
      else if lt d.identifier (b d.identifier) (a d.identifier) then some false
      else run? lt ["_"] members a b lines := by
  obtain ⟨one, two, split, first, second⟩ := exists_lexemes_compareLines segment
  have yields : verdict? one = some (.returnIf [d.identifier] ["_", d.identifier] true) := by
    rw [verdict?, first]
    rfl
  have denies : verdict? two = some (.returnIf ["_", d.identifier] [d.identifier] false) := by
    rw [verdict?, second]
    rfl
  rw [split, List.cons_append, List.cons_append, List.nil_append, run?, yields]
  simp only [Option.bind_eq_bind, Option.bind_some, isLess?_own mem other, decide_eq_true_eq]
  rw [run?, denies]
  simp only [Option.bind_eq_bind, Option.bind_some, isLess?_other mem other, decide_eq_true_eq]

/-- The statements about some fields tell whether one message comes before the other. -/
theorem run?_eq_iff {fields : List DeclaredField}
    (segments : ∀ d ∈ fields, isSegment d.identifier = true)
    (inside : ∀ d ∈ fields, d.identifier ∈ members) (other : ∀ d ∈ fields, d.identifier ≠ "_")
    (value : Bool) :
    run? lt ["_"] members a b (fields.flatMap compareLines ++ ["return false;"]) = some value ↔
      (value = true ↔ Precedes lt (fields.map (·.identifier)) a b) := by
  induction fields with
  | nil =>
    have last : verdict? "return false;" = some (.returns false) := by decide
    have told : run? lt ["_"] members a b ["return false;"] = some false := by
      rw [run?, last]
      rfl
    rw [List.flatMap_nil, List.nil_append, told]
    simp [not_precedes_nil]
  | cons d fields ih =>
    obtain ⟨segment, segments⟩ := List.forall_mem_cons.mp segments
    obtain ⟨mem, inside⟩ := List.forall_mem_cons.mp inside
    obtain ⟨own, other⟩ := List.forall_mem_cons.mp other
    rw [List.flatMap_cons, List.append_assoc, run?_compareLines segment mem own, List.map_cons,
      precedes_cons, ThenBy]
    by_cases less : lt d.identifier (a d.identifier) (b d.identifier)
    · simp [less]
    · by_cases greater : lt d.identifier (b d.identifier) (a d.identifier)
      · simp [less, greater, IncompRel]
      · rw [if_neg less, if_neg greater, ih segments inside other]
        simp [less, greater, IncompRel]

/-- `operator<` tells whether one message comes before the other. -/
theorem result?_less_eq_iff {name : String} {fields : List DeclaredField}
    (segments : ∀ d ∈ fields, isSegment d.identifier = true)
    (other : ∀ d ∈ fields, d.identifier ≠ "_") (value : Bool) :
    (less name fields).result? lt (Cpp.members fields) a b = some value ↔
      (value = true ↔ Precedes lt (Cpp.members fields) a b) := by
  have members := members_eq segments
  have inside : ∀ d ∈ fields, d.identifier ∈ Cpp.members fields := by
    intro d mem
    rw [members]
    exact List.mem_map_of_mem mem
  have told : run? lt ["_"] (Cpp.members fields) a b (less name fields).body = some value ↔
      (value = true ↔ Precedes lt (fields.map (·.identifier)) a b) :=
    run?_eq_iff segments inside other value
  rw [Method.result?, bound_less segments, told, members]

end Run

end Cpp

namespace OutputContext

universe u

variable {x : OutputContext} {r : Registry} {m : Message} {file : OutputFile}

/-- Fields are declared under their names. -/
theorem map_identifier_of_declared {c : Coder} {fs : List Field}
    {declared : List (DeclaredField × String)}
    (h : List.Forall₂ (fun f p => c.declared f = .ok p) fs declared) :
    (declared.map (·.1)).map (·.identifier) = fs.map (shown ·.name) := by
  induction h with
  | nil => rfl
  | cons one _ ih =>
    obtain ⟨-, identifier, -⟩ := Coder.of_declared one
    rw [List.map_cons, List.map_cons, List.map_cons, ih, identifier]

/-- The pieces of a message's file have its fields, under their names. -/
theorem map_identifier_of_messageParts {parts : MessageParts} (h : x.messageParts r m = .ok parts) :
    parts.message = m ∧ parts.fields.map (·.identifier) = m.fields.map (shown ·.name) := by
  rw [messageParts_eq] at h
  cases bare : x.bareParts r m with
  | error e =>
    rw [bare] at h
    cases h
  | ok b =>
    rw [bare] at h
    cases h
    obtain ⟨same, -, declared, made, fields, -⟩ := of_bareParts bare
    refine ⟨same, ?_⟩
    rw [fields]
    exact map_identifier_of_declared made

/-- The order of messages stands in the header of a message, and it is about the fields there. -/
theorem exists_less_of_messageFile (target : x.target = .cpp)
    (laid : x.messageFile r m = .ok file) :
    ∃ fields before behind, fields.map (·.identifier) = m.fields.map (shown ·.name) ∧
      file.content = before ++ endLines (Cpp.less (shown m.name) fields).lines ++ behind := by
  obtain ⟨parts, made, laid⟩ := exists_of_bind_eq_ok laid
  obtain ⟨values, valued, laid⟩ := exists_of_bind_eq_ok laid
  obtain ⟨content, rendered, laid⟩ := exists_of_bind_eq_ok laid
  obtain ⟨_, -, laid⟩ := exists_of_bind_eq_ok laid
  obtain ⟨path, -, laid⟩ := exists_of_bind_eq_ok laid
  cases laid
  obtain ⟨same, identifiers⟩ := map_identifier_of_messageParts made
  rw [target] at valued rendered
  cases given : m.name with
  | none =>
    -- the guard against including a header twice needs a name
    have fault : Target.cpp.messageValues parts = .error .nullName := by
      rw [Target.messageValues, Cpp.messageValues, same, given]
    cases fault.symm.trans valued
  | some name =>
    have named : parts.message.name = some name := by rw [same, given]
    have count : values.length = Cpp.messageTemplate.slots.length := by
      obtain ⟨others, nine, listed⟩ := Cpp.exists_messageValues named
      obtain rfl := Except.ok.inj (valued.symm.trans listed)
      rw [List.length_cons, List.length_cons, List.length_cons, nine]
      rfl
    have found : Cpp.messageTemplate.template Target.templates = .ok Template.cppMessage := rfl
    have text := Except.ok.inj (rendered.symm.trans (TemplateContract.render_eq found count))
    have back := Cpp.renderRows_backRows named valued
    obtain ⟨front, functions⟩ : ∃ front, Cpp.functionLines name parts.message.id.text parts.fields =
        front ++ (Cpp.less name parts.fields).lines ++ [indent 1 ++ "\x7d;"] := ⟨_, rfl⟩
    refine ⟨parts.fields,
      Template.renderRows (Cpp.messageTemplate.slots.zip values)
        (Template.cppMessage.rows.take 12) ++ endLines front,
      endLines [indent 1 ++ "\x7d;"] ++
        Template.renderRows (Cpp.messageTemplate.slots.zip values) Cpp.coderRows, identifiers, ?_⟩
    rw [functions, endLines_append, endLines_append] at back
    show content = _
    rw [text, Template.render_split _ _ 12]
    show _ ++ Template.renderRows _ Target.cpp.backRows = _
    rw [back]
    simp only [shown, Option.getD_some, String.append_assoc]

/-- The `operator<` in the header of a message, for any values of the fields and any strict weak
orders of them. It always tells something, and that is whether the one message comes before the
other by the first field that is not tied. This is a strict weak order of messages, and messages are
tied in it if they are tied in all fields. -/
theorem isStrictWeakOrder_of_messageFile (target : x.target = .cpp)
    (names : ∀ f ∈ m.fields, f.name.any TypeName.isName = true ∧ f.name ≠ some "_")
    (laid : x.messageFile r m = .ok file) :
    ∃ fields before behind,
      file.content = before ++ endLines (Cpp.less (shown m.name) fields).lines ++ behind ∧
      Cpp.members fields = m.fields.map (shown ·.name) ∧
      ∀ (V : String → Type u) (lt : ∀ n, V n → V n → Prop) [∀ n, DecidableRel (lt n)],
        (∀ f ∈ m.fields, IsStrictWeakOrder (V (shown f.name)) (lt (shown f.name))) →
        (∀ a b, ∃ value,
          (Cpp.less (shown m.name) fields).result? lt (Cpp.members fields) a b = some value ∧
            (value = true ↔ Cpp.Precedes lt (m.fields.map (shown ·.name)) a b)) ∧
        IsStrictWeakOrder (∀ n, V n) (fun a b =>
          (Cpp.less (shown m.name) fields).result? lt (Cpp.members fields) a b = some true) ∧
        ∀ a b, IncompRel (fun a b =>
            (Cpp.less (shown m.name) fields).result? lt (Cpp.members fields) a b = some true) a b ↔
          ∀ f ∈ m.fields,
            IncompRel (lt (shown f.name)) (a (shown f.name)) (b (shown f.name)) := by
  obtain ⟨fields, before, behind, identifiers, content⟩ := exists_less_of_messageFile target laid
  have shown_ : ∀ d ∈ fields, ∃ f ∈ m.fields, shown f.name = d.identifier := by
    intro d mem
    have inside : d.identifier ∈ m.fields.map (shown ·.name) := by
      rw [← identifiers]
      exact List.mem_map_of_mem mem
    exact List.mem_map.mp inside
  have segments : ∀ d ∈ fields, isSegment d.identifier = true := by
    intro d mem
    obtain ⟨f, inside, same⟩ := shown_ d mem
    obtain ⟨n, given, isName⟩ := (Option.any_eq_true _ _).mp (names f inside).1
    rw [← same, given]
    exact Script.isSegment_of_isName isName
  have other : ∀ d ∈ fields, d.identifier ≠ "_" := by
    intro d mem same
    obtain ⟨f, inside, identifier⟩ := shown_ d mem
    obtain ⟨name, apart⟩ := names f inside
    exact apart ((shown_eq_iff name "_").mp (identifier.trans same))
  have members : Cpp.members fields = m.fields.map (shown ·.name) := by
    rw [Cpp.members_eq segments, identifiers]
  refine ⟨fields, before, behind, content, members, ?_⟩
  intro V lt _ ordered
  have told : (fun a b =>
      (Cpp.less (shown m.name) fields).result? lt (Cpp.members fields) a b = some true) =
      Cpp.Precedes lt (m.fields.map (shown ·.name)) := by
    funext a b
    rw [Cpp.result?_less_eq_iff segments other, members]
    simp
  refine ⟨?_, ?_, ?_⟩
  · intro a b
    obtain ⟨value, precedes⟩ : ∃ value : Bool,
        value = true ↔ Cpp.Precedes lt (m.fields.map (shown ·.name)) a b := by
      classical exact ⟨decide _, decide_eq_true_iff⟩
    refine ⟨value, ?_, precedes⟩
    rw [Cpp.result?_less_eq_iff segments other, members]
    exact precedes
  · rw [told]
    exact Cpp.isStrictWeakOrder_precedes (List.forall_mem_map.mpr ordered)
  · intro a b
    rw [told, Cpp.incompRel_precedes_iff, List.forall_mem_map]

namespace Sample

/-- Numbers by their halves: each even number is tied with the next one. -/
def halfLess (i j : Nat) : Prop := i / 2 < j / 2

instance : DecidableRel halfLess := fun i j => inferInstanceAs (Decidable (i / 2 < j / 2))

instance : IsStrictWeakOrder Nat halfLess where
  irrefl i := Nat.lt_irrefl (i / 2)
  trans i j k := Nat.lt_trans
  incomp_trans i j k := by
    unfold halfLess
    omega

/-- A box whose first field is tied with that of `heavy`, and whose second one is less. -/
def light (name : String) : Nat := if name = "items" then 5 else if name = "sizes" then 1 else 9

/-- A box to compare with `light`. -/
def heavy (name : String) : Nat := if name = "items" then 4 else if name = "sizes" then 6 else 2

end Sample

/-- The first field is tied, the second one decides, and the third one would decide otherwise. -/
theorem isStrictWeakOrder_of_messageFile_sample : ∃ (r : Registry) (m : Message) (x : OutputContext)
    (file : OutputFile) (fields : List DeclaredField) (before behind : String),
    Registry.ofDefinition Sample.modest = .ok r ∧ m ∈ r.messages ∧
    m.fields.map (·.name) = [some "items", some "sizes", some "packets"] ∧ x.target = .cpp ∧
    x.messageFile r m = .ok file ∧
    file.content = before ++ endLines (Cpp.less (shown m.name) fields).lines ++ behind ∧
    (Cpp.less (shown m.name) fields).result? (fun _ => Sample.halfLess) (Cpp.members fields)
      Sample.light Sample.heavy = some true ∧
    IsStrictWeakOrder (String → Nat) fun a b =>
      (Cpp.less (shown m.name) fields).result? (fun _ => Sample.halfLess) (Cpp.members fields) a b =
        some true := by
  obtain ⟨r, made⟩ : ∃ r, Registry.ofDefinition Sample.modest = .ok r := ⟨_, by cbv⟩
  have facts : ∃ m ∈ r.messages, m.name = some "Box" ∧
      m.fields.map (·.name) = [some "items", some "sizes", some "packets"] ∧
      m.fields.map (shown ·.name) = ["items", "sizes", "packets"] ∧
      (∀ m ∈ r.messages, m.module ≠ none) ∧ m.id ≠ .null ∧
      ∃ ids, r.dependencies m.id = .ok ids := by
    obtain rfl := Except.ok.inj (made.symm.trans (by cbv))
    refine ⟨_, .tail _ (.head _), rfl, rfl, rfl, ?_, by simp, _, by cbv⟩
    exact List.forall_mem_cons.mpr ⟨by simp, List.forall_mem_singleton.mpr (by simp)⟩
  obtain ⟨m, hm, name, names, shown_, modules, id, ids, told⟩ := facts
  obtain ⟨x, file, target, laid⟩ := exists_context_of_dependencies
    (Registry.isBuilt_of_ofDefinition made) modules .cpp hm id (by simp [name]) told
  have given : ∀ n ∈ m.fields.map (·.name), n.any TypeName.isName = true ∧ n ≠ some "_" := by
    rw [names]
    decide
  obtain ⟨fields, before, behind, content, -, orders⟩ := isStrictWeakOrder_of_messageFile target
    (fun f mem => given _ (List.mem_map_of_mem mem)) laid
  obtain ⟨tells, ordered, -⟩ :=
    orders (fun _ => Nat) (fun _ => Sample.halfLess) fun _ _ => inferInstance
  obtain ⟨value, result, precedes⟩ := tells Sample.light Sample.heavy
  have first : Cpp.Precedes (fun _ => Sample.halfLess) (m.fields.map (shown ·.name)) Sample.light
      Sample.heavy := by
    rw [shown_]
    exact ⟨["items"], "sizes", ["packets"], rfl, List.forall_mem_singleton.mpr (by decide),
      by decide⟩
  rw [precedes.mpr first] at result
  exact ⟨r, m, x, file, fields, before, behind, made, hm, names, target, laid, content, result,
    ordered⟩

end OutputContext

end PacketSmith
