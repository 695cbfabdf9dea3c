import Mathlib
import PacketSmith.Proofs.DefinitionChecks
import PacketSmith.Proofs.TypeNameText

/-!
# Which type names have a meaning, and what it is

A type name that a text spells has a meaning exactly if every name inside it is well kinded: a
container has the number of parameters of its kind, and a name alone is a primitive spelling or a
message. Otherwise the fault is that of the first name that is not, where each name comes before its
parameters (`resolve_of_read?`).

* What is wrong with a name itself can be computed (`TypeName.ownFault?`), and the fault of the
  whole name is the first that is met on the walk (`faultOf?_resolve`). The induction follows the
  name; parameters are gone through in order, as on the walk.
* The meaning is a tree of the same shape. Each wire type in it carries the name that stands at its
  place, and its tag, the number of its parameters and its id are told by that name
  (`WireType.Mirrors`).
-/

namespace PacketSmith

/-! ### Names inside names -/

namespace TypeName

mutual

/-- The name and all names inside it, each before its parameters. -/
def walk : TypeName → List TypeName
  | mk head params => mk head params :: walkAll params

/-- The names and all names inside them. -/
def walkAll : List TypeName → List TypeName
  | [] => []
  | t :: ts => walk t ++ walkAll ts

end

/-- The name itself is well kinded, given the messages: an array, a container with the number of
parameters of its kind, or the name of a primitive or of a message. -/
inductive IsKinded (ids : MessageIds) : TypeName → Prop where
  | array (e : TypeName) : IsKinded ids (array e)
  | list (e : TypeName) : IsKinded ids (mk "List" [e])
  | set (e : TypeName) : IsKinded ids (mk "Set" [e])
  | map (k v : TypeName) : IsKinded ids (mk "Map" [k, v])
  | primitive {word : String} : word ∈ primitives.map (·.1) → IsKinded ids (simple word)
  | message {head : String} : head ∈ ids.map (·.1) → IsKinded ids (simple head)

/-- What is wrong with a name itself, whatever may be wrong inside it. -/
def ownFault? (ids : MessageIds) : TypeName → Option Fault
  | mk head [] =>
    if head = arrayHead ∨ head ∈ primitives.map (·.1) ∨ head ∈ ids.map (·.1) then none
    else some (.unknownType head)
  | mk head (p :: ps) =>
    if head = arrayHead then none
    else
      match containers.lookup head with
      | none => (mk head (p :: ps)).text?.map .unsupportedGeneric
      | some (_, takes) =>
        if (p :: ps).length = takes then none
        else some (.wrongArity head takes (p :: ps).length)

variable {ids : MessageIds} {t : TypeName}

/-- A key is in a table exactly if it has a value there. -/
theorem mem_map_fst_iff {α : Type} {table : List (String × α)} {key : String} :
    key ∈ table.map (·.1) ↔ ∃ value, table.lookup key = some value := by
  rw [← Option.ne_none_iff_exists', ne_eq, List.lookup_eq_none_iff]
  simp [List.mem_map]

/-- The meaning of a name alone: a primitive spelling comes before a message. -/
theorem faultOf?_resolve_simple {head : String} (name : isName head = true) :
    faultOf? ((simple head).resolve ids) = ownFault? ids (simple head) := by
  have plain := ne_arrayHead_of_isName name
  rw [simple, resolve, if_neg (by simpa using plain), ownFault?]
  cases primitive : primitives.lookup head with
  | some kind => rw [if_pos (.inr (.inl (mem_map_fst_iff.mpr ⟨kind, primitive⟩)))]; rfl
  | none =>
    cases message : ids.lookup head with
    | some id => rw [if_pos (.inr (.inr (mem_map_fst_iff.mpr ⟨id, message⟩)))]; rfl
    | none =>
      rw [if_neg]
      · rfl
      · rintro (same | known | known)
        · exact plain same
        · simp [mem_map_fst_iff, primitive] at known
        · simp [mem_map_fst_iff, message] at known

/-- Nothing is wrong with a well-formed name itself exactly if it is well kinded. -/
theorem ownFault?_eq_none_iff (wf : t.WellFormed) : ownFault? ids t = none ↔ IsKinded ids t := by
  constructor
  · intro none
    cases wf with
    | array wf => exact .array _
    | @named head params name wf =>
      have plain := ne_arrayHead_of_isName name
      cases params with
      | nil =>
        rw [ownFault?] at none
        split at none
        · rename_i known
          rcases known with same | primitive | message
          · exact absurd same plain
          · exact .primitive primitive
          · exact .message message
        · cases none
      | cons p ps =>
        rw [ownFault?, if_neg plain] at none
        split at none
        · -- a well-formed name has a text, so that the fault can be told
          obtain ⟨text, printed, -⟩ := exists_text_of_wellFormed (.named name wf)
          rw [printed] at none
          cases none
        · rename_i tag takes found
          split at none
          · rename_i count
            rcases container_cases found with ⟨rfl, -, rfl⟩ | ⟨rfl, -, rfl⟩ | ⟨rfl, -, rfl⟩
            · obtain rfl : ps = [] := by simpa using count
              exact .list p
            · obtain rfl : ps = [] := by simpa using count
              exact .set p
            · obtain ⟨q, rfl⟩ : ∃ q, ps = [q] := List.length_eq_one_iff.mp (by simpa using count)
              exact .map p q
          · cases none
  · intro kinded
    cases kinded with
    | array e => rfl
    | list e => rfl
    | set e => rfl
    | map k v => rfl
    | primitive known => rw [simple, ownFault?, if_pos (.inr (.inl known))]
    | message known => rw [simple, ownFault?, if_pos (.inr (.inr known))]

/-- Parameters fail with the first fault that is met on the walk, if each of them does. -/
theorem faultOf?_resolveAll {ts : List TypeName}
    (h : ∀ t ∈ ts, faultOf? (t.resolve ids) = t.walk.findSome? (ownFault? ids)) :
    faultOf? (resolveAll ids ts) = (walkAll ts).findSome? (ownFault? ids) := by
  induction ts with
  | nil => rfl
  | cons t ts ih =>
    obtain ⟨first, others⟩ := List.forall_mem_cons.mp h
    rw [walkAll, List.findSome?_append, ← first, ← ih others, resolveAll]
    cases t.resolve ids with
    | error e => rfl
    | ok w => cases resolveAll ids ts <;> rfl

/-- A well-formed name fails with the first fault that is met on the walk. -/
theorem faultOf?_resolve (wf : t.WellFormed) :
    faultOf? (t.resolve ids) = t.walk.findSome? (ownFault? ids) := by
  induction wf with
  | @array e _ ih =>
    have own : ownFault? ids (array e) = none := rfl
    rw [array] at own ⊢
    rw [walk, List.findSome?_cons, own, walkAll, walkAll, List.append_nil, ← ih, resolve,
      if_pos (by rfl), resolveFirst]
    cases e.resolve ids <;> rfl
  | @named head params name wf ih =>
    have plain := ne_arrayHead_of_isName name
    cases params with
    | nil =>
      rw [walk, List.findSome?_cons, walkAll]
      have own : faultOf? ((mk head []).resolve ids) = ownFault? ids (mk head []) :=
        faultOf?_resolve_simple name
      rw [own]
      cases ownFault? ids (mk head []) <;> rfl
    | cons p ps =>
      rw [walk, List.findSome?_cons, ← faultOf?_resolveAll ih, ownFault?, if_neg plain, resolve,
        if_neg (by simpa using plain)]
      cases containers.lookup head with
      | none =>
        obtain ⟨text, printed, -⟩ := exists_text_of_wellFormed (.named name wf)
        simp only [printed]
        rfl
      | some kind =>
        obtain ⟨tag, takes⟩ := kind
        simp only
        by_cases count : (p :: ps).length = takes
        · rw [if_neg (by simpa using count), if_pos count]
          cases resolveAll ids (p :: ps) <;> rfl
        · rw [if_pos count, if_neg count]
          rfl

/-- A name inside others is inside one of them. -/
theorem mem_walkAll {ts : List TypeName} {u : TypeName} :
    u ∈ walkAll ts ↔ ∃ t ∈ ts, u ∈ t.walk := by
  induction ts with
  | nil => simp [walkAll]
  | cons t ts ih => simp [walkAll, ih]

/-- The names inside a well-formed name are well formed. -/
theorem WellFormed.of_mem_walk (wf : t.WellFormed) {u : TypeName} (mem : u ∈ t.walk) :
    u.WellFormed := by
  induction wf with
  | @array e inner ih =>
    rw [TypeName.array, walk, List.mem_cons, mem_walkAll] at mem
    rcases mem with rfl | ⟨p, inside, deeper⟩
    · exact .array inner
    · obtain rfl := List.mem_singleton.mp inside
      exact ih deeper
  | @named head params name inner ih =>
    rw [walk, List.mem_cons, mem_walkAll] at mem
    rcases mem with rfl | ⟨p, inside, deeper⟩
    · exact .named name inner
    · exact ih p inside deeper

/-- The tag that a well-kinded name stands for. A primitive spelling comes before a message. -/
def tag (t : TypeName) : Tag :=
  if t.isArray then .sequence .array
  else if t.params.isEmpty then (primitives.lookup t.head).elim .message .scalar
  else if t.head = "List" then .sequence .list
  else if t.head = "Set" then .sequence .set
  else .map

/-- The tag of a name alone is that of its primitive spelling, or else that of a message. -/
theorem tag_simple {head : String} (name : isName head = true) :
    (simple head).tag = (primitives.lookup head).elim .message .scalar := by
  have plain : (simple head).isArray = false := by
    simpa [isArray, simple, TypeName.head] using ne_arrayHead_of_isName name
  rw [tag, if_neg (by simp [plain]), if_pos (by rfl)]
  rfl

end TypeName

/-! ### Meanings -/

/-- The number of parameters that types of a tag have. -/
def Tag.arity : Tag → Nat
  | scalar _ => 0
  | sequence _ => 1
  | map => 2
  | message => 0
  | custom _ => 0

namespace WireType

variable {ids : TypeName.MessageIds} {w : WireType}

/-- The wire type says what its name says, given the ids of messages by name. -/
structure Mirrors (ids : TypeName.MessageIds) (w : WireType) : Prop where
  /-- The parameters carry the parameters of the name, in their order. -/
  params : w.params.map (·.name) = w.name.params
  /-- The tag is that of the name. -/
  tag : w.tag = w.name.tag
  /-- There are as many parameters as the tag asks for. -/
  arity : w.params.length = w.tag.arity
  /-- A nested message carries the id of its name, and nothing else carries an id. -/
  id : if w.tag = .message then ids.lookup w.name.head = some w.id else w.id = .null
  /-- A primitive spelling is no message, also where there is a message of that name. -/
  primitive : ∀ kind, TypeName.primitives.lookup w.name.head = some kind → w.name.params = [] →
    w.tag = .scalar kind ∧ w.id = .null

/-- A resolved type says what its name says. -/
theorem Resolved.mirrors (h : w.Resolved ids) : w.Mirrors ids := by
  cases h with
  | @scalar word kind known =>
    obtain ⟨before, after, table, -⟩ := List.lookup_eq_some_iff.mp known
    have name : TypeName.isName word = true := by
      have all : ∀ p ∈ TypeName.primitives, TypeName.isName p.1 = true := by decide
      exact all (word, kind) (by simp [table])
    have own : (TypeName.simple word).tag = .scalar kind := by
      rw [TypeName.tag_simple name, known]
      rfl
    refine ⟨rfl, own.symm, rfl, by simp [WireType.tag, WireType.id], fun other found _ => ?_⟩
    obtain rfl := Option.some.inj (known.symm.trans found)
    exact ⟨rfl, rfl⟩
  | @sequence kind e _ =>
    refine ⟨by cases kind <;> rfl, by cases kind <;> rfl, rfl, by simp [WireType.tag, WireType.id],
      ?_⟩
    intro other _ alone
    cases kind <;> cases alone
  | map _ _ =>
    refine ⟨rfl, rfl, rfl, by simp [WireType.tag, WireType.id], ?_⟩
    intro other _ alone
    cases alone
  | @message head id name other known =>
    have own : (TypeName.simple head).tag = .message := by
      rw [TypeName.tag_simple name, other]
      rfl
    refine ⟨rfl, own.symm, rfl, ?_, fun kind found _ => ?_⟩
    · rw [if_pos (by rfl)]
      exact known
    · cases other.symm.trans found

/-- The walk through a resolved type goes along the walk through its name. -/
theorem Resolved.map_name_walk (h : w.Resolved ids) : w.walk.map (·.name) = w.name.walk := by
  induction h with
  | scalar known => rfl
  | @sequence kind e _ ih =>
    have inner : (kind.typeName e.name).walk = kind.typeName e.name :: e.name.walk := by
      cases kind <;> simp [TypeName.walk, TypeName.walkAll, Sequence.typeName, TypeName.array]
    rw [walk, walkAll, walkAll, List.append_nil, List.map_cons, ih]
    exact inner.symm
  | @map k v _ _ ihk ihv =>
    have inner : (TypeName.mk "Map" [k.name, v.name]).walk =
        .mk "Map" [k.name, v.name] :: (k.name.walk ++ v.name.walk) := by
      simp [TypeName.walk, TypeName.walkAll]
    rw [walk, walkAll, walkAll, walkAll, List.append_nil, List.map_cons, List.map_append, ihk, ihv]
    exact inner.symm
  | message _ _ _ => rfl

end WireType

namespace TypeName

/-- A type name that a text spells has a meaning exactly if all names inside it are well kinded. The
meaning has the shape of the name, and each wire type in it says what the name at its place says.
Otherwise the fault is that of the first name on the walk that is not well kinded. -/
theorem resolve_of_read? {s : String} {t : TypeName} (read : read? s = some t) (ids : MessageIds) :
    ((∃ w, t.resolve ids = .ok w) ↔ ∀ u ∈ t.walk, IsKinded ids u) ∧
    (∀ w, t.resolve ids = .ok w →
      w.walk.map (·.name) = t.walk ∧ ∀ v ∈ w.walk, v.Mirrors ids) ∧
    ∀ e, t.resolve ids = .error e ↔ ∃ before u after, t.walk = before ++ u :: after ∧
      (∀ v ∈ before, IsKinded ids v) ∧ ownFault? ids u = some e := by
  have wf := wellFormed_of_read? read
  have first : faultOf? (t.resolve ids) = t.walk.findSome? (ownFault? ids) := faultOf?_resolve wf
  have own : ∀ u ∈ t.walk, (ownFault? ids u = none ↔ IsKinded ids u) :=
    fun u mem => ownFault?_eq_none_iff (wf.of_mem_walk mem)
  refine ⟨?_, fun w means => ?_, fun e => ?_⟩
  · rw [← faultOf?_eq_none_iff, first, List.findSome?_eq_none_iff]
    exact forall₂_congr own
  · have resolved := resolved_of_resolve wf means
    refine ⟨?_, fun v mem => (resolved.of_mem_walk mem).mirrors⟩
    rw [resolved.map_name_walk, name_of_resolve means]
  · rw [← faultOf?_eq_some_iff, first, List.findSome?_eq_some_iff]
    constructor
    · rintro ⟨before, u, after, split, fault, clean⟩
      refine ⟨before, u, after, split, fun v mem => ?_, fault⟩
      exact (own v (by simp [split, mem])).mp (clean v mem)
    · rintro ⟨before, u, after, split, kinded, fault⟩
      refine ⟨before, u, after, split, fault, fun v mem => ?_⟩
      exact (own v (by simp [split, mem])).mpr (kinded v mem)

/-- The messages of the next statement. One of them has a primitive spelling as its name. -/
def Sample.ids : MessageIds := [("Integer", .number 4), ("Item", .number 7)]

/-- A name with a meaning, in which a primitive spelling is no message, and a name whose second
fault is not told. -/
theorem resolve_of_read?_sample : ∃ t u w,
    read? "java.util.Map<Integer, Set<Item[]>>" = some t ∧
    read? "Map<Item, List<Item, Part<Item>>>" = some u ∧
    t.resolve Sample.ids = .ok w ∧
    w.walk.map (·.tag) = [.map, .scalar .int, .sequence .set, .sequence .array, .message] ∧
    u.resolve Sample.ids = .error (.wrongArity "List" 1 2) := by
  have first : read? "java.util.Map<Integer, Set<Item[]>>" =
      some (mk "Map" [simple "Integer", mk "Set" [array (simple "Item")]]) := by cbv
  have second : read? "Map<Item, List<Item, Part<Item>>>" =
      some (mk "Map" [simple "Item", mk "List" [simple "Item", mk "Part" [simple "Item"]]]) := by
    cbv
  have integer : IsKinded Sample.ids (simple "Integer") := .primitive (by decide)
  have item : IsKinded Sample.ids (simple "Item") := .message (by decide)
  obtain ⟨succeeds, means, -⟩ := resolve_of_read? first Sample.ids
  obtain ⟨-, -, fails⟩ := resolve_of_read? second Sample.ids
  obtain ⟨w, made⟩ := succeeds.mpr (by
    simp only [walk, walkAll, simple, array, List.append_nil, List.cons_append, List.nil_append,
      List.forall_mem_cons]
    exact ⟨.map _ _, integer, .set _, .array _, item, by simp⟩)
  obtain ⟨shape, mirrors⟩ := means w made
  refine ⟨_, _, w, first, second, made, ?_, (fails _).mpr ?_⟩
  · have tags : w.walk.map (·.tag) = (w.walk.map (·.name)).map tag := by
      rw [List.map_map]
      exact List.map_congr_left fun v mem => (mirrors v mem).tag
    rw [tags, shape]
    rfl
  · refine ⟨[_, simple "Item"], _, _, rfl, ?_, rfl⟩
    exact List.forall_mem_cons.mpr ⟨.map _ _, List.forall_mem_singleton.mpr item⟩

end TypeName

end PacketSmith
