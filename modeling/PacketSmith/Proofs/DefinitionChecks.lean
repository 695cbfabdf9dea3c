import Mathlib.Data.List.Induction
import PacketSmith.Proofs.BuiltRegistry

/-!
# Which definitions become registries, and what is wrong with the others

A definition becomes a registry exactly if its message names are distinct, the type of every field
has a meaning among all its messages, and its ids are distinct; otherwise the fault is the first
defect in this order (`ofDefinition_iff_first_defect`).

Each of the three checks is compared with a condition on lists that says nothing of how it is made.

* Names and ids: the first item that repeats an earlier one (`IsFirstRepeat`). Both checks are one
  search (`firstRepeat?`), and a list either has such an item or is without repetitions
  (`nodup_or_exists_isFirstRepeat`).
* Types: the first fault among the fields of all messages, in their order (`fieldsOf`). Building the
  messages one by one meets that fault first (`faultOf?_mapM_buildMessage`), although the fields of
  a message are built with a flag that is carried along.

What is built keeps everything but the texts of types, and the flag says whether a compatible field
came before (`BuildsTo`).
-/

namespace PacketSmith

/-! ### First repetitions -/

section Repeats

variable {α β : Type} {key : α → β}

/-- The item is the first one of the list whose key is that of an earlier item. -/
def IsFirstRepeat (key : α → β) (xs : List α) (x : α) : Prop :=
  ∃ before after, xs = before ++ x :: after ∧ (before.map key).Nodup ∧ key x ∈ before.map key

/-- A list has no repetition or a first one. -/
theorem nodup_or_exists_isFirstRepeat (key : α → β) (xs : List α) :
    (xs.map key).Nodup ∨ ∃ x, IsFirstRepeat key xs x := by
  induction xs using List.reverseRecOn with
  | nil => exact .inl List.nodup_nil
  | append_singleton xs x ih =>
    rcases ih with distinct | ⟨y, before, after, rfl, distinct, repeated⟩
    · by_cases repeated : key x ∈ xs.map key
      · exact .inr ⟨x, xs, [], rfl, distinct, repeated⟩
      · left
        rw [List.map_append, List.map_singleton, ← List.concat_eq_append]
        exact distinct.concat repeated
    · exact .inr ⟨y, before, after ++ [x], by simp, distinct, repeated⟩

variable [BEq β] [LawfulBEq β]

/-- The first item whose key is that of an earlier one, where `seen` holds the keys before. -/
def firstRepeat? (key : α → β) (seen : List β) : List α → Option α
  | [] => none
  | x :: xs => if seen.contains (key x) then some x else firstRepeat? key (key x :: seen) xs

/-- The search goes on behind items that are new. -/
theorem firstRepeat?_append {seen : List β} {before : List α} (distinct : (before.map key).Nodup)
    (apart : ∀ y ∈ before, key y ∉ seen) (rest : List α) :
    firstRepeat? key seen (before ++ rest) =
      firstRepeat? key ((before.map key).reverse ++ seen) rest := by
  induction before generalizing seen with
  | nil => rfl
  | cons y ys ih =>
    obtain ⟨fresh, others⟩ := List.forall_mem_cons.mp apart
    rw [List.map_cons, List.nodup_cons] at distinct
    have next : ∀ z ∈ ys, key z ∉ key y :: seen := by
      intro z mem
      rw [List.mem_cons, not_or]
      refine ⟨fun same => distinct.1 ?_, others z mem⟩
      exact same ▸ List.mem_map_of_mem mem
    rw [List.cons_append, firstRepeat?, if_neg (by simpa using fresh), ih distinct.2 next]
    simp

/-- The search finds the first repetition. -/
theorem firstRepeat?_of_isFirstRepeat {xs : List α} {x : α} (h : IsFirstRepeat key xs x) :
    firstRepeat? key [] xs = some x := by
  obtain ⟨before, after, rfl, distinct, repeated⟩ := h
  rw [firstRepeat?_append distinct (by simp), firstRepeat?, if_pos (by simpa using repeated)]

/-- The search finds nothing in a list without repetitions. -/
theorem firstRepeat?_of_nodup {xs : List α} (distinct : (xs.map key).Nodup) :
    firstRepeat? key [] xs = none := by
  have all := firstRepeat?_append distinct (by simp : ∀ y ∈ xs, key y ∉ []) []
  rw [List.append_nil] at all
  rw [all, firstRepeat?]

end Repeats

/-- Names are checked by the search for a repetition. -/
theorem repeatedName?_eq (seen : List (Option String)) (ds : List MessageDefinition) :
    repeatedName? seen ds =
      (firstRepeat? (fun n => n) seen (ds.map MessageDefinition.name)).map shown := by
  induction ds generalizing seen with
  | nil => rfl
  | cons d ds ih =>
    rw [repeatedName?, List.map_cons, firstRepeat?]
    split
    · rfl
    · exact ih (d.name :: seen)

/-- Ids are checked by the search for a repetition. -/
theorem Registry.repeatedId?_eq (seen : List (Option Int)) (ms : List Message) :
    repeatedId? seen ms = firstRepeat? MessageId.key seen (ms.map Message.id) := by
  induction ms generalizing seen with
  | nil => rfl
  | cons m ms ih =>
    rw [repeatedId?, List.map_cons, firstRepeat?]
    split
    · rfl
    · exact ih (m.id.key :: seen)

/-! ### First faults -/

/-- What goes wrong, if anything does. -/
def faultOf? {α : Type} : Except Fault α → Option Fault
  | .ok _ => none
  | .error e => some e

section Faults

variable {α β : Type} {r : Except Fault α}

theorem faultOf?_eq_none_iff : faultOf? r = none ↔ ∃ a, r = .ok a := by
  cases r <;> simp [faultOf?]

theorem faultOf?_eq_some_iff {e : Fault} : faultOf? r = some e ↔ r = .error e := by
  cases r <;> simp [faultOf?]

/-- A list that is made item by item fails with the first item that does. -/
theorem faultOf?_mapM (f : α → Except Fault β) (xs : List α) :
    faultOf? (xs.mapM f) = xs.findSome? fun x => faultOf? (f x) := by
  induction xs with
  | nil => rfl
  | cons x xs ih =>
    rw [List.mapM_cons, List.findSome?_cons, ← ih]
    cases f x with
    | error e => rfl
    | ok y => cases xs.mapM f <;> rfl

end Faults

/-- The fields of a definition, which are none where a file has null. -/
def MessageDefinition.fieldList (d : MessageDefinition) : List FieldDefinition := d.fields.getD []

/-- The fields of all messages in order, each with its message. -/
def fieldsOf (ds : List MessageDefinition) : List (MessageDefinition × FieldDefinition) :=
  ds.flatMap fun d => d.fieldList.map fun f => (d, f)

theorem fieldsOf_cons (d : MessageDefinition) (ds : List MessageDefinition) :
    fieldsOf (d :: ds) = (d.fieldList.map fun f => (d, f)) ++ fieldsOf ds := by
  rw [fieldsOf, List.flatMap_cons, fieldsOf]

namespace FieldDefinition

/-- The text of the field's type is a type name that has the meaning. -/
def Means (ids : TypeName.MessageIds) (f : FieldDefinition) (w : WireType) : Prop :=
  ∃ text t, f.type = some text ∧ TypeName.read? text = some t ∧ t.resolve ids = .ok w

/-- The text of the field's type is no type name, or one without a meaning, for the given cause. -/
def Fails (ids : TypeName.MessageIds) (f : FieldDefinition) (cause : Fault) : Prop :=
  ∃ text, f.type = some text ∧
    ((TypeName.read? text = none ∧ cause = .malformedType text) ∨
      ∃ t, TypeName.read? text = some t ∧ t.resolve ids = .error cause)

end FieldDefinition

section Fields

variable {ids : TypeName.MessageIds} {message : Option String} {f : FieldDefinition}

/-- The type of a field is found if it has a meaning. -/
theorem typeInField_eq_ok_iff {w : WireType} :
    typeInField ids message f.name f.type = .ok w ↔ f.Means ids w := by
  unfold typeInField FieldDefinition.Means
  cases type : f.type with
  | none => simp
  | some text => cases read : TypeName.read? text with
    | none => simp [typeOfText, read]
    | some t => cases meaning : t.resolve ids <;> simp [typeOfText, read, meaning]

/-- The fault of a field whose type is not null names the message, the field and the cause. -/
theorem typeInField_eq_error_iff (given : f.type ≠ none) {e : Fault} :
    typeInField ids message f.name f.type = .error e ↔
      ∃ cause, f.Fails ids cause ∧ e = .inField (shown message) (shown f.name) cause := by
  unfold typeInField FieldDefinition.Fails
  cases type : f.type with
  | none => exact absurd type given
  | some text => cases read : TypeName.read? text with
    | none => simp [typeOfText, read, eq_comm]
    | some t => cases meaning : t.resolve ids <;> simp [typeOfText, read, meaning, eq_comm]

/-- The fields of a message fail with the first one that does; the flag does not matter. -/
theorem faultOf?_buildFields (before : Option Bool) (fs : List FieldDefinition) :
    faultOf? (buildFields ids message before fs) =
      fs.findSome? fun f => faultOf? (typeInField ids message f.name f.type) := by
  induction fs generalizing before with
  | nil => rfl
  | cons f fs ih =>
    rw [buildFields, List.findSome?_cons, ← ih (carryFlag before f.compatible)]
    cases typeInField ids message f.name f.type with
    | error e => rfl
    | ok w =>
      show faultOf? (buildFields ids message (carryFlag before f.compatible) fs >>= _) = _
      cases buildFields ids message (carryFlag before f.compatible) fs <;> rfl

/-- A message fails with the first field that does. -/
theorem faultOf?_buildMessage {d : MessageDefinition} (given : d.fields ≠ none) :
    faultOf? (buildMessage ids d) =
      d.fieldList.findSome? fun f => faultOf? (typeInField ids d.name f.name f.type) := by
  unfold buildMessage MessageDefinition.fieldList
  cases fields : d.fields with
  | none => exact absurd fields given
  | some fs =>
    rw [Option.getD_some, ← faultOf?_buildFields (some false)]
    show faultOf? (buildFields ids d.name (some false) fs >>= _) = _
    cases buildFields ids d.name (some false) fs <;> rfl

/-- Messages that are built one by one fail with the first of all their fields that does. -/
theorem faultOf?_mapM_buildMessage {ds : List MessageDefinition}
    (given : ∀ d ∈ ds, d.fields ≠ none) :
    faultOf? (ds.mapM (buildMessage ids)) =
      (fieldsOf ds).findSome? fun p => faultOf? (typeInField ids p.1.name p.2.name p.2.type) := by
  rw [faultOf?_mapM]
  induction ds with
  | nil => rfl
  | cons d ds ih =>
    obtain ⟨first, others⟩ := List.forall_mem_cons.mp given
    rw [fieldsOf_cons, List.findSome?_append, List.findSome?_map, List.findSome?_cons,
      faultOf?_buildMessage first, ih others]
    simp only [Function.comp_def]
    cases d.fieldList.findSome? fun f => faultOf? (typeInField ids d.name f.name f.type) <;> rfl

variable {ds : List MessageDefinition} (lists : ∀ d ∈ ds, d.fields ≠ none)

include lists

/-- All messages are built if the types of all fields have meanings. -/
theorem exists_mapM_buildMessage_iff :
    (∃ ms, ds.mapM (buildMessage ids) = .ok ms) ↔ ∀ p ∈ fieldsOf ds, ∃ w, p.2.Means ids w := by
  rw [← faultOf?_eq_none_iff, faultOf?_mapM_buildMessage lists, List.findSome?_eq_none_iff]
  simp only [faultOf?_eq_none_iff, typeInField_eq_ok_iff]

/-- Otherwise the fault is that of the first field whose type has no meaning. -/
theorem mapM_buildMessage_eq_error_iff (types : ∀ p ∈ fieldsOf ds, p.2.type ≠ none) {e : Fault} :
    ds.mapM (buildMessage ids) = .error e ↔
      ∃ before d f after cause, fieldsOf ds = before ++ (d, f) :: after ∧
        (∀ p ∈ before, ∃ w, p.2.Means ids w) ∧ f.Fails ids cause ∧
        e = .inField (shown d.name) (shown f.name) cause := by
  rw [← faultOf?_eq_some_iff, faultOf?_mapM_buildMessage lists, List.findSome?_eq_some_iff]
  simp only [faultOf?_eq_none_iff, faultOf?_eq_some_iff, typeInField_eq_ok_iff]
  constructor
  · rintro ⟨before, ⟨d, f⟩, after, split, fails, fine⟩
    have given : f.type ≠ none := types (d, f) (by simp [split])
    obtain ⟨cause, because, rfl⟩ := (typeInField_eq_error_iff given).mp fails
    exact ⟨before, d, f, after, cause, split, fine, because, rfl⟩
  · rintro ⟨before, d, f, after, cause, split, fine, because, rfl⟩
    have given : f.type ≠ none := types (d, f) (by simp [split])
    refine ⟨before, (d, f), after, split, ?_, fine⟩
    exact (typeInField_eq_error_iff given).mpr ⟨cause, because, rfl⟩

end Fields

/-! ### What is built -/

/-- A flag is set if it was before or is set here. -/
theorem carryFlag_eq_true_iff {before own : Option Bool} :
    carryFlag before own = some true ↔ before = some true ∨ own = some true := by
  unfold carryFlag
  by_cases set : before = some true
  · simp [set]
  · simp [set]

/-- The field is what the definition at a place of a list becomes: it keeps the name and the comment,
has the meaning of the type, and is compatible if a field up to this place is. -/
structure FieldBuildsTo (ids : TypeName.MessageIds) (fs : List FieldDefinition) (i : Nat)
    (f : FieldDefinition) (g : Field) : Prop where
  /-- The name is kept. -/
  name : g.name = f.name
  /-- The comment is kept. -/
  comment : g.comment = f.comment
  /-- The type has the meaning. -/
  type : f.Means ids g.type
  /-- A field up to this place is compatible. -/
  compatible : g.isCompatible = true ↔ ∃ j ≤ i, ∃ e, fs[j]? = some e ∧ e.compatible = some true

/-- The message is what the definition becomes: it keeps the id, the name, the module, the comment
and the order of the fields. -/
structure BuildsTo (ids : TypeName.MessageIds) (d : MessageDefinition) (m : Message) : Prop where
  /-- The id is kept. -/
  id : m.id = d.id
  /-- The name is kept. -/
  name : m.name = d.name
  /-- The module is kept. -/
  module : m.module = d.module
  /-- The comment is kept. -/
  comment : m.comment = d.comment
  /-- There is one field for each. -/
  length : m.fields.length = d.fieldList.length
  /-- The fields are those of the definitions, place by place. -/
  fields : ∀ i f g, d.fieldList[i]? = some f → m.fields[i]? = some g →
    FieldBuildsTo ids d.fieldList i f g

/-- The fields that are built are those of the definitions, place by place. The flag is set where it
was set in front or by a field up to there. -/
theorem of_buildFields {ids : TypeName.MessageIds} {message : Option String} {before : Option Bool}
    {fs : List FieldDefinition} {gs : List Field} (h : buildFields ids message before fs = .ok gs) :
    gs.length = fs.length ∧ ∀ (i : Nat) (f : FieldDefinition) (g : Field),
      fs[i]? = some f → gs[i]? = some g →
      g.name = f.name ∧ g.comment = f.comment ∧ f.Means ids g.type ∧
      (g.isCompatible = true ↔ before = some true ∨
        ∃ j ≤ i, ∃ e, fs[j]? = some e ∧ e.compatible = some true) := by
  induction fs generalizing before gs with
  | nil =>
    cases h
    simp
  | cons c fs ih =>
    unfold buildFields at h
    obtain ⟨w, typed, h⟩ := exists_of_bind_eq_ok h
    obtain ⟨rest, others, h⟩ := exists_of_bind_eq_ok h
    cases h
    obtain ⟨length, fields⟩ := ih others
    refine ⟨by simp [length], fun i f g atF atG => ?_⟩
    cases i with
    | zero =>
      obtain rfl : c = f := by simpa using atF
      obtain rfl := Option.some.inj atG
      refine ⟨rfl, rfl, typeInField_eq_ok_iff.mp typed, ?_⟩
      simp [Field.isCompatible, carryFlag_eq_true_iff]
    | succ i =>
      obtain ⟨name, comment, type, compatible⟩ := fields i f g (by simpa using atF) atG
      refine ⟨name, comment, type, ?_⟩
      -- the first field is one more that may have set the flag
      rw [compatible, carryFlag_eq_true_iff, or_assoc]
      refine or_congr_right ⟨?_, ?_⟩
      · rintro (own | ⟨j, le, e, atJ, set⟩)
        · exact ⟨0, Nat.zero_le _, c, rfl, own⟩
        · exact ⟨j + 1, Nat.succ_le_succ le, e, by simpa using atJ, set⟩
      · rintro ⟨j, le, e, atJ, set⟩
        cases j with
        | zero =>
          obtain rfl : c = e := by simpa using atJ
          exact .inl set
        | succ j => exact .inr ⟨j, Nat.le_of_succ_le_succ le, e, by simpa using atJ, set⟩

/-- A message that is built is what its definition becomes. -/
theorem buildsTo_of_buildMessage {ids : TypeName.MessageIds} {d : MessageDefinition} {m : Message}
    (h : buildMessage ids d = .ok m) : BuildsTo ids d m := by
  unfold buildMessage at h
  cases fields : d.fields with
  | none =>
    rw [fields] at h
    cases h
  | some fs =>
    rw [fields] at h
    obtain ⟨gs, built, h⟩ := exists_of_bind_eq_ok h
    cases h
    have list : d.fieldList = fs := by rw [MessageDefinition.fieldList, fields, Option.getD_some]
    obtain ⟨length, places⟩ := of_buildFields built
    refine ⟨rfl, rfl, rfl, rfl, by rw [list]; exact length, fun i f g atF atG => ?_⟩
    rw [list] at atF ⊢
    obtain ⟨name, comment, type, compatible⟩ := places i f g atF atG
    exact ⟨name, comment, type, by simpa using compatible⟩

/-! ### The three checks -/

/-- The table of names gives the ids of the messages that have names, wherever they stand. -/
theorem lookup_idsByName_iff {ds : List MessageDefinition}
    (distinct : (ds.map MessageDefinition.name).Nodup) {n : String} {id : MessageId} :
    (idsByName ds).lookup n = some id ↔ ∃ d ∈ ds, d.name = some n ∧ d.id = id := by
  induction ds with
  | nil => simp [idsByName]
  | cons d ds ih =>
    rw [List.map_cons, List.nodup_cons] at distinct
    have rest := ih distinct.2
    unfold idsByName at rest ⊢
    rw [List.filterMap_cons, List.exists_mem_cons_iff]
    cases name : d.name with
    | none => simpa [name] using rest
    | some k =>
      simp only [Option.map_some, List.lookup_cons]
      by_cases same : n = k
      · subst same
        -- no later message has the name of the first
        have later : ¬ ∃ e ∈ ds, e.name = some n ∧ e.id = id := by
          rintro ⟨e, mem, again, -⟩
          exact distinct.1 (name ▸ again ▸ List.mem_map_of_mem mem)
        simp [later]
      · have other : (n == k) = false := by simpa using same
        rw [other]
        simpa [Ne.symm same] using rest

namespace Registry

/-- Messages whose ids repeat are no registry. -/
theorem ofMessages_of_repeats {ms : List Message} {id : MessageId}
    (h : IsFirstRepeat MessageId.key (ms.map Message.id) id) :
    ofMessages ms = .error (.duplicateId id) := by
  have found : repeatedId? [] ms = some id := by
    rw [repeatedId?_eq, firstRepeat?_of_isFirstRepeat h]
  unfold ofMessages
  split
  · rename_i other again
    rw [found] at again
    rw [Option.some.inj again]
  · rename_i none
    rw [found] at none
    cases none

/-- Messages whose ids are distinct are a registry. -/
theorem exists_ofMessages {ms : List Message}
    (h : ((ms.map Message.id).map MessageId.key).Nodup) :
    ∃ r, ofMessages ms = .ok r ∧ r.messages = ms := by
  have none : repeatedId? [] ms = none := by rw [repeatedId?_eq, firstRepeat?_of_nodup h]
  unfold ofMessages
  split
  · rename_i other some
    rw [none] at some
    cases some
  · exact ⟨_, rfl, rfl⟩

section Checks

variable {ds : List MessageDefinition} {ms : List Message}

/-- A name that repeats is the fault, whatever else is wrong. -/
theorem ofDefinition_of_repeatedName {n : Option String}
    (h : IsFirstRepeat (fun n => n) (ds.map MessageDefinition.name) n) :
    ofDefinition ⟨some ds⟩ = .error (.duplicateName (shown n)) := by
  show ofDefinitions ds = _
  rw [ofDefinitions, repeatedName?_eq, firstRepeat?_of_isFirstRepeat h]
  rfl

/-- The messages with their ids are built where names are distinct. -/
theorem ofDefinition_of_nodup (names : (ds.map MessageDefinition.name).Nodup) :
    ofDefinition ⟨some ds⟩ = ds.mapM (buildMessage (idsByName ds)) >>= ofMessages := by
  have none : firstRepeat? (fun n => n) [] (ds.map MessageDefinition.name) = none :=
    firstRepeat?_of_nodup (by rwa [List.map_id'])
  show ofDefinitions ds = _
  rw [ofDefinitions, repeatedName?_eq, none]
  rfl

/-- The messages that are built have the ids of their definitions. -/
theorem ids_of_mapM_buildMessage {ids : TypeName.MessageIds}
    (h : ds.mapM (buildMessage ids) = .ok ms) :
    ms.map Message.id = ds.map MessageDefinition.id := by
  have related := forall₂_of_mapM_eq_ok h
  clear h
  induction related with
  | nil => rfl
  | cons first _ ih => rw [List.map_cons, List.map_cons, (of_buildMessage first).1, ih]

/-- An id that repeats is the fault where nothing else is wrong. -/
theorem ofDefinition_of_repeatedId (names : (ds.map MessageDefinition.name).Nodup)
    (built : ds.mapM (buildMessage (idsByName ds)) = .ok ms) {id : MessageId}
    (h : IsFirstRepeat MessageId.key (ds.map MessageDefinition.id) id) :
    ofDefinition ⟨some ds⟩ = .error (.duplicateId id) := by
  rw [ofDefinition_of_nodup names, built]
  exact ofMessages_of_repeats (ids_of_mapM_buildMessage built ▸ h)

/-- A definition in which nothing is wrong becomes a registry of the messages that are built. -/
theorem exists_ofDefinition (names : (ds.map MessageDefinition.name).Nodup)
    (built : ds.mapM (buildMessage (idsByName ds)) = .ok ms)
    (ids : ((ds.map MessageDefinition.id).map MessageId.key).Nodup) :
    ∃ r, ofDefinition ⟨some ds⟩ = .ok r ∧ r.messages = ms := by
  rw [ofDefinition_of_nodup names, built]
  exact exists_ofMessages (ids_of_mapM_buildMessage built ▸ ids)

/-- What becomes a registry has passed all three checks, and has the messages that are built. -/
theorem checks_of_ofDefinition {r : Registry} (h : ofDefinition ⟨some ds⟩ = .ok r) :
    (ds.map MessageDefinition.name).Nodup ∧
      ds.mapM (buildMessage (idsByName ds)) = .ok r.messages ∧
      ((ds.map MessageDefinition.id).map MessageId.key).Nodup := by
  rcases nodup_or_exists_isFirstRepeat (fun n => n) (ds.map MessageDefinition.name) with
    names | ⟨n, repeated⟩
  · rw [List.map_id'] at names
    have run := h
    rw [ofDefinition_of_nodup names] at run
    obtain ⟨ms, built, made⟩ := exists_of_bind_eq_ok run
    rcases nodup_or_exists_isFirstRepeat MessageId.key (ds.map MessageDefinition.id) with
      ids | ⟨id, repeated⟩
    · exact ⟨names, messages_of_ofMessages made ▸ built, ids⟩
    · cases h.symm.trans (ofDefinition_of_repeatedId names built repeated)
  · cases h.symm.trans (ofDefinition_of_repeatedName repeated)

/-- What becomes no registry has failed the first of the three checks that fails. -/
theorem ofDefinition_eq_error_iff {e : Fault} : ofDefinition ⟨some ds⟩ = .error e ↔
    (∃ n, IsFirstRepeat (fun n => n) (ds.map MessageDefinition.name) n ∧
      e = .duplicateName (shown n)) ∨
    ((ds.map MessageDefinition.name).Nodup ∧
      ds.mapM (buildMessage (idsByName ds)) = .error e) ∨
    ((ds.map MessageDefinition.name).Nodup ∧
      (∃ ms, ds.mapM (buildMessage (idsByName ds)) = .ok ms) ∧
      ∃ id, IsFirstRepeat MessageId.key (ds.map MessageDefinition.id) id ∧
        e = .duplicateId id) := by
  constructor
  · intro h
    rcases nodup_or_exists_isFirstRepeat (fun n => n) (ds.map MessageDefinition.name) with
      names | ⟨n, repeated⟩
    · rw [List.map_id'] at names
      cases built : ds.mapM (buildMessage (idsByName ds)) with
      | error fault =>
        rw [ofDefinition_of_nodup names, built] at h
        cases h
        exact .inr (.inl ⟨names, rfl⟩)
      | ok ms =>
        rcases nodup_or_exists_isFirstRepeat MessageId.key (ds.map MessageDefinition.id) with
          ids | ⟨id, repeated⟩
        · obtain ⟨r, made, -⟩ := exists_ofDefinition names built ids
          cases h.symm.trans made
        · have fault := h.symm.trans (ofDefinition_of_repeatedId names built repeated)
          exact .inr (.inr ⟨names, ⟨ms, rfl⟩, id, repeated, Except.error.inj fault⟩)
    · have fault := h.symm.trans (ofDefinition_of_repeatedName repeated)
      exact .inl ⟨n, repeated, Except.error.inj fault⟩
  · rintro (⟨n, repeated, rfl⟩ | ⟨names, fails⟩ | ⟨names, ⟨ms, built⟩, id, repeated, rfl⟩)
    · exact ofDefinition_of_repeatedName repeated
    · rw [ofDefinition_of_nodup names, fails]
      rfl
    · exact ofDefinition_of_repeatedId names built repeated

end Checks

/-- Which definitions become registries, and what is wrong with the others. Where lists and types
are not null, a definition becomes a registry exactly if names are distinct, the type of every field
has a meaning by the table of all message names, and ids are distinct. The registry has one message
for each definition, in order, with everything kept; a field is compatible if it or one in front of
it is defined so. Otherwise the fault is the first name that repeats an earlier one; if there is
none, the first field whose type has no meaning, with the message, the field and the cause; if there
is none, the first id that repeats an earlier one. -/
theorem ofDefinition_iff_first_defect {ds : List MessageDefinition}
    (lists : ∀ d ∈ ds, d.fields ≠ none) (types : ∀ p ∈ fieldsOf ds, p.2.type ≠ none) :
    ((∃ r, ofDefinition ⟨some ds⟩ = .ok r) ↔
      (ds.map MessageDefinition.name).Nodup ∧
      (∀ p ∈ fieldsOf ds, ∃ w, p.2.Means (idsByName ds) w) ∧
      ((ds.map MessageDefinition.id).map MessageId.key).Nodup) ∧
    ((ds.map MessageDefinition.name).Nodup → ∀ n id,
      (idsByName ds).lookup n = some id ↔ ∃ d ∈ ds, d.name = some n ∧ d.id = id) ∧
    (∀ r, ofDefinition ⟨some ds⟩ = .ok r →
      List.Forall₂ (BuildsTo (idsByName ds)) ds r.messages) ∧
    (∀ e, ofDefinition ⟨some ds⟩ = .error e ↔
      (∃ n, IsFirstRepeat (fun n => n) (ds.map MessageDefinition.name) n ∧
        e = .duplicateName (shown n) ∧ e.message = "Duplicate message name " ++ shown n) ∨
      ((ds.map MessageDefinition.name).Nodup ∧ ∃ before d f after cause,
        fieldsOf ds = before ++ (d, f) :: after ∧
        (∀ p ∈ before, ∃ w, p.2.Means (idsByName ds) w) ∧ f.Fails (idsByName ds) cause ∧
        e = .inField (shown d.name) (shown f.name) cause ∧
        e.message = shown d.name ++ "." ++ shown f.name ++ ": " ++ cause.message) ∨
      ((ds.map MessageDefinition.name).Nodup ∧
        (∀ p ∈ fieldsOf ds, ∃ w, p.2.Means (idsByName ds) w) ∧
        ∃ id, IsFirstRepeat MessageId.key (ds.map MessageDefinition.id) id ∧
          e = .duplicateId id ∧ e.message = "Duplicate protocol id " ++ id.text)) := by
  refine ⟨⟨?_, ?_⟩, fun names n id => lookup_idsByName_iff names, ?_, fun e => ?_⟩
  · rintro ⟨r, made⟩
    obtain ⟨names, built, ids⟩ := checks_of_ofDefinition made
    exact ⟨names, (exists_mapM_buildMessage_iff lists).mp ⟨_, built⟩, ids⟩
  · rintro ⟨names, meanings, ids⟩
    obtain ⟨ms, built⟩ := (exists_mapM_buildMessage_iff lists).mpr meanings
    obtain ⟨r, made, -⟩ := exists_ofDefinition names built ids
    exact ⟨r, made⟩
  · intro r made
    obtain ⟨-, built, -⟩ := checks_of_ofDefinition made
    exact (forall₂_of_mapM_eq_ok built).imp fun d m first => buildsTo_of_buildMessage first
  · rw [ofDefinition_eq_error_iff, mapM_buildMessage_eq_error_iff lists types,
      exists_mapM_buildMessage_iff lists]
    -- the wording follows from the fault
    refine or_congr ?_ (or_congr ?_ ?_)
    · refine exists_congr fun n => and_congr_right fun _ => ?_
      exact ⟨fun same => ⟨same, by rw [same]; rfl⟩, And.left⟩
    · refine and_congr_right fun _ => ?_
      refine exists_congr fun before => exists_congr fun d => exists_congr fun f => ?_
      refine exists_congr fun after => exists_congr fun cause => ?_
      refine and_congr_right fun _ => and_congr_right fun _ => and_congr_right fun _ => ?_
      exact ⟨fun same => ⟨same, by rw [same]; rfl⟩, And.left⟩
    · refine and_congr_right fun _ => and_congr_right fun _ => exists_congr fun id => ?_
      refine and_congr_right fun _ => ?_
      exact ⟨fun same => ⟨same, by rw [same]; rfl⟩, And.left⟩

/-- Two messages with one id, where the first refers to the second and the last field has a type of
no meaning. -/
def Sample.defects : List MessageDefinition := [
  { id := .number 1, name := some "First", fields := some [field "next" "demo.Second"] },
  { id := .flag true, name := some "Second",
    fields := some [field "count" "int", field "lost" "List<Missing>"] }]

/-- The field is the fault, although ids repeat as well. -/
theorem ofDefinition_iff_first_defect_sample :
    (∀ d ∈ Sample.defects, d.fields ≠ none) ∧
    (∀ p ∈ fieldsOf Sample.defects, p.2.type ≠ none) ∧
    ¬ ((Sample.defects.map MessageDefinition.id).map MessageId.key).Nodup ∧
    ofDefinition ⟨some Sample.defects⟩ =
      .error (.inField "Second" "lost" (.unknownType "Missing")) := by
  have lists : ∀ d ∈ Sample.defects, d.fields ≠ none := by decide
  have types : ∀ p ∈ fieldsOf Sample.defects, p.2.type ≠ none := by decide
  refine ⟨lists, types, by decide, ?_⟩
  obtain ⟨-, -, -, faults⟩ := ofDefinition_iff_first_defect lists types
  refine (faults _).mpr (.inr (.inl ⟨by decide, [_, _], _, _, [], _, rfl, ?_, ?_, rfl, rfl⟩))
  · intro p mem
    simp only [List.mem_cons, List.not_mem_nil, or_false] at mem
    rcases mem with rfl | rfl
    · exact ⟨_, _, .simple "Second", rfl, rfl, rfl⟩
    · exact ⟨_, _, .simple "int", rfl, rfl, rfl⟩
  · exact ⟨_, rfl, .inr ⟨.mk "List" [.simple "Missing"], rfl, rfl⟩⟩

end Registry

end PacketSmith
