import PacketSmith.Output
import PacketSmith.Proofs.CycleDetection
import PacketSmith.Proofs.DefinitionChecks

/-!
# Message files do not depend on the rest of a registry

Two lists of definitions that both become registries, where the second has all definitions of the
first, in any order and with others between them, give each message of the first the same
registration, the same dependencies and the same file (`stable_of_subset`). So the files of messages
do not depend on the order of the definitions.

* A name that has an id in the first table has it in the second (`Extends`), because names are
  distinct. What a type means by a table it means by every larger one, so the messages that are
  built are the same (`buildMessage_extends`), and the first registry is part of the second
  (`within_of_subset`).
* A search for dependencies that starts in a part of a registry stays there, since types are resolved
  in the part itself. So it makes the same steps in the part and in the whole
  (`search_of_within`), and a file asks the registry for nothing else.
-/

namespace PacketSmith

/-! ### Larger tables -/

/-- Every name of the first table has the same id in the second. -/
def TypeName.Extends (ids more : TypeName.MessageIds) : Prop :=
  ∀ n id, ids.lookup n = some id → more.lookup n = some id

section Tables

variable {ids more : TypeName.MessageIds}

/-- A resolved type is resolved by every larger table. -/
theorem WireType.Resolved.extend {w : WireType} (h : w.Resolved ids)
    (larger : TypeName.Extends ids more) : w.Resolved more := by
  induction h with
  | scalar word => exact .scalar word
  | sequence _ ih => exact .sequence ih
  | map _ _ ihKey ihValue => exact .map ihKey ihValue
  | message name other found => exact .message name other (larger _ _ found)

/-- The meaning of a resolved type's name is the type. -/
theorem WireType.Resolved.resolve_name {w : WireType} (h : w.Resolved ids) :
    w.name.resolve ids = .ok w := by
  induction h with
  | @scalar word kind found =>
    -- no primitive is spelled as an array's head, so the word is looked up
    have plain : word ≠ TypeName.arrayHead := by
      rintro rfl
      cases found
    rw [name, TypeName.simple, TypeName.resolve, if_neg (by simpa using plain), found]
  | @sequence kind e _ ih =>
    cases kind with
    | array =>
      rw [name, Sequence.typeName, TypeName.array, TypeName.resolve, if_pos (by rfl),
        TypeName.resolveFirst, ih]
      rfl
    | list | set =>
      rw [name, Sequence.typeName, TypeName.resolve, if_neg (by decide)]
      show (TypeName.resolveAll ids [e.name] >>= _) = _
      rw [TypeName.resolveAll, ih]
      rfl
  | @map k v _ _ ihKey ihValue =>
    rw [name, TypeName.resolve, if_neg (by decide)]
    show (TypeName.resolveAll ids [k.name, v.name] >>= _) = _
    rw [TypeName.resolveAll, ihKey, TypeName.resolveAll, ihValue]
    rfl
  | @message head id word other found =>
    have plain := TypeName.ne_arrayHead_of_isName word
    rw [name, TypeName.simple, TypeName.resolve, if_neg (by simpa using plain), other, found]

variable (larger : TypeName.Extends ids more)

include larger

/-- What a text means by a table it means by every larger one. -/
theorem typeOfText_extends {text : String} {w : WireType} (h : typeOfText ids text = .ok w) :
    typeOfText more text = .ok w := by
  have resolved := (resolved_of_typeOfText h).extend larger
  unfold typeOfText at h ⊢
  cases read : TypeName.read? text with
  | none =>
    rw [read] at h
    cases h
  | some t =>
    rw [read] at h
    show t.resolve more = .ok w
    rw [← TypeName.name_of_resolve h]
    exact resolved.resolve_name

/-- What a field's type means by a table it means by every larger one. -/
theorem typeInField_extends {message field type : Option String} {w : WireType}
    (h : typeInField ids message field type = .ok w) :
    typeInField more message field type = .ok w := by
  unfold typeInField at h ⊢
  split at h
  · cases h
  · split at h
    · rename_i found
      cases h
      simp only [typeOfText_extends larger found]
    · cases h

/-- Fields that are built by a table are built alike by every larger one. -/
theorem buildFields_extends {message : Option String} {before : Option Bool}
    {fs : List FieldDefinition} {gs : List Field} (h : buildFields ids message before fs = .ok gs) :
    buildFields more message before fs = .ok gs := by
  induction fs generalizing before gs with
  | nil => exact h
  | cons f fs ih =>
    unfold buildFields at h ⊢
    obtain ⟨w, typed, h⟩ := exists_of_bind_eq_ok h
    obtain ⟨rest, others, h⟩ := exists_of_bind_eq_ok h
    cases h
    rw [typeInField_extends larger typed]
    show (buildFields more message (carryFlag before f.compatible) fs >>= _) = _
    rw [ih others]
    rfl

/-- A message that is built by a table is built alike by every larger one. -/
theorem buildMessage_extends {d : MessageDefinition} {m : Message}
    (h : buildMessage ids d = .ok m) : buildMessage more d = .ok m := by
  unfold buildMessage at h ⊢
  split at h
  · cases h
  · obtain ⟨gs, built, h⟩ := exists_of_bind_eq_ok h
    cases h
    simp only [buildFields_extends larger built]
    rfl

end Tables

/-- The table of some definitions extends that of a part of them, whatever their order. -/
theorem extends_of_subset {ds es : List MessageDefinition} (subset : ds ⊆ es)
    (names : (ds.map MessageDefinition.name).Nodup)
    (more : (es.map MessageDefinition.name).Nodup) :
    TypeName.Extends (idsByName ds) (idsByName es) := by
  intro n id found
  obtain ⟨d, mem, name, rfl⟩ := (lookup_idsByName_iff names).mp found
  exact (lookup_idsByName_iff more).mpr ⟨d, subset mem, name, rfl⟩

/-- The item at a place of the first of two related lists has its partner at that place. -/
theorem exists_getElem?_of_forall₂ {α β : Type} {R : α → β → Prop} {xs : List α} {ys : List β}
    (h : List.Forall₂ R xs ys) {i : Nat} {x : α} (at_ : xs[i]? = some x) :
    ∃ y, ys[i]? = some y ∧ R x y := by
  induction h generalizing i with
  | nil => simp at at_
  | @cons u v us vs first _ ih =>
    cases i with
    | zero =>
      obtain rfl : u = x := by simpa using at_
      exact ⟨v, rfl, first⟩
    | succ i => exact ih (by simpa using at_)

/-- Lists that are made item by item from alike items are alike. -/
theorem mapM_congr {α β : Type} {f g : α → Except Fault β} {xs : List α}
    (alike : ∀ x ∈ xs, f x = g x) : xs.mapM f = xs.mapM g := by
  induction xs with
  | nil => rfl
  | cons x xs ih =>
    obtain ⟨first, rest⟩ := List.forall_mem_cons.mp alike
    rw [List.mapM_cons, List.mapM_cons, first, ih rest]

/-! ### Parts of a registry -/

namespace Registry

/-- Every message of the registry is one of the other. -/
def Within (r s : Registry) : Prop := ∀ m ∈ r.messages, m ∈ s.messages

section Parts

variable {r s : Registry} {m : Message}

/-- What is found in a part is found in the whole. -/
theorem Within.find? (within : r.Within s) {id : MessageId} (h : r.find? id = some m) :
    s.find? id = some m := by
  obtain ⟨mem, same⟩ := mem_of_find? h
  exact find?_of_mem (within m mem) same

variable (built : r.IsBuilt)

include built

/-- What a message of a closed registry holds is found there. -/
theorem exists_find?_of_mem_heldIds (hm : m ∈ r.messages) {held : List MessageId}
    (h : m.heldIds = .ok held) {id : MessageId} (mem : id ∈ held) : ∃ b, r.find? id = some b := by
  have found := find?_of_mem hm rfl
  have edge : r.Holds m.id id := ⟨m, held, found, h, MessageId.isIn_of_mem mem⟩
  obtain ⟨b, foundB, -⟩ := exists_nests_of_holds built edge found
  exact ⟨b, foundB⟩

variable (within : r.Within s)

include within

/-- A search from ids of a closed part makes the same steps in the whole. -/
theorem search_of_within {path found ids : List MessageId}
    (known : ∀ id ∈ ids, ∃ b, r.find? id = some b) :
    s.search path found ids = r.search path found ids := by
  -- `known` is kept because what a message of the part holds is in the part; it leaves an id that
  -- only the whole knows out of the question
  fun_induction search r path found ids with
  | case1 path found => rw [search]
  | case2 path found id ids onPath => rw [search, dif_pos onPath]
  | case3 path found id ids offPath old ih =>
    rw [search, dif_neg offPath, if_pos old]
    exact ih (List.forall_mem_cons.mp known).2
  | case4 path found id ids offPath new lookup =>
    obtain ⟨b, foundB⟩ := (List.forall_mem_cons.mp known).1
    cases lookup.symm.trans foundB
  | case5 path found id ids offPath new m lookup ihBelow ihRest =>
    have hm := (mem_of_find? lookup).1
    rw [search, dif_neg offPath, if_neg new]
    split
    · rename_i absent
      cases absent.symm.trans (within.find? lookup)
    · rename_i m' lookup'
      obtain rfl := Option.some.inj ((within.find? lookup).symm.trans lookup')
      cases holds : m.heldIds with
      | error e => rfl
      | ok held =>
        show (s.search (path ++ [id]) (found ++ [id]) held >>= _) =
          (r.search (path ++ [id]) (found ++ [id]) held >>= _)
        rw [ihBelow held fun x mem => exists_find?_of_mem_heldIds built hm holds mem]
        cases r.search (path ++ [id]) (found ++ [id]) held with
        | error e => rfl
        | ok next => exact ihRest next (List.forall_mem_cons.mp known).2

/-- A message of a closed part has the same dependencies in the whole, or the same fault. -/
theorem dependencies_of_within (hm : m ∈ r.messages) :
    s.dependencies m.id = r.dependencies m.id := by
  have found := find?_of_mem hm rfl
  unfold dependencies get
  rw [found, within.find? found]
  show (m.heldIds >>= _) = (m.heldIds >>= _)
  cases holds : m.heldIds with
  | error e => rfl
  | ok held =>
    exact search_of_within built within fun x mem => exists_find?_of_mem_heldIds built hm holds mem

end Parts

end Registry

namespace OutputContext

variable {r s : Registry} {m : Message} (built : r.IsBuilt) (within : r.Within s)

include built within

/-- A message of a closed part makes the same messages known in the whole. -/
theorem dependencyLines_of_within (x : OutputContext) (hm : m ∈ r.messages) :
    x.dependencyLines s m = x.dependencyLines r m := by
  unfold dependencyLines
  rw [Registry.dependencies_of_within built within hm]
  cases told : r.dependencies m.id with
  | error e => rfl
  | ok ids =>
    have alike : ∀ id ∈ ids, (s.get id >>= x.target.dependencyLine m) =
        (r.get id >>= x.target.dependencyLine m) := by
      intro id mem
      obtain ⟨b, found⟩ := Registry.exists_find?_of_mem_dependencies built hm told mem
      rw [Registry.get, Registry.get, found, within.find? found]
    exact congrArg (fun lines => lines >>= fun ls => pure ls.eraseDups) (mapM_congr alike)

/-- A message of a closed part has the same file in the whole, or the same fault. -/
theorem messageFile_of_within (x : OutputContext) (hm : m ∈ r.messages) :
    x.messageFile s m = x.messageFile r m := by
  unfold messageFile messageParts
  rw [dependencyLines_of_within built within x hm]

end OutputContext

/-! ### Registries of more definitions -/

namespace Registry

variable {ds es : List MessageDefinition} {r s : Registry}

/-- A definition that two registries have becomes the same message in both, if one of them has all
definitions of the other. -/
theorem exists_message_of_subset (h : ofDefinition ⟨some ds⟩ = .ok r)
    (k : ofDefinition ⟨some es⟩ = .ok s) (subset : ds ⊆ es) {i j : Nat} {d : MessageDefinition}
    (here : ds[i]? = some d) (there : es[j]? = some d) :
    ∃ m, r.messages[i]? = some m ∧ s.messages[j]? = some m := by
  obtain ⟨names, made, -⟩ := checks_of_ofDefinition h
  obtain ⟨more, made', -⟩ := checks_of_ofDefinition k
  obtain ⟨m, atI, built⟩ := exists_getElem?_of_forall₂ (forall₂_of_mapM_eq_ok made) here
  obtain ⟨m', atJ, built'⟩ := exists_getElem?_of_forall₂ (forall₂_of_mapM_eq_ok made') there
  have same := buildMessage_extends (extends_of_subset subset names more) built
  obtain rfl := Except.ok.inj (same.symm.trans built')
  exact ⟨m, atI, atJ⟩

/-- A registry of some definitions is part of every registry of more. -/
theorem within_of_subset (h : ofDefinition ⟨some ds⟩ = .ok r) (k : ofDefinition ⟨some es⟩ = .ok s)
    (subset : ds ⊆ es) : r.Within s := by
  obtain ⟨-, made, -⟩ := checks_of_ofDefinition h
  intro m hm
  obtain ⟨i, atI⟩ := List.mem_iff_getElem?.mp hm
  obtain ⟨d, here, -⟩ := exists_getElem?_of_forall₂ (forall₂_of_mapM_eq_ok made).flip atI
  obtain ⟨j, there⟩ := List.mem_iff_getElem?.mp (subset (List.mem_of_getElem? here))
  obtain ⟨m', atI', atJ⟩ := exists_message_of_subset h k subset here there
  obtain rfl := Option.some.inj (atI.symm.trans atI')
  exact List.mem_of_getElem? atJ

/-- Definitions in another order become a registry as well. -/
theorem exists_ofDefinition_of_perm (h : ofDefinition ⟨some ds⟩ = .ok r) (perm : ds.Perm es) :
    ∃ s, ofDefinition ⟨some es⟩ = .ok s := by
  obtain ⟨names, made, ids⟩ := checks_of_ofDefinition h
  have more : (es.map MessageDefinition.name).Nodup := (perm.map _).nodup_iff.mp names
  have each : ∀ d ∈ es, ∃ m, buildMessage (idsByName es) d = .ok m := by
    intro d mem
    obtain ⟨m, -, built⟩ :=
      exists_of_mem_forall₂ (forall₂_of_mapM_eq_ok made).flip (perm.symm.subset mem)
    exact ⟨m, buildMessage_extends (extends_of_subset perm.subset names more) built⟩
  obtain ⟨ms, all⟩ := exists_mapM_eq_ok each
  obtain ⟨s, made, -⟩ := exists_ofDefinition more all (((perm.map _).map _).nodup_iff.mp ids)
  exact ⟨s, made⟩

/-- The messages of a registry are without repetition. -/
theorem nodup_messages (r : Registry) : r.messages.Nodup := r.distinct.of_map

/-- Message files are stable. Of two registries, where one has all definitions of the other in any
order and with any others between them, a definition of both becomes the same message, with the same
dependencies or fault and, in every context, the same file or fault. In particular definitions in
another order become a registry with the same messages in another order, and every message has the
same file. -/
theorem stable_of_subset (h : ofDefinition ⟨some ds⟩ = .ok r) (k : ofDefinition ⟨some es⟩ = .ok s)
    (subset : ds ⊆ es) :
    r.messages.length = ds.length ∧
    (∀ (i j : Nat) (d : MessageDefinition), ds[i]? = some d → es[j]? = some d →
      ∃ m, r.messages[i]? = some m ∧ s.messages[j]? = some m ∧
        s.dependencies m.id = r.dependencies m.id ∧
        ∀ x : OutputContext, x.messageFile s m = x.messageFile r m) ∧
    (∀ ps, ds.Perm ps → ∃ t, ofDefinition ⟨some ps⟩ = .ok t ∧ r.messages.Perm t.messages ∧
      ∀ m ∈ r.messages, ∀ x : OutputContext, x.messageFile t m = x.messageFile r m) := by
  have built := isBuilt_of_ofDefinition h
  refine ⟨?_, fun i j d here there => ?_, fun ps perm => ?_⟩
  · exact (forall₂_of_mapM_eq_ok (checks_of_ofDefinition h).2.1).length_eq.symm
  · have within := within_of_subset h k subset
    obtain ⟨m, atI, atJ⟩ := exists_message_of_subset h k subset here there
    have hm := List.mem_of_getElem? atI
    exact ⟨m, atI, atJ, dependencies_of_within built within hm,
      fun x => x.messageFile_of_within built within hm⟩
  · obtain ⟨t, made⟩ := exists_ofDefinition_of_perm h perm
    have within := within_of_subset h made perm.subset
    have back := within_of_subset made h perm.symm.subset
    refine ⟨t, made, ?_, fun m hm x => x.messageFile_of_within built within hm⟩
    apply (List.perm_ext_iff_of_nodup r.nodup_messages t.nodup_messages).mpr
    exact fun m => ⟨within m, back m⟩

namespace Sample

/-- A message that refers to one that is defined behind it. -/
def parcels : List MessageDefinition := [
  { id := .number 1, name := some "Parcel", fields := some [field "items" "List<demo.Item>"] },
  { id := .number 2, name := some "Item", fields := some [field "count" "int"] }]

/-- The same messages in the other order, around a message that refers to both. -/
def deliveries : List MessageDefinition := [
  { id := .number 2, name := some "Item", fields := some [field "count" "int"] },
  { id := .number 3, name := some "Delivery",
    fields := some [field "parcel" "Parcel", field "extra" "Item"] },
  { id := .number 1, name := some "Parcel", fields := some [field "items" "List<demo.Item>"] }]

end Sample

/-- The first message of the small registry is the last one of the large registry, and its file is
the same. -/
theorem stable_of_subset_sample : Sample.parcels ⊆ Sample.deliveries ∧
    ∃ r s, ofDefinition ⟨some Sample.parcels⟩ = .ok r ∧
      ofDefinition ⟨some Sample.deliveries⟩ = .ok s ∧
      ∃ m, r.messages[0]? = some m ∧ s.messages[2]? = some m ∧
        s.dependencies m.id = r.dependencies m.id ∧
        ∀ x : OutputContext, x.messageFile s m = x.messageFile r m := by
  have subset : Sample.parcels ⊆ Sample.deliveries := by
    simp [Sample.parcels, Sample.deliveries]
  obtain ⟨r, small⟩ : ∃ r, ofDefinition ⟨some Sample.parcels⟩ = .ok r := ⟨_, by cbv⟩
  obtain ⟨s, large⟩ : ∃ s, ofDefinition ⟨some Sample.deliveries⟩ = .ok s := ⟨_, by cbv⟩
  obtain ⟨-, each, -⟩ := stable_of_subset small large subset
  exact ⟨subset, r, s, small, large, each 0 2 _ rfl rfl⟩

end Registry

end PacketSmith
