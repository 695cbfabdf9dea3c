import Mathlib.Data.List.Forall2
import Mathlib.Data.List.Nodup
import PacketSmith.Proofs.ResolvedTypes

/-!
# What a registry file leaves behind

A registry that is built from definitions is closed: its message names are distinct, and every type
in it is resolved against the names and ids of its own messages (`Registry.IsBuilt`). So a nested
message, at any depth in any field, is a message of the registry, with the name that the type has
and the id that the type carries (`IsBuilt.exists_message`).

`isBuilt_of_ofDefinition` is the one place that opens the builder. The proofs about dependencies,
files and imports use what `IsBuilt` says.
-/

namespace PacketSmith

/-- A fault of two steps is one of the first, or one of the second behind a result of the first. -/
theorem cases_of_bind_eq_error {α β : Type} {r : Except Fault α} {f : α → Except Fault β}
    {e : Fault} (h : (r >>= f) = .error e) : r = .error e ∨ ∃ a, r = .ok a ∧ f a = .error e := by
  cases r with
  | error fault =>
    cases h
    exact .inl rfl
  | ok a => exact .inr ⟨a, rfl, h⟩

/-- A list that is made item by item has one result for each item. -/
theorem forall₂_of_mapM_eq_ok {α β : Type} {f : α → Except Fault β} {xs : List α} {ys : List β}
    (h : xs.mapM f = .ok ys) : List.Forall₂ (fun x y => f x = .ok y) xs ys := by
  induction xs generalizing ys with
  | nil =>
    cases h
    exact .nil
  | cons x xs ih =>
    rw [List.mapM_cons] at h
    obtain ⟨y, first, h⟩ := exists_of_bind_eq_ok h
    obtain ⟨rest, others, h⟩ := exists_of_bind_eq_ok h
    cases h
    exact .cons first (ih others)

/-- A list can be made item by item if every item has a result. -/
theorem exists_mapM_eq_ok {α β : Type} {f : α → Except Fault β} {xs : List α}
    (h : ∀ x ∈ xs, ∃ y, f x = .ok y) : ∃ ys, xs.mapM f = .ok ys := by
  induction xs with
  | nil => exact ⟨[], rfl⟩
  | cons x xs ih =>
    obtain ⟨⟨y, first⟩, others⟩ := List.forall_mem_cons.mp h
    obtain ⟨ys, rest⟩ := ih others
    exact ⟨y :: ys, by rw [List.mapM_cons, first, rest]; rfl⟩

/-- Every item of the second of two lists that are related item by item has a partner. -/
theorem exists_of_mem_forall₂ {α β : Type} {R : α → β → Prop} {xs : List α} {ys : List β}
    (h : List.Forall₂ R xs ys) {y : β} (mem : y ∈ ys) : ∃ x ∈ xs, R x y := by
  induction h with
  | nil => simp at mem
  | @cons x z xs zs first _ ih =>
    rcases List.mem_cons.mp mem with rfl | inside
    · exact ⟨x, List.mem_cons_self, first⟩
    · obtain ⟨u, isThere, related⟩ := ih inside
      exact ⟨u, List.mem_cons_of_mem _ isThere, related⟩

/-! ### Types inside types -/

namespace WireType

variable {ids : TypeName.MessageIds} {w v : WireType}

/-- The types inside some types are those inside each of them. -/
theorem mem_walkAll {ws : List WireType} : v ∈ walkAll ws ↔ ∃ u ∈ ws, v ∈ u.walk := by
  induction ws with
  | nil => simp [walkAll]
  | cons u us ih => simp [walkAll, ih]

/-- A type is itself or inside one of its parameters. -/
theorem mem_walk : v ∈ w.walk ↔ v = w ∨ ∃ u ∈ w.params, v ∈ u.walk := by
  obtain ⟨tag, name, params, id⟩ := w
  rw [walk, List.mem_cons, mem_walkAll]
  rfl

/-- The types inside a resolved type are resolved. -/
theorem Resolved.of_mem_walk (h : w.Resolved ids) (mem : v ∈ w.walk) : v.Resolved ids := by
  induction h with
  | scalar word =>
    obtain rfl | ⟨u, inside, -⟩ := mem_walk.mp mem
    · exact .scalar word
    · simp [params] at inside
  | @sequence kind e element ih =>
    obtain rfl | ⟨u, inside, deeper⟩ := mem_walk.mp mem
    · exact .sequence element
    · obtain rfl : u = e := by simpa [params] using inside
      exact ih deeper
  | @map k v key value ihk ihv =>
    obtain rfl | ⟨u, inside, deeper⟩ := mem_walk.mp mem
    · exact .map key value
    · obtain rfl | rfl : u = k ∨ u = v := by simpa [params] using inside
      · exact ihk deeper
      · exact ihv deeper
  | message name other found =>
    obtain rfl | ⟨u, inside, -⟩ := mem_walk.mp mem
    · exact .message name other found
    · simp [params] at inside

/-- A resolved type that travels as a message is a name alone, which is no primitive spelling and
has the id of the type. -/
theorem Resolved.eq_message (h : w.Resolved ids) (tag : w.tag = .message) :
    ∃ head id, w = .mk .message (.simple head) [] id ∧ TypeName.isName head = true ∧
      TypeName.primitives.lookup head = none ∧ ids.lookup head = some id := by
  cases h with
  | scalar word => cases tag
  | sequence element => cases tag
  | map key value => cases tag
  | @message head id name other found => exact ⟨head, id, rfl, name, other, found⟩

/-- A resolved type that does not travel as a message carries no id. -/
theorem Resolved.id_eq_null (h : w.Resolved ids) (tag : w.tag ≠ .message) : w.id = .null := by
  cases h with
  | scalar word => rfl
  | sequence element => rfl
  | map key value => rfl
  | message name other found => exact absurd rfl tag

end WireType

/-! ### Messages by id and by name -/

namespace Registry

variable {r : Registry} {a b : Message}

/-- A message has the id it is found by. -/
theorem mem_of_find? {id : MessageId} (h : r.find? id = some a) :
    a ∈ r.messages ∧ a.id.key = id.key := by
  refine ⟨List.mem_of_find?_eq_some h, ?_⟩
  have same := List.find?_some h
  simpa using same

/-- Messages with one id are one message. -/
theorem eq_of_key_eq (ha : a ∈ r.messages) (hb : b ∈ r.messages) (same : a.id.key = b.id.key) :
    a = b :=
  List.inj_on_of_nodup_map r.distinct ha hb same

/-- A message is found by its id. -/
theorem find?_of_mem {id : MessageId} (ha : a ∈ r.messages) (same : a.id.key = id.key) :
    r.find? id = some a := by
  cases found : r.find? id with
  | none =>
    have other := List.find?_eq_none.mp found a ha
    simp [same] at other
  | some c =>
    obtain ⟨hc, sameC⟩ := mem_of_find? found
    rw [eq_of_key_eq hc ha (sameC.trans same.symm)]

end Registry

/-- The ids of messages by name; a message whose name is null has no entry. -/
def Message.idsByName (ms : List Message) : TypeName.MessageIds :=
  ms.filterMap fun m => m.name.map fun n => (n, m.id)

/-- The table of names has an entry only for a message. -/
theorem Message.exists_of_lookup {ms : List Message} {name : String} {id : MessageId}
    (h : (idsByName ms).lookup name = some id) : ∃ m ∈ ms, m.name = some name ∧ m.id = id := by
  obtain ⟨before, after, split, -⟩ := List.lookup_eq_some_iff.mp h
  have entry : (name, id) ∈ idsByName ms := by simp [split]
  obtain ⟨m, mem, named⟩ := List.mem_filterMap.mp entry
  obtain ⟨n, nameEq, pair⟩ := Option.map_eq_some_iff.mp named
  cases pair
  exact ⟨m, mem, nameEq, rfl⟩

/-! ### Registries from definitions -/

namespace Registry

/-- The registry is one that definitions give: names are distinct, and types are resolved by the
names and ids of its messages. -/
structure IsBuilt (r : Registry) : Prop where
  /-- No two messages have one name. -/
  names : (r.messages.map Message.name).Nodup
  /-- Every field has a resolved type. -/
  resolved : ∀ m ∈ r.messages, ∀ f ∈ m.fields, f.type.Resolved (Message.idsByName r.messages)

namespace IsBuilt

variable {r : Registry} {a b m : Message} {f : Field} {w : WireType}

/-- Messages with one name are one message. -/
theorem eq_of_name_eq (built : r.IsBuilt) (ha : a ∈ r.messages) (hb : b ∈ r.messages)
    (same : a.name = b.name) : a = b :=
  List.inj_on_of_nodup_map built.names ha hb same

/-- Every type inside a field is resolved. -/
theorem resolved_of_mem (built : r.IsBuilt) (hm : m ∈ r.messages) (hf : f ∈ m.fields)
    (hw : w ∈ f.type.walk) : w.Resolved (Message.idsByName r.messages) :=
  (built.resolved m hm f hf).of_mem_walk hw

/-- A nested message is a message of the registry, by its name and by its id. -/
theorem exists_message (built : r.IsBuilt) (hm : m ∈ r.messages) (hf : f ∈ m.fields)
    (hw : w ∈ f.type.walk) (tag : w.tag = .message) :
    ∃ b ∈ r.messages, b.name = some w.name.head ∧ b.id = w.id := by
  obtain ⟨head, id, rfl, -, -, found⟩ := (built.resolved_of_mem hm hf hw).eq_message tag
  exact Message.exists_of_lookup found

end IsBuilt

/-- Names that do not repeat are distinct. -/
theorem nodup_of_repeatedName? {seen : List (Option String)} {ds : List MessageDefinition}
    (h : repeatedName? seen ds = none) :
    (ds.map MessageDefinition.name).Nodup ∧ ∀ d ∈ ds, d.name ∉ seen := by
  induction ds generalizing seen with
  | nil => simp
  | cons d ds ih =>
    unfold repeatedName? at h
    split at h
    · cases h
    · rename_i fresh
      obtain ⟨distinct, apart⟩ := ih h
      rw [List.contains_eq_mem, decide_eq_true_eq] at fresh
      rw [List.map_cons, List.nodup_cons, List.forall_mem_cons]
      refine ⟨⟨fun repeated => ?_, distinct⟩, fresh, fun e mem old => ?_⟩
      · obtain ⟨e, mem, same⟩ := List.mem_map.mp repeated
        exact apart e mem (same ▸ List.mem_cons_self)
      · exact apart e mem (List.mem_cons_of_mem _ old)

/-- The fields that are built have resolved types. -/
theorem resolved_of_buildFields {ids : TypeName.MessageIds} {message : Option String}
    {before : Option Bool} {ds : List FieldDefinition} {fs : List Field}
    (h : buildFields ids message before ds = .ok fs) : ∀ f ∈ fs, f.type.Resolved ids := by
  induction ds generalizing before fs with
  | nil =>
    cases h
    simp
  | cons d ds ih =>
    unfold buildFields at h
    obtain ⟨type, typed, h⟩ := exists_of_bind_eq_ok h
    obtain ⟨rest, others, h⟩ := exists_of_bind_eq_ok h
    cases h
    refine List.forall_mem_cons.mpr ⟨?_, ih others⟩
    unfold typeInField at typed
    split at typed
    · cases typed
    · split at typed
      · rename_i read
        cases typed
        exact resolved_of_typeOfText read
      · cases typed

/-- A message that is built has the id, the name and the module of its definition, and fields with
resolved types. -/
theorem of_buildMessage {ids : TypeName.MessageIds} {d : MessageDefinition} {m : Message}
    (h : buildMessage ids d = .ok m) :
    m.id = d.id ∧ m.name = d.name ∧ m.module = d.module ∧ ∀ f ∈ m.fields, f.type.Resolved ids := by
  unfold buildMessage at h
  split at h
  · cases h
  · obtain ⟨fields, built, h⟩ := exists_of_bind_eq_ok h
    cases h
    exact ⟨rfl, rfl, rfl, resolved_of_buildFields built⟩

/-- The messages of a registry are those it is made of. -/
theorem messages_of_ofMessages {ms : List Message} {r : Registry} (h : ofMessages ms = .ok r) :
    r.messages = ms := by
  unfold ofMessages at h
  split at h
  · cases h
  · cases h
    rfl

/-- The table of names of the messages is that of their definitions. -/
theorem idsByName_eq {ids : TypeName.MessageIds} {ds : List MessageDefinition} {ms : List Message}
    (h : List.Forall₂ (fun d m => buildMessage ids d = .ok m) ds ms) :
    Message.idsByName ms = idsByName ds ∧
      ms.map Message.name = ds.map MessageDefinition.name := by
  induction h with
  | nil => exact ⟨rfl, rfl⟩
  | @cons d m ds ms first _ ih =>
    obtain ⟨id, name, -, -⟩ := of_buildMessage first
    obtain ⟨table, names⟩ := ih
    unfold Message.idsByName idsByName at table ⊢
    exact ⟨by simp only [List.filterMap_cons, id, name, table], by simp [name, names]⟩

/-- Every registry that is built from a definition is closed. -/
theorem isBuilt_of_ofDefinition {d : RegistryDefinition} {r : Registry}
    (h : ofDefinition d = .ok r) : r.IsBuilt := by
  unfold ofDefinition at h
  split at h
  · cases h
  · rename_i ds
    unfold ofDefinitions at h
    split at h
    · cases h
    · rename_i fresh
      obtain ⟨ms, made, h⟩ := exists_of_bind_eq_ok h
      have messages := forall₂_of_mapM_eq_ok made
      obtain ⟨table, names⟩ := idsByName_eq messages
      obtain rfl := messages_of_ofMessages h
      refine ⟨names ▸ (nodup_of_repeatedName? fresh).1, fun m mem => ?_⟩
      obtain ⟨e, -, first⟩ := exists_of_mem_forall₂ messages mem
      rw [table]
      exact (of_buildMessage first).2.2.2

/-- A field definition of a name and a type. -/
def Sample.field (name type : String) : FieldDefinition := { name := some name, type := some type }

end Registry

end PacketSmith
