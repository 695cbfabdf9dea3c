import PacketSmith.Proofs.MessageLayout
import PacketSmith.Proofs.RegistryStability

/-!
# Messages that agree

Messages agree if they have the same id, name and module, and fields of the same names and types in
the same order. Documentation and the flags of fields may differ.

What a message depends on, the lines that make other messages known, the code that writes fields and
the values of a template are the same for messages and registries that agree.
-/

namespace PacketSmith

open Code

/-- The fields have the same name and the same type. -/
structure Field.Agrees (f g : Field) : Prop where
  /-- The name. -/
  name : f.name = g.name
  /-- The type. -/
  type : f.type = g.type

/-- The messages have the same id, name and module, and fields that agree. -/
structure Message.Agrees (m n : Message) : Prop where
  /-- The id. -/
  id : m.id = n.id
  /-- The name. -/
  name : m.name = n.name
  /-- The module. -/
  module : m.module = n.module
  /-- The fields. -/
  fields : List.Forall₂ Field.Agrees m.fields n.fields

/-- The registries have messages that agree, in the same order. -/
def Registry.Agrees (r s : Registry) : Prop :=
  List.Forall₂ Message.Agrees r.messages s.messages

theorem Message.Agrees.refl (m : Message) : m.Agrees m :=
  ⟨rfl, rfl, rfl, List.forall₂_same.mpr fun _ _ => ⟨rfl, rfl⟩⟩

theorem Registry.Agrees.refl (r : Registry) : r.Agrees r :=
  List.forall₂_same.mpr fun m _ => .refl m

/-- Messages that agree have the same directory. -/
theorem Message.Agrees.directory {m n : Message} (h : m.Agrees n) :
    m.directory = n.directory := by
  rw [Message.directory, Message.directory, h.module]

/-- Messages that agree hold the same messages. -/
theorem Message.Agrees.heldIds {m n : Message} (h : m.Agrees n) : m.heldIds = n.heldIds := by
  have step : ∀ {fs gs : List Field} (found : List MessageId),
      List.Forall₂ Field.Agrees fs gs → m.heldIdsFrom found fs = n.heldIdsFrom found gs := by
    intro fs gs found fields
    induction fields generalizing found with
    | nil => rfl
    | cons first _ ih =>
      rw [heldIdsFrom, heldIdsFrom, first.name, first.type, h.id, h.name, ih]
  exact step [] h.fields

namespace Registry.Agrees

variable {r s : Registry} (h : r.Agrees s)

include h

/-- An id denotes messages that agree, or none in both registries. -/
theorem find? (id : MessageId) : Option.Rel Message.Agrees (r.find? id) (s.find? id) := by
  unfold Registry.find?
  unfold Registry.Agrees at h
  generalize r.messages = ms, s.messages = ns at h
  induction h with
  | nil => exact .none
  | @cons m n ms ns first _ ih =>
    rw [List.find?_cons, List.find?_cons, ← first.id]
    cases m.id.same id with
    | true => exact .some first
    | false => exact ih

/-- What is done with the message of an id is the same if it is for messages that agree. -/
theorem get_bind {α : Type} {f g : Message → Except Fault α} (id : MessageId)
    (same : ∀ m n, m.Agrees n → f m = g n) : (r.get id >>= f) = (s.get id >>= g) := by
  have related := h.find? id
  unfold Registry.get
  generalize r.find? id = found, s.find? id = found' at related
  cases related with
  | none => rfl
  | some agrees => exact same _ _ agrees

/-- The search for dependencies makes the same steps. -/
theorem search (path found ids : List MessageId) :
    s.search path found ids = r.search path found ids := by
  fun_induction Registry.search r path found ids with
  | case1 path found => rw [Registry.search]
  | case2 path found id ids onPath => rw [Registry.search, dif_pos onPath]
  | case3 path found id ids offPath old ih =>
    rw [Registry.search, dif_neg offPath, if_pos old, ih]
  | case4 path found id ids offPath new absent =>
    have related := h.find? id
    rw [absent] at related
    rw [Registry.search, dif_neg offPath, if_neg new]
    split
    · rfl
    · rename_i n lookup
      rw [lookup] at related
      cases related
  | case5 path found id ids offPath new m lookup ihBelow ihRest =>
    have related := h.find? id
    rw [lookup] at related
    rw [Registry.search, dif_neg offPath, if_neg new]
    split
    · rename_i absent
      rw [absent] at related
      cases related
    · rename_i n lookup'
      rw [lookup'] at related
      obtain ⟨agrees⟩ := related
      rw [← agrees.heldIds]
      cases m.heldIds with
      | error e => rfl
      | ok held =>
        show (s.search (path ++ [id]) (found ++ [id]) held >>= _) =
          (r.search (path ++ [id]) (found ++ [id]) held >>= _)
        rw [ihBelow held]
        cases r.search (path ++ [id]) (found ++ [id]) held with
        | error e => rfl
        | ok next => exact ihRest next

/-- The dependencies of an id are the same. -/
theorem dependencies (id : MessageId) : r.dependencies id = s.dependencies id := by
  refine h.get_bind id fun m n agrees => ?_
  rw [agrees.heldIds]
  cases n.heldIds with
  | error e => rfl
  | ok held => exact (h.search [id] [] held).symm

/-- The lines that make other messages known are the same. -/
theorem dependencyLines {m n : Message} (own : m.Agrees n) (x : OutputContext) :
    x.dependencyLines r m = x.dependencyLines s n := by
  have line : ∀ a b, a.Agrees b → x.target.dependencyLine m a = x.target.dependencyLine n b := by
    intro a b agrees
    cases x.target with
    | cpp =>
      show Cpp.includeLine a = Cpp.includeLine b
      rw [Cpp.includeLine, Cpp.includeLine, agrees.directory, agrees.name]
    | typescript =>
      show TypeScript.importLine m a = TypeScript.importLine n b
      rw [TypeScript.importLine, TypeScript.importLine, own.directory, agrees.directory,
        agrees.name]
  unfold OutputContext.dependencyLines
  rw [own.id, h.dependencies]
  cases s.dependencies n.id with
  | error e => rfl
  | ok ids =>
    exact congrArg (fun lines => lines >>= fun ls => pure ls.eraseDups)
      (mapM_congr fun id _ => h.get_bind id line)

end Registry.Agrees

namespace Code.Coder

variable {c : Coder} {fs gs : List Field} (h : List.Forall₂ Field.Agrees fs gs)

include h

/-- The code that writes fields that agree is the same. -/
theorem writeFields_eq_of_agrees : c.writeFields fs = c.writeFields gs := by
  induction h with
  | nil => rfl
  | cons first _ ih => rw [writeFields, writeFields, first.name, first.type, ih]

end Code.Coder

/-- The values of a template are the same for messages that agree. -/
theorem messageValues_eq_of_agrees (t : Target) {p q : MessageParts}
    (agrees : p.message.Agrees q.message)
    (same : p.fields.map (fun d => (d.type, d.identifier)) =
      q.fields.map fun d => (d.type, d.identifier))
    (rest : q = { p with message := q.message, fields := q.fields }) :
    t.messageValues p = t.messageValues q := by
  have through : ∀ f : String × String → String,
      p.fields.map (fun d => f (d.type, d.identifier)) =
        q.fields.map fun d => f (d.type, d.identifier) := by
    intro f
    have mapped := congrArg (List.map f) same
    simpa only [List.map_map, Function.comp_def] using mapped
  rw [rest]
  cases t with
  | cpp =>
    have params := through fun d => d.1 ++ " " ++ d.2
    have stores : p.fields.map Cpp.assignment = q.fields.map Cpp.assignment :=
      through fun d => Cpp.assignment ⟨⟨none, default, none, none⟩, d.1, d.2⟩
    have compares : p.fields.map Cpp.comparison = q.fields.map Cpp.comparison :=
      through fun d => Cpp.comparison ⟨⟨none, default, none, none⟩, d.1, d.2⟩
    show Cpp.messageValues _ = Cpp.messageValues _
    unfold Cpp.messageValues
    dsimp only
    rw [agrees.name, agrees.id, params, stores, compares]
  | typescript =>
    show Except.ok (TypeScript.messageValues _) = Except.ok (TypeScript.messageValues _)
    unfold TypeScript.messageValues
    dsimp only
    rw [agrees.name, agrees.id]

end PacketSmith
