import Mathlib.Data.List.Nodup
import Mathlib.Logic.Relation
import PacketSmith.Proofs.ResolvedTypes
import PacketSmith.Registry.Dependency

/-!
# What a message depends on

`Registry.dependencies` gives exactly the messages that can be reached from a message, in the order
of a depth-first search (`dependencies_eq_firsts`).

The order is stated without a search. `Unfolds` lists the whole tree of dependencies in pre-order,
each message followed by all that it holds, as often as it is met; the search gives the ids of that
list in the order of their first occurrences (`firsts`). What carries the proof is that an id that
was found before, and is not on the path, has been looked at completely: its part of the tree holds
nothing new (`IsFinished`).

Ids count as one if they have the same key, so membership is `MessageId.isIn` throughout.
-/

namespace PacketSmith

/-! ### First occurrences -/

namespace MessageId

/-- The ids with those of a list added that are new, in their order. -/
def addNew (found : List MessageId) : List MessageId → List MessageId
  | [] => found
  | id :: ids => if id.isIn found then addNew found ids else addNew (found ++ [id]) ids

/-- The ids of a list, each where it occurs first. -/
def firsts (ids : List MessageId) : List MessageId := addNew [] ids

@[simp] theorem isIn_append {a : MessageId} {xs ys : List MessageId} :
    a.isIn (xs ++ ys) = (a.isIn xs || a.isIn ys) := by
  simp [isIn]

@[simp] theorem isIn_singleton {a b : MessageId} : a.isIn [b] = a.same b := by
  simp [isIn]

theorem isIn_cons {a b : MessageId} {xs : List MessageId} :
    a.isIn (b :: xs) = (a.same b || a.isIn xs) := by
  simp [isIn]

theorem isIn_of_mem {a : MessageId} {xs : List MessageId} (h : a ∈ xs) : a.isIn xs = true :=
  isIn_iff.mpr (List.mem_map_of_mem h)

/-- Ids that count as one are in the same lists. -/
theorem isIn_congr {a b : MessageId} {xs : List MessageId} (h : a.key = b.key) :
    a.isIn xs = b.isIn xs := by
  unfold isIn same
  rw [h]

/-- Adding two lists is adding one and then the other. -/
theorem addNew_append (found xs ys : List MessageId) :
    addNew found (xs ++ ys) = addNew (addNew found xs) ys := by
  induction xs generalizing found with
  | nil => rfl
  | cons x xs ih =>
    rw [List.cons_append, addNew, addNew]
    split
    · exact ih found
    · exact ih (found ++ [x])

/-- What has been added is what was there and what was given. -/
theorem isIn_addNew {a : MessageId} {found xs : List MessageId} :
    a.isIn (addNew found xs) = true ↔ a.isIn found = true ∨ a.isIn xs = true := by
  induction xs generalizing found with
  | nil => simp [addNew, isIn]
  | cons x xs ih =>
    rw [addNew, isIn_cons, Bool.or_eq_true]
    split
    · rename_i known
      rw [ih]
      constructor
      · rintro (inside | inside)
        · exact .inl inside
        · exact .inr (.inr inside)
      · rintro (inside | same | inside)
        · exact .inl inside
        · exact .inl ((isIn_congr (same_iff.mp same)).trans known)
        · exact .inr inside
    · rw [ih, isIn_append, isIn_singleton, Bool.or_eq_true, or_assoc]

/-- Adding ids that are there changes nothing. -/
theorem addNew_eq_self {found xs : List MessageId} (h : ∀ x ∈ xs, x.isIn found = true) :
    addNew found xs = found := by
  induction xs with
  | nil => rfl
  | cons x xs ih =>
    obtain ⟨first, others⟩ := List.forall_mem_cons.mp h
    rw [addNew, if_pos first, ih others]

/-- An id that is new is no repetition. -/
theorem nodup_concat {id : MessageId} {xs : List MessageId} (h : (xs.map key).Nodup)
    (fresh : id.isIn xs = false) : ((xs ++ [id]).map key).Nodup := by
  rw [List.map_append, List.map_singleton, ← List.concat_eq_append]
  refine List.Nodup.concat ?_ h
  rwa [← isIn_iff, Bool.not_eq_true]

/-- No id is added twice. -/
theorem nodup_addNew {found xs : List MessageId} (h : (found.map key).Nodup) :
    ((addNew found xs).map key).Nodup := by
  induction xs generalizing found with
  | nil => exact h
  | cons x xs ih =>
    rw [addNew]
    split
    · exact ih h
    · rename_i fresh
      exact ih (nodup_concat h (by simpa using fresh))

end MessageId

/-! ### What a message holds -/

namespace Message

/-- The ids of the nested messages among some types, in their order, without an id of its own. -/
def mentionsIn (self : MessageId) (ws : List WireType) : List MessageId :=
  (ws.filter fun w => w.tag == .message && w.id != .null && !w.id.same self).map WireType.id

/-- The ids of the messages that the fields of a message mention, in the order of the fields and,
inside a field, each type before its parameters. -/
def mentions (m : Message) : List MessageId :=
  m.fields.flatMap fun f => mentionsIn m.id f.type.walk

/-- The ids of some types are added where they are new. -/
theorem addHeldIds_eq (self : MessageId) (found : List MessageId) (ws : List WireType) :
    addHeldIds self found ws = MessageId.addNew found (mentionsIn self ws) := by
  induction ws generalizing found with
  | nil => rfl
  | cons w ws ih =>
    unfold addHeldIds mentionsIn
    by_cases nested : (w.tag == .message && w.id != .null && !w.id.same self) = true
    · rw [List.filter_cons_of_pos (by exact nested), List.map_cons, MessageId.addNew]
      by_cases known : w.id.isIn found = true
      · rw [if_neg (by simp [known]), if_pos known]
        exact ih found
      · rw [if_pos (by simpa [known] using nested), if_neg known]
        exact ih (found ++ [w.id])
    · rw [List.filter_cons_of_neg (by exact nested), if_neg (by
        intro all
        exact nested (Bool.and_eq_true_iff.mp all).1)]
      exact ih found

/-- A message holds what its fields mention, each id where it occurs first. -/
theorem heldIds_eq_firsts {m : Message} {held : List MessageId} (h : m.heldIds = .ok held) :
    held = MessageId.firsts m.mentions := by
  -- over the fields that are left, behind the ids of those before
  have step : ∀ (fs : List Field) (found : List MessageId), m.heldIdsFrom found fs = .ok held →
      held = MessageId.addNew found (fs.flatMap fun f => mentionsIn m.id f.type.walk) := by
    intro fs
    induction fs with
    | nil =>
      intro found h
      cases h
      rfl
    | cons f fs ih =>
      intro found h
      unfold heldIdsFrom at h
      split at h
      · cases h
      · rw [List.flatMap_cons, MessageId.addNew_append, ← addHeldIds_eq]
        exact ih _ h
  exact step m.fields [] h

end Message

/-! ### The tree of dependencies -/

namespace Registry

/-- The message of the first id holds a message of the second. -/
def Holds (r : Registry) (a b : MessageId) : Prop :=
  ∃ m held, r.find? a = some m ∧ m.heldIds = .ok held ∧ b.isIn held = true

/-- The tree below some ids in pre-order: each id is followed by the tree below what its message
holds, as often as it is met. -/
inductive Unfolds (r : Registry) : List MessageId → List MessageId → Prop where
  | nil : Unfolds r [] []
  | cons {id : MessageId} {ids held below rest : List MessageId} {m : Message} :
      r.find? id = some m → m.heldIds = .ok held → Unfolds r held below → Unfolds r ids rest →
      Unfolds r (id :: ids) (id :: (below ++ rest))

/-- Ids that count as one have one message. -/
theorem find?_congr (r : Registry) {a b : MessageId} (h : a.key = b.key) :
    r.find? a = r.find? b := by
  unfold find? MessageId.same
  rw [h]

variable {r : Registry}

theorem find?_of_get {id : MessageId} {m : Message} (h : r.get id = .ok m) :
    r.find? id = some m := by
  unfold get at h
  split at h
  · rename_i found
    rw [found, Except.ok.inj h]
  · cases h

/-- All ids of the tree are reached from the ids it begins with. -/
theorem reaches_of_unfolds {ids visits : List MessageId} (h : Unfolds r ids visits) {y : MessageId}
    (mem : y ∈ visits) : ∃ x ∈ ids, Relation.ReflTransGen r.Holds x y := by
  induction h with
  | nil => simp at mem
  | @cons id ids held below rest m found holds _ _ ihBelow ihRest =>
    rcases List.mem_cons.mp mem with rfl | inside
    · exact ⟨y, List.mem_cons_self, .refl⟩
    rcases List.mem_append.mp inside with inside | inside
    · obtain ⟨x, isHeld, path⟩ := ihBelow inside
      have edge : r.Holds id x :=
        ⟨m, held, found, holds, MessageId.isIn_of_mem isHeld⟩
      exact ⟨id, List.mem_cons_self, path.head edge⟩
    · obtain ⟨x, isThere, path⟩ := ihRest inside
      exact ⟨x, List.mem_cons_of_mem _ isThere, path⟩

/-- All ids that are reached from those that the tree begins with are in it. -/
theorem isIn_of_unfolds {ids visits : List MessageId} (h : Unfolds r ids visits) {x y : MessageId}
    (mem : x.isIn ids = true) (path : Relation.ReflTransGen r.Holds x y) :
    y.isIn visits = true := by
  induction h generalizing x with
  | nil => simp [MessageId.isIn] at mem
  | @cons id ids held below rest m found holds _ _ ihBelow ihRest =>
    rw [MessageId.isIn_cons, MessageId.isIn_append]
    rcases Bool.or_eq_true_iff.mp (MessageId.isIn_cons ▸ mem) with same | inside
    · rcases path.cases_head with rfl | ⟨z, ⟨m', held', found', holds', isHeld⟩, path⟩
      · simp [same]
      · -- the message of `x` is that of `id`, so the next id on the path is held by it
        rw [find?_congr r (MessageId.same_iff.mp same), found] at found'
        obtain rfl := Option.some.inj found'
        rw [holds] at holds'
        obtain rfl := Except.ok.inj holds'
        simp [ihBelow isHeld path]
    · simp [ihRest inside path]

/-- Ids that count as one are reached together. -/
theorem reaches_congr {p x y : MessageId} (path : Relation.TransGen r.Holds p x)
    (same : y.key = x.key) : Relation.TransGen r.Holds p y := by
  obtain ⟨z, path, m, held, found, holds, isHeld⟩ := Relation.TransGen.tail'_iff.mp path
  exact .tail' path ⟨m, held, found, holds, (MessageId.isIn_congr same).trans isHeld⟩

/-- The tree below what a message holds is what is reached from it. -/
theorem isIn_iff_reaches {p q : MessageId} {m : Message} {held visits : List MessageId}
    (found : r.find? p = some m) (holds : m.heldIds = .ok held) (tree : Unfolds r held visits) :
    q.isIn visits = true ↔ Relation.TransGen r.Holds p q := by
  constructor
  · intro inside
    obtain ⟨y, mem, same⟩ := List.mem_map.mp (MessageId.isIn_iff.mp inside)
    obtain ⟨x, isHeld, path⟩ := reaches_of_unfolds tree mem
    have edge : r.Holds p x := ⟨m, held, found, holds, MessageId.isIn_of_mem isHeld⟩
    exact reaches_congr (.head' edge path) same.symm
  · intro path
    obtain ⟨x, ⟨m', held', found', holds', isHeld⟩, path⟩ := Relation.TransGen.head'_iff.mp path
    rw [found] at found'
    obtain rfl := Option.some.inj found'
    rw [holds] at holds'
    obtain rfl := Except.ok.inj holds'
    exact isIn_of_unfolds tree isHeld path

/-! ### The search -/

/-- The tree below the id has been looked at completely: it holds nothing that is not found. -/
def IsFinished (r : Registry) (found : List MessageId) (id : MessageId) : Prop :=
  ∃ visits, Unfolds r [id] visits ∧ ∀ y ∈ visits, y.isIn found = true

/-- Everything that is found is on the path or finished. -/
def IsExplored (r : Registry) (path found : List MessageId) : Prop :=
  ∀ x : MessageId, x.isIn found = true → x.isIn path = true ∨ IsFinished r found x

/-- What is found stays explored when more is found. -/
theorem IsFinished.mono {found found' : List MessageId} {id : MessageId}
    (h : IsFinished r found id)
    (more : ∀ y : MessageId, y.isIn found = true → y.isIn found' = true) :
    IsFinished r found' id := by
  obtain ⟨visits, tree, inside⟩ := h
  exact ⟨visits, tree, fun y mem => more y (inside y mem)⟩

/-- The tree below an id and the tree below others are the tree below all of them. -/
theorem Unfolds.cons_append {id : MessageId} {ids visits rest : List MessageId}
    (first : Unfolds r [id] visits) (others : Unfolds r ids rest) :
    Unfolds r (id :: ids) (visits ++ rest) := by
  obtain - | ⟨found, holds, tree, last⟩ := first
  obtain - | - := last
  rw [List.append_nil, List.cons_append]
  exact .cons found holds tree others

/-- An id is on the path as soon as it is found. -/
theorem IsExplored.enter {path found : List MessageId} (h : IsExplored r path found)
    (id : MessageId) : IsExplored r (path ++ [id]) (found ++ [id]) := by
  intro x isFound
  rw [MessageId.isIn_append, Bool.or_eq_true] at isFound ⊢
  rcases isFound with before | same
  · rcases h x before with onPath | finished
    · exact .inl (.inl onPath)
    · exact .inr (finished.mono fun y inside => by simp [inside])
  · exact .inl (.inr same)

/-- An id may leave the path once the tree below it is found. -/
theorem IsExplored.leave {path found held below : List MessageId} {id : MessageId} {m : Message}
    (h : IsExplored r (path ++ [id]) found) (lookup : r.find? id = some m)
    (holds : m.heldIds = .ok held) (tree : Unfolds r held below)
    (inside : ∀ y ∈ below, y.isIn found = true) : IsExplored r path found := by
  intro x isFound
  rcases h x isFound with onPath | finished
  · rw [MessageId.isIn_append, MessageId.isIn_singleton, Bool.or_eq_true] at onPath
    rcases onPath with onPath | same
    · exact .inl onPath
    · rw [← find?_congr r (MessageId.same_iff.mp same)] at lookup
      refine .inr ⟨x :: (below ++ []), .cons lookup holds tree .nil, ?_⟩
      rw [List.append_nil]
      exact List.forall_mem_cons.mpr ⟨isFound, inside⟩
  · exact .inr finished

/-- A search that returns has added the tree below the ids, each id where it occurs first, and has
explored it. -/
theorem search_eq_addNew {path found ids found' : List MessageId}
    (h : r.search path found ids = .ok found') (explored : IsExplored r path found) :
    IsExplored r path found' ∧
      ∃ visits, Unfolds r ids visits ∧ found' = MessageId.addNew found visits := by
  fun_induction search r path found ids generalizing found' with
  | case1 path found =>
    cases h
    exact ⟨explored, [], .nil, rfl⟩
  | case2 => cases h
  | case3 path found id ids offPath known ih =>
    obtain ⟨after, visits, tree, rfl⟩ := ih h explored
    obtain onPath | ⟨below, finished, inside⟩ := explored id known
    · exact absurd onPath offPath
    refine ⟨after, below ++ visits, finished.cons_append tree, ?_⟩
    rw [MessageId.addNew_append, MessageId.addNew_eq_self inside]
  | case4 => cases h
  | case5 path found id ids offPath fresh m lookup ihBelow ihRest =>
    obtain ⟨held, holds, h⟩ := exists_of_bind_eq_ok h
    obtain ⟨middle, searched, h⟩ := exists_of_bind_eq_ok h
    obtain ⟨beneath, below, tree, rfl⟩ := ihBelow held searched (explored.enter id)
    have left := beneath.leave lookup holds tree fun y mem =>
      MessageId.isIn_addNew.mpr (.inr (MessageId.isIn_of_mem mem))
    obtain ⟨after, rest, others, rfl⟩ := ihRest _ h left
    refine ⟨after, id :: (below ++ rest), .cons lookup holds tree others, ?_⟩
    rw [MessageId.addNew, if_neg fresh, MessageId.addNew_append]

/-- A search adds nothing that is on the path. -/
theorem offPath_of_search {path found ids found' : List MessageId}
    (h : r.search path found ids = .ok found') {x : MessageId} (new : x.isIn found' = true) :
    x.isIn found = true ∨ x.isIn path = false := by
  fun_induction search r path found ids generalizing found' with
  | case1 path found =>
    cases h
    exact .inl new
  | case2 => cases h
  | case3 path found id ids _ _ ih => exact ih h new
  | case4 => cases h
  | case5 path found id ids offPath fresh m lookup ihBelow ihRest =>
    obtain ⟨held, holds, h⟩ := exists_of_bind_eq_ok h
    obtain ⟨middle, searched, h⟩ := exists_of_bind_eq_ok h
    rcases ihRest middle h new with inside | off
    · rcases ihBelow held searched inside with before | off
      · rw [MessageId.isIn_append, MessageId.isIn_singleton, Bool.or_eq_true] at before
        rcases before with before | same
        · exact .inl before
        · right
          rwa [MessageId.isIn_congr (MessageId.same_iff.mp same), ← Bool.not_eq_true]
      · right
        rw [MessageId.isIn_append, Bool.or_eq_false_iff] at off
        exact off.1
    · exact .inr off

/-- The dependencies of a message, if they can be given at all, are without repetition the messages
other than itself that are reached by one step or more from one that holds to one that is held. They
stand in the order of first occurrences in the tree of dependencies in pre-order, where what a
message holds follows the order in which its fields mention it. -/
theorem dependencies_eq_firsts {p : MessageId} {found : List MessageId}
    (h : r.dependencies p = .ok found) :
    (found.map MessageId.key).Nodup ∧ p.isIn found = false ∧
      (∀ q : MessageId, q.isIn found = true ↔
        q.same p = false ∧ Relation.TransGen r.Holds p q) ∧
      (∃ m held visits, r.find? p = some m ∧ m.heldIds = .ok held ∧ Unfolds r held visits ∧
        found = MessageId.firsts visits) ∧
      ∀ (m : Message) (held : List MessageId), m.heldIds = .ok held →
        held = MessageId.firsts m.mentions := by
  obtain ⟨m, got, h⟩ := exists_of_bind_eq_ok h
  obtain ⟨held, holds, h⟩ := exists_of_bind_eq_ok h
  have lookup := find?_of_get got
  have start : IsExplored r [p] [] := fun x inside => by simp [MessageId.isIn] at inside
  obtain ⟨-, visits, tree, rfl⟩ := search_eq_addNew h start
  have other : ∀ q : MessageId, q.isIn (MessageId.firsts visits) = true → q.same p = false := by
    intro q inside
    rcases offPath_of_search h inside with none | off
    · simp [MessageId.isIn] at none
    · rwa [MessageId.isIn_singleton] at off
  have reached : ∀ q : MessageId, q.isIn (MessageId.firsts visits) = true ↔
      Relation.TransGen r.Holds p q := by
    intro q
    rw [← isIn_iff_reaches lookup holds tree, MessageId.firsts, MessageId.isIn_addNew]
    simp [MessageId.isIn]
  refine ⟨MessageId.nodup_addNew List.nodup_nil, ?_, fun q => ⟨fun inside => ?_, fun path => ?_⟩,
    ⟨m, held, visits, lookup, holds, tree, rfl⟩, fun m held => Message.heldIds_eq_firsts⟩
  · rw [← Bool.not_eq_true]
    intro inside
    simpa [MessageId.same] using other p inside
  · exact ⟨other q inside, (reached q).mp inside⟩
  · exact (reached q).mpr path.2

namespace Sample

/-- A field that holds the message of an id. -/
def holding (id : Nat) : Field where
  name := some "held"
  type := .mk .message (.simple "Held") [] (.number id)

/-- Four messages: the first holds the second and the third, which both hold the fourth. -/
def shared : Registry where
  messages := [⟨.number 1, some "First", [holding 2, holding 3], some "", none⟩,
    ⟨.number 2, some "Second", [holding 4], some "", none⟩,
    ⟨.number 3, some "Third", [holding 4], some "", none⟩,
    ⟨.number 4, some "Fourth", [], some "", none⟩]
  distinct := by decide

end Sample

/-- The fourth message is met twice and listed once, where it is met first. -/
theorem dependencies_eq_firsts_shared :
    Sample.shared.dependencies (.number 1) = .ok [.number 2, .number 4, .number 3] ∧
      Relation.TransGen Sample.shared.Holds (.number 1) (.number 4) := by
  have given :
      Sample.shared.dependencies (.number 1) = .ok [.number 2, .number 4, .number 3] := by cbv
  obtain ⟨-, -, reached, -⟩ := dependencies_eq_firsts given
  exact ⟨given, ((reached (.number 4)).mp (by decide)).2⟩

end Registry

end PacketSmith
