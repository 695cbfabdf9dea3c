import Mathlib
import PacketSmith.Proofs.BuiltRegistry
import PacketSmith.Proofs.Dependencies

/-!
# Cycles are found exactly

A search for the dependencies of a message fails exactly if a message that can be reached has a
field of its own type, or lies on a cycle of two or more messages (`cycle_iff_of_ofDefinition`).
Nesting is stated by the names in types (`Message.Nests`), without ids and without a search.

* A search that fails stops for a reason that can be pointed at (`Stops`): the path from the start
  is a trail of distinct ids, each of which holds the next (`IsTrail`), so an id of the path that is
  met again closes a cycle.
* A search that returns has unfolded the whole tree of dependencies. The tree below a message is
  larger than the trees below what it holds (`Unfolds.of_holds`), so nothing holds itself in turn,
  also not by way of messages that were skipped because they had been found before.
-/

namespace PacketSmith

/-- The fault is a dependency cycle: a field of its message's own type, or messages that hold each
other in turn. -/
def Fault.isCycle : Fault → Bool
  | ownType .. => true
  | cycle .. => true
  | _ => false

/-! ### What a message holds -/

namespace Message

variable {m : Message} {held : List MessageId}

/-- What a message holds cannot be told only if a field has the id of the message. -/
theorem exists_of_heldIds_eq_error {e : Fault} (h : m.heldIds = .error e) :
    ∃ f ∈ m.fields, f.type.id.same m.id = true ∧
      e = .ownType (shown m.name) (shown f.name) m.id := by
  have step : ∀ (fs : List Field) (found : List MessageId), m.heldIdsFrom found fs = .error e →
      ∃ f ∈ fs, f.type.id.same m.id = true ∧
        e = .ownType (shown m.name) (shown f.name) m.id := by
    intro fs
    induction fs with
    | nil =>
      intro found h
      cases h
    | cons f fs ih =>
      intro found h
      unfold heldIdsFrom at h
      split at h
      · rename_i same
        cases h
        exact ⟨f, List.mem_cons_self, same, rfl⟩
      · obtain ⟨g, mem, rest⟩ := ih _ h
        exact ⟨g, List.mem_cons_of_mem _ mem, rest⟩
  exact step m.fields [] h

/-- If what a message holds can be told, no field has the id of the message. -/
theorem not_same_of_heldIds (h : m.heldIds = .ok held) :
    ∀ f ∈ m.fields, f.type.id.same m.id = false := by
  have step : ∀ (fs : List Field) (found : List MessageId), m.heldIdsFrom found fs = .ok held →
      ∀ f ∈ fs, f.type.id.same m.id = false := by
    intro fs
    induction fs with
    | nil =>
      intro found h f mem
      cases mem
    | cons f fs ih =>
      intro found h
      unfold heldIdsFrom at h
      split at h
      · cases h
      · rename_i other
        exact List.forall_mem_cons.mpr ⟨Bool.eq_false_iff.mpr other, ih _ h⟩
  exact step m.fields [] h

/-- A message holds the ids of the nested messages in its fields, other than null and its own. -/
theorem isIn_heldIds (h : m.heldIds = .ok held) {id : MessageId} :
    id.isIn held = true ↔ ∃ f ∈ m.fields, ∃ w ∈ f.type.walk, w.tag = .message ∧ w.id ≠ .null ∧
      w.id.same m.id = false ∧ w.id.key = id.key := by
  rw [heldIds_eq_firsts h, MessageId.firsts, MessageId.isIn_addNew, MessageId.isIn_iff]
  simp only [MessageId.isIn_iff, List.map_nil, List.not_mem_nil, false_or, mentions, mentionsIn,
    List.mem_map, List.mem_flatMap, List.mem_filter, Bool.and_eq_true, beq_iff_eq, bne_iff_ne,
    Bool.not_eq_true']
  constructor
  · rintro ⟨x, ⟨f, hf, w, ⟨hw, ⟨tag, null⟩, own⟩, rfl⟩, same⟩
    exact ⟨f, hf, w, hw, tag, null, own, same⟩
  · rintro ⟨f, hf, w, hw, tag, null, own, same⟩
    exact ⟨w.id, ⟨f, hf, w, ⟨hw, ⟨tag, null⟩, own⟩, rfl⟩, same⟩

end Message

/-! ### Why a search stops -/

namespace Registry

variable {r : Registry}

/-- The ids are distinct, each holds the next, and all are reached from the start. -/
structure IsTrail (r : Registry) (start : MessageId) (path : List MessageId) : Prop where
  /-- No two ids count as one. -/
  distinct : (path.map MessageId.key).Nodup
  /-- Each id holds the next. -/
  chain : path.IsChain r.Holds
  /-- All ids are reached from the start. -/
  reached : ∀ x ∈ path, Relation.ReflTransGen r.Holds start x

/-- The reasons that stop a search from an id: a message that is reached has a field of its own
type, messages that are reached hold each other in turn, or an id that is reached has no message. -/
inductive Stops (r : Registry) (start : MessageId) : Fault → Prop where
  | own {x : MessageId} {m : Message} {e : Fault} :
      Relation.ReflTransGen r.Holds start x → r.find? x = some m → m.heldIds = .error e →
      Stops r start e
  | cycle {x y : MessageId} {xs : List MessageId} :
      Relation.ReflTransGen r.Holds start x → ((x :: xs).map MessageId.key).Nodup → xs ≠ [] →
      (x :: (xs ++ [y])).IsChain r.Holds → x.key = y.key →
      Stops r start (.cycle (x :: (xs ++ [y])))
  | unknown {x : MessageId} :
      Relation.ReflTransGen r.Holds start x → r.find? x = none → Stops r start (.unknownId x)

/-- No message holds itself. -/
theorem not_same_of_holds {x y : MessageId} (h : r.Holds x y) : x.key ≠ y.key := by
  obtain ⟨m, held, found, holds, inside⟩ := h
  obtain ⟨f, -, w, -, -, -, own, same⟩ := (Message.isIn_heldIds holds).mp inside
  intro equal
  have key := (mem_of_find? found).2
  simp [MessageId.same, key, equal, same] at own

/-- A trail goes on to an id that its end holds and that is not on it. -/
theorem IsTrail.enter {start last id : MessageId} {path : List MessageId}
    (trail : IsTrail r start path) (ends : path.getLast? = some last) (edge : r.Holds last id)
    (off : id.isIn path = false) : IsTrail r start (path ++ [id]) := by
  refine ⟨MessageId.nodup_concat trail.distinct off, ?_, ?_⟩
  · refine trail.chain.append (.singleton id) ?_
    intro x isLast y isFirst
    obtain rfl : last = x := by simpa [ends] using isLast
    obtain rfl : id = y := by simpa using isFirst
    exact edge
  · intro x mem
    rcases List.mem_append.mp mem with inside | same
    · exact trail.reached x inside
    · obtain rfl : x = id := by simpa using same
      exact (trail.reached last (List.mem_of_getLast? ends)).tail edge

/-- An id of a trail that its end holds closes a cycle. -/
theorem IsTrail.close {start last id : MessageId} {path : List MessageId}
    (trail : IsTrail r start path) (ends : path.getLast? = some last) (edge : r.Holds last id)
    (on : id.isIn path = true) : Stops r start (.cycle (cycleFrom path id)) := by
  unfold cycleFrom
  cases rest : path.dropWhile (fun p => !p.same id) with
  | nil =>
    -- an id of the path is the same, so not all of the path is dropped
    obtain ⟨p, mem, same⟩ := List.any_eq_true.mp on
    have other := List.dropWhile_eq_nil_iff.mp rest p mem
    rw [MessageId.same_iff] at same
    simp [MessageId.same, same] at other
  | cons x xs =>
    have split : path.takeWhile (fun p => !p.same id) ++ x :: xs = path := by
      rw [← rest, List.takeWhile_append_dropWhile]
    have same : x.key = id.key := by
      have first := List.head?_dropWhile_not (fun p => !p.same id) path
      rw [rest] at first
      simpa using first
    have end_eq : (x :: xs).getLast? = some last := by
      rw [← split, List.getLast?_append_of_ne_nil _ (by simp)] at ends
      exact ends
    refine .cycle (trail.reached x ?_) ?_ ?_ ?_ same
    · rw [← split]
      simp
    · have distinct := trail.distinct
      rw [← split, List.map_append] at distinct
      exact (List.nodup_append.mp distinct).2.1
    · rintro rfl
      obtain rfl : x = last := by simpa using end_eq
      exact not_same_of_holds edge same
    · have chain := trail.chain
      rw [← split] at chain
      refine chain.right_of_append.append (.singleton id) ?_
      intro u isLast v isFirst
      obtain rfl : last = u := by simpa [end_eq] using isLast
      obtain rfl : id = v := by simpa using isFirst
      exact edge

/-- A search that fails stops for a reason, if it has come along a trail to a message that holds the
ids it looks at. -/
theorem stops_of_search {start last : MessageId} {path found ids : List MessageId} {e : Fault}
    (h : r.search path found ids = .error e) (trail : IsTrail r start path)
    (ends : path.getLast? = some last) (edges : ∀ id ∈ ids, r.Holds last id) :
    Stops r start e := by
  fun_induction search r path found ids generalizing last with
  | case1 => cases h
  | case2 path found id ids on =>
    cases h
    exact trail.close ends (edges id List.mem_cons_self) on
  | case3 path found id ids off known ih =>
    exact ih h trail ends fun x mem => edges x (List.mem_cons_of_mem _ mem)
  | case4 path found id ids off fresh lookup =>
    cases h
    have edge := edges id List.mem_cons_self
    exact .unknown ((trail.reached last (List.mem_of_getLast? ends)).tail edge) lookup
  | case5 path found id ids off fresh m lookup ihBelow ihRest =>
    have edge := edges id List.mem_cons_self
    have entered := trail.enter ends edge (by simpa using off)
    rcases cases_of_bind_eq_error h with own | ⟨held, holds, h⟩
    · exact .own (entered.reached id (by simp)) lookup own
    rcases cases_of_bind_eq_error h with below | ⟨middle, -, h⟩
    · refine ihBelow held below entered List.getLast?_concat fun x mem => ?_
      exact ⟨m, held, lookup, holds, MessageId.isIn_of_mem mem⟩
    · exact ihRest middle h trail ends fun x mem => edges x (List.mem_cons_of_mem _ mem)

/-- A message whose dependencies cannot be told has a reason for it. -/
theorem stops_of_dependencies {p : MessageId} {e : Fault} (h : r.dependencies p = .error e) :
    Stops r p e := by
  unfold dependencies at h
  rcases cases_of_bind_eq_error h with missing | ⟨m, got, h⟩
  · unfold get at missing
    split at missing
    · cases missing
    · rename_i lookup
      cases missing
      exact .unknown .refl lookup
  have lookup := find?_of_get got
  rcases cases_of_bind_eq_error h with own | ⟨held, holds, h⟩
  · exact .own .refl lookup own
  have trail : IsTrail r p [p] := ⟨by simp, .singleton p, by simpa using Relation.ReflTransGen.refl⟩
  refine stops_of_search h trail rfl fun x mem => ?_
  exact ⟨m, held, lookup, holds, MessageId.isIn_of_mem mem⟩

/-! ### A tree that is unfolded has no cycle -/

/-- Ids that count as one have trees of one size. -/
theorem Unfolds.congr {x y : MessageId} {visits : List MessageId} (tree : Unfolds r [x] visits)
    (same : x.key = y.key) : ∃ other, Unfolds r [y] other ∧ other.length = visits.length := by
  obtain - | ⟨found, holds, below, last⟩ := tree
  rw [find?_congr r same] at found
  exact ⟨_, .cons found holds below last, by simp⟩

/-- The tree below one of some ids is part of the tree below all of them. -/
theorem Unfolds.of_mem {ids visits : List MessageId} (tree : Unfolds r ids visits) {x : MessageId}
    (mem : x ∈ ids) : ∃ part, Unfolds r [x] part ∧ part.length ≤ visits.length := by
  induction tree with
  | nil => cases mem
  | @cons id ids held below rest m found holds inner _ _ ih =>
    rcases List.mem_cons.mp mem with rfl | inside
    · exact ⟨_, .cons found holds inner .nil, by simp⟩
    · obtain ⟨part, tree, small⟩ := ih inside
      refine ⟨part, tree, small.trans ?_⟩
      rw [List.length_cons, List.length_append]
      omega

/-- The tree below an id is larger than the tree below an id that its message holds. -/
theorem Unfolds.of_holds {x y : MessageId} {visits : List MessageId} (tree : Unfolds r [x] visits)
    (edge : r.Holds x y) : ∃ part, Unfolds r [y] part ∧ part.length < visits.length := by
  obtain - | ⟨found, holds, below, last⟩ := tree
  obtain ⟨m, held, found', holds', inside⟩ := edge
  obtain rfl := Option.some.inj (found.symm.trans found')
  obtain rfl := Except.ok.inj (holds.symm.trans holds')
  obtain ⟨id, mem, same⟩ := List.mem_map.mp (MessageId.isIn_iff.mp inside)
  obtain ⟨part, tree, small⟩ := below.of_mem mem
  obtain ⟨other, tree, size⟩ := tree.congr same
  refine ⟨other, tree, ?_⟩
  rw [List.length_cons, List.length_append]
  omega

/-- The tree below an id is larger than the tree below an id that is reached from it. -/
theorem Unfolds.of_reaches {x y : MessageId} {visits : List MessageId} (tree : Unfolds r [x] visits)
    (path : Relation.TransGen r.Holds x y) :
    ∃ part, Unfolds r [y] part ∧ part.length < visits.length := by
  induction path with
  | single edge => exact tree.of_holds edge
  | tail _ edge ih =>
    obtain ⟨part, tree, small⟩ := ih
    obtain ⟨other, tree, smaller⟩ := tree.of_holds edge
    exact ⟨other, tree, smaller.trans small⟩

/-- An id whose tree is unfolded is not reached from itself. -/
theorem Unfolds.not_reaches_self {x : MessageId} {visits : List MessageId}
    (tree : Unfolds r [x] visits) : ¬ Relation.TransGen r.Holds x x := by
  intro path
  -- each way around would give a smaller tree below the same id
  induction size : visits.length using Nat.strong_induction_on generalizing visits with
  | _ n ih =>
    obtain ⟨part, smaller, less⟩ := tree.of_reaches path
    exact ih part.length (size ▸ less) smaller rfl

/-- The dependencies of a message, if they can be told, are the tree below what it holds, each id
where it occurs first. -/
theorem exists_tree_of_dependencies {p : MessageId} {found : List MessageId}
    (h : r.dependencies p = .ok found) :
    ∃ m held visits, r.find? p = some m ∧ m.heldIds = .ok held ∧ Unfolds r held visits ∧
      found = MessageId.firsts visits := by
  unfold dependencies at h
  obtain ⟨m, got, h⟩ := exists_of_bind_eq_ok h
  obtain ⟨held, holds, h⟩ := exists_of_bind_eq_ok h
  have start : IsExplored r [p] [] := fun x inside => by simp [MessageId.isIn] at inside
  obtain ⟨-, visits, tree, added⟩ := search_eq_addNew h start
  exact ⟨m, held, visits, find?_of_get got, holds, tree, added⟩

/-- A message whose dependencies can be told has an unfolded tree. -/
theorem exists_unfolds_of_dependencies {p : MessageId} {found : List MessageId}
    (h : r.dependencies p = .ok found) : ∃ visits, Unfolds r [p] visits := by
  obtain ⟨m, held, visits, lookup, holds, tree, -⟩ := exists_tree_of_dependencies h
  exact ⟨_, .cons lookup holds tree .nil⟩

/-- The dependencies of a message are what is reached from it. -/
theorem isIn_dependencies_iff {p q : MessageId} {found : List MessageId}
    (h : r.dependencies p = .ok found) :
    q.isIn found = true ↔ Relation.TransGen r.Holds p q := by
  obtain ⟨m, held, visits, lookup, holds, tree, rfl⟩ := exists_tree_of_dependencies h
  rw [← isIn_iff_reaches lookup holds tree, MessageId.firsts, MessageId.isIn_addNew]
  simp [MessageId.isIn]

end Registry

/-! ### Nesting of messages -/

/-- A type inside a field of the message, at any depth, is the other message. -/
def Message.Nests (a b : Message) : Prop :=
  ∃ f ∈ a.fields, ∃ w ∈ f.type.walk, w.tag = .message ∧ b.name = some w.name.head

/-- A field of the message has the message itself as its own type. -/
def Message.HoldsItself (a : Message) : Prop :=
  ∃ f ∈ a.fields, f.type.tag = .message ∧ a.name = some f.type.name.head

namespace Registry

/-- A message of the registry nests another one. -/
def Nests (r : Registry) (a b : Message) : Prop := a ∈ r.messages ∧ b ∈ r.messages ∧ a.Nests b

/-- Two or more distinct messages, each of which nests the next, and the last one the first. -/
structure IsCycle (r : Registry) (c : List Message) : Prop where
  /-- No message occurs twice. -/
  distinct : c.Nodup
  /-- There are two messages at least. -/
  several : 2 ≤ c.length
  /-- Each message nests the next, around the cycle. -/
  closed : (c ++ c.take 1).IsChain r.Nests

/-- Among a message and those it reaches, one has a field of its own type or lies on a cycle. -/
def HasCycleFrom (r : Registry) (p : Message) : Prop :=
  ∃ a, Relation.ReflTransGen r.Nests p a ∧ (a.HoldsItself ∨ ∃ c, r.IsCycle c ∧ a ∈ c)

variable {r : Registry} {a b p : Message}

/-- From a message of a cycle there is a way to two distinct messages of which each reaches the
other. -/
theorem IsCycle.exists_pair {c : List Message} (cycle : r.IsCycle c) (mem : a ∈ c) :
    ∃ x y, x ≠ y ∧ Relation.ReflTransGen r.Nests a x ∧ r.Nests x y ∧
      Relation.ReflTransGen r.Nests y x := by
  obtain ⟨distinct, several, closed⟩ := cycle
  match c, several with
  | x :: y :: rest, _ =>
    have first : x ≠ y := by
      rintro rfl
      simp at distinct
    have around : (x :: y :: (rest ++ [x])).IsChain r.Nests := by simpa using closed
    have back : Relation.ReflTransGen r.Nests y x := by
      refine List.relationReflTransGen_of_exists_isChain_cons (rest ++ [x]) around.tail ?_
      simp
    refine ⟨x, y, first, ?_, (List.isChain_cons_cons.mp around).1, back⟩
    -- the rest of the cycle leads from `a` to its first message
    obtain ⟨before, after, split⟩ := List.append_of_mem mem
    have whole : (before ++ a :: (after ++ [x])).IsChain r.Nests := by
      have same : before ++ a :: (after ++ [x]) = x :: y :: (rest ++ [x]) := by
        rw [← List.cons_append, ← List.append_assoc, ← split]
        rfl
      rw [same]
      exact around
    refine List.relationReflTransGen_of_exists_isChain_cons (after ++ [x]) whole.right_of_append ?_
    simp

/-- What a message of the registry reaches is a message of the registry. -/
theorem mem_of_reaches (ha : a ∈ r.messages) (path : Relation.ReflTransGen r.Nests a b) :
    b ∈ r.messages := by
  induction path with
  | refl => exact ha
  | tail _ nests _ => exact nests.2.1

section Built

/-- A nested message is the message with its name, which is the one with its id. -/
theorem IsBuilt.name_iff {f : Field} {w : WireType} (built : r.IsBuilt) (ha : a ∈ r.messages)
    (hf : f ∈ a.fields) (hw : w ∈ f.type.walk) (tag : w.tag = .message) (hb : b ∈ r.messages) :
    b.name = some w.name.head ↔ w.id.key = b.id.key := by
  obtain ⟨c, hc, name, id⟩ := built.exists_message ha hf hw tag
  constructor
  · intro same
    rw [← id, built.eq_of_name_eq hc hb (name.trans same.symm)]
  · intro same
    rw [← id] at same
    rw [← eq_of_key_eq hc hb same, name]

variable (built : r.IsBuilt)

include built

/-- What a message holds is a message that it nests. -/
theorem exists_nests_of_holds {x y : MessageId} (edge : r.Holds x y) (found : r.find? x = some a) :
    ∃ b, r.find? y = some b ∧ r.Nests a b := by
  obtain ⟨m, held, found', holds, inside⟩ := edge
  obtain rfl := Option.some.inj (found.symm.trans found')
  have ha := (mem_of_find? found).1
  obtain ⟨f, hf, w, hw, tag, -, -, same⟩ := (Message.isIn_heldIds holds).mp inside
  obtain ⟨b, hb, name, id⟩ := built.exists_message ha hf hw tag
  exact ⟨b, find?_of_mem hb (by rw [id, same]), ha, hb, f, hf, w, hw, tag, name⟩

/-- What is reached from an id is a message that is reached by nesting. -/
theorem exists_reaches_of_holds {x y : MessageId} (path : Relation.ReflTransGen r.Holds x y)
    (found : r.find? x = some a) :
    ∃ b, r.find? y = some b ∧ Relation.ReflTransGen r.Nests a b := by
  induction path with
  | refl => exact ⟨a, found, .refl⟩
  | tail _ edge ih =>
    obtain ⟨b, foundB, path⟩ := ih
    obtain ⟨c, foundC, nests⟩ := exists_nests_of_holds built edge foundB
    exact ⟨c, foundC, path.tail nests⟩

/-- What a message depends on is found. -/
theorem exists_find?_of_mem_dependencies (ha : a ∈ r.messages) {found : List MessageId}
    (h : r.dependencies a.id = .ok found) {id : MessageId} (mem : id ∈ found) :
    ∃ b, r.find? id = some b := by
  have reached := (isIn_dependencies_iff h).mp (MessageId.isIn_of_mem mem)
  obtain ⟨b, foundB, -⟩ :=
    exists_reaches_of_holds built reached.to_reflTransGen (find?_of_mem ha rfl)
  exact ⟨b, foundB⟩

/-- Ids of which each holds the next belong to messages of which each nests the next. -/
theorem exists_chain_of_holds {x y : MessageId} {xs : List MessageId}
    (chain : (x :: (xs ++ [y])).IsChain r.Holds) (found : r.find? x = some a) :
    ∃ bs b, (a :: (bs ++ [b])).IsChain r.Nests ∧ r.find? y = some b ∧
      bs.map (fun m => m.id.key) = xs.map MessageId.key := by
  induction xs generalizing x a with
  | nil =>
    obtain ⟨b, foundB, nests⟩ := exists_nests_of_holds built (List.isChain_pair.mp chain) found
    exact ⟨[], b, List.isChain_pair.mpr nests, foundB, rfl⟩
  | cons z zs ih =>
    obtain ⟨edge, chain⟩ := List.isChain_cons_cons.mp chain
    obtain ⟨c, foundC, nests⟩ := exists_nests_of_holds built edge found
    obtain ⟨bs, b, rest, foundB, keys⟩ := ih chain foundC
    refine ⟨c :: bs, b, List.isChain_cons_cons.mpr ⟨nests, rest⟩, foundB, ?_⟩
    rw [List.map_cons, List.map_cons, keys, (mem_of_find? foundC).2]

/-- A message with an unfolded tree holds every other message that it nests, if that has an id. -/
theorem holds_of_nests {visits : List MessageId} (tree : Unfolds r [a.id] visits)
    (nests : r.Nests a b) (other : a ≠ b) (id : b.id ≠ .null) : r.Holds a.id b.id := by
  obtain ⟨ha, hb, f, hf, w, hw, tag, name⟩ := nests
  obtain - | ⟨found, holds, -, -⟩ := tree
  rw [find?_of_mem ha rfl] at found
  obtain rfl := Option.some.inj found
  obtain ⟨c, hc, named, same⟩ := built.exists_message ha hf hw tag
  obtain rfl := built.eq_of_name_eq hc hb (named.trans name.symm)
  refine ⟨a, _, find?_of_mem ha rfl, holds, (Message.isIn_heldIds holds).mpr ?_⟩
  refine ⟨f, hf, w, hw, tag, same ▸ id, ?_, by rw [same]⟩
  rw [Bool.eq_false_iff, ← same]
  intro own
  exact other (eq_of_key_eq ha hb (MessageId.same_iff.mp own).symm)

variable (ids : ∀ m ∈ r.messages, m.id ≠ .null)

include ids

/-- A field has the id of its message exactly if its own type is the message. -/
theorem holdsItself_iff (ha : a ∈ r.messages) :
    a.HoldsItself ↔ ∃ f ∈ a.fields, f.type.id.same a.id = true := by
  have own : ∀ f ∈ a.fields, f.type.id.same a.id = true ↔
      f.type.tag = .message ∧ a.name = some f.type.name.head := by
    intro f hf
    have itself : f.type ∈ f.type.walk := WireType.mem_walk.mpr (.inl rfl)
    constructor
    · intro same
      have tag : f.type.tag = .message := by
        by_contra other
        have null := (built.resolved a ha f hf).id_eq_null other
        rw [null, MessageId.same_iff] at same
        cases id : a.id with
        | null => exact ids a ha id
        | flag v => simp [id, MessageId.key] at same
        | number n => simp [id, MessageId.key] at same
      exact ⟨tag, (built.name_iff ha hf itself tag ha).mpr (MessageId.same_iff.mp same)⟩
    · rintro ⟨tag, name⟩
      exact MessageId.same_iff.mpr ((built.name_iff ha hf itself tag ha).mp name)
  constructor
  · rintro ⟨f, hf, h⟩
    exact ⟨f, hf, (own f hf).mpr h⟩
  · rintro ⟨f, hf, same⟩
    exact ⟨f, hf, (own f hf).mp same⟩

/-- A search that stops has met a cycle. -/
theorem hasCycleFrom_of_stops {e : Fault} (hp : p ∈ r.messages) (stops : Stops r p.id e) :
    e.isCycle = true ∧ r.HasCycleFrom p := by
  have start : r.find? p.id = some p := find?_of_mem hp rfl
  cases stops with
  | own path found fails =>
    obtain ⟨a, foundA, reach⟩ := exists_reaches_of_holds built path start
    obtain rfl := Option.some.inj (found.symm.trans foundA)
    obtain ⟨f, hf, same, rfl⟩ := Message.exists_of_heldIds_eq_error fails
    have own := (holdsItself_iff built ids (mem_of_find? found).1).mpr ⟨f, hf, same⟩
    exact ⟨rfl, _, reach, .inl own⟩
  | @cycle x y xs path distinct several chain same =>
    obtain ⟨a, foundA, reach⟩ := exists_reaches_of_holds built path start
    obtain ⟨bs, b, nests, foundB, keys⟩ := exists_chain_of_holds built chain foundA
    -- the last message of the chain is the first one again
    rw [← find?_congr r same, foundA] at foundB
    obtain rfl := Option.some.inj foundB
    refine ⟨rfl, a, reach, .inr ⟨a :: bs, ⟨?_, ?_, nests⟩, List.mem_cons_self⟩⟩
    · apply List.Nodup.of_map fun m : Message => m.id.key
      rw [List.map_cons, keys, (mem_of_find? foundA).2]
      exact distinct
    · have size : bs.length = xs.length := by simpa using congrArg List.length keys
      have := List.length_pos_iff.mpr several
      rw [List.length_cons]
      omega
  | unknown path missing =>
    obtain ⟨a, foundA, -⟩ := exists_reaches_of_holds built path start
    cases missing.symm.trans foundA

/-- What a message with an unfolded tree reaches by nesting, it reaches by its ids, and it has an
unfolded tree too. -/
theorem Unfolds.of_nesting {visits : List MessageId} (tree : Unfolds r [a.id] visits)
    (path : Relation.ReflTransGen r.Nests a b) :
    Relation.ReflTransGen r.Holds a.id b.id ∧ ∃ part, Unfolds r [b.id] part := by
  induction path with
  | refl => exact ⟨.refl, visits, tree⟩
  | @tail b c _ nests ih =>
    obtain ⟨reach, part, below⟩ := ih
    -- a message that nests itself takes no step of the search
    by_cases self : b = c
    · exact self ▸ ⟨reach, part, below⟩
    · have edge := holds_of_nests built below nests self (ids c nests.2.1)
      obtain ⟨smaller, tree, -⟩ := below.of_holds edge
      exact ⟨reach.tail edge, smaller, tree⟩

/-- A message whose dependencies can be told reaches no cycle. -/
theorem not_hasCycleFrom_of_dependencies {found : List MessageId} (hp : p ∈ r.messages)
    (h : r.dependencies p.id = .ok found) : ¬ r.HasCycleFrom p := by
  rintro ⟨a, reach, bad⟩
  obtain ⟨visits, tree⟩ := exists_unfolds_of_dependencies h
  obtain ⟨-, below, treeA⟩ := tree.of_nesting built ids reach
  rcases bad with own | ⟨c, cycle, mem⟩
  · obtain - | ⟨foundA, holds, -, -⟩ := treeA
    rw [find?_of_mem (mem_of_reaches hp reach) rfl] at foundA
    obtain rfl := Option.some.inj foundA
    obtain ⟨f, hf, same⟩ := (holdsItself_iff built ids (mem_of_reaches hp reach)).mp own
    simp [Message.not_same_of_heldIds holds f hf] at same
  · obtain ⟨x, y, other, toX, nests, back⟩ := cycle.exists_pair mem
    obtain ⟨-, part, treeX⟩ := treeA.of_nesting built ids toX
    have edge := holds_of_nests built treeX nests other (ids y nests.2.1)
    obtain ⟨partY, treeY, -⟩ := treeX.of_holds edge
    have reachBack := (treeY.of_nesting built ids back).1
    exact treeX.not_reaches_self (Relation.TransGen.head' edge reachBack)

end Built

/-- A message that nests no message but itself, and itself only below its fields' own types, reaches
no cycle. -/
theorem not_hasCycleFrom_of_alone (own : ¬ p.HoldsItself) (alone : ∀ b, r.Nests p b → b = p) :
    ¬ r.HasCycleFrom p := by
  have stays : ∀ a, Relation.ReflTransGen r.Nests p a → a = p := by
    intro a path
    induction path with
    | refl => rfl
    | tail _ nests ih =>
      subst ih
      exact alone _ nests
  rintro ⟨a, path, holds | ⟨c, cycle, mem⟩⟩
  · exact own (stays a path ▸ holds)
  · obtain ⟨x, y, other, toX, nests, -⟩ := cycle.exists_pair mem
    have isX := stays x (path.trans toX)
    have isY := stays y ((path.trans toX).tail nests)
    exact other (isX.trans isY.symm)

/-- Cycles are found exactly. In a registry whose ids are not null, the dependencies of a message
cannot be told for a cycle exactly if one is reached, and can be told in every other case; an id
without a message is never met. So a message that nests itself in containers alone is no fault. -/
theorem cycle_iff_of_ofDefinition {d : RegistryDefinition} (h : ofDefinition d = .ok r)
    (ids : ∀ m ∈ r.messages, m.id ≠ .null) (hp : p ∈ r.messages) :
    ((∃ e, r.dependencies p.id = .error e ∧ e.isCycle = true) ↔ r.HasCycleFrom p) ∧
    (¬ r.HasCycleFrom p → ∃ found, r.dependencies p.id = .ok found) ∧
    (∀ id, r.dependencies p.id ≠ .error (.unknownId id)) ∧
    (¬ p.HoldsItself → (∀ b, r.Nests p b → b = p) →
      ∃ found, r.dependencies p.id = .ok found) := by
  have built := isBuilt_of_ofDefinition h
  have fails : ∀ e, r.dependencies p.id = .error e → e.isCycle = true ∧ r.HasCycleFrom p :=
    fun e run => hasCycleFrom_of_stops built ids hp (stops_of_dependencies run)
  have returns : ¬ r.HasCycleFrom p → ∃ found, r.dependencies p.id = .ok found := by
    intro none
    cases run : r.dependencies p.id with
    | error e => exact absurd (fails e run).2 none
    | ok found => exact ⟨found, rfl⟩
  refine ⟨⟨?_, ?_⟩, returns, ?_, ?_⟩
  · rintro ⟨e, run, -⟩
    exact (fails e run).2
  · intro cyclic
    cases run : r.dependencies p.id with
    | error e => exact ⟨e, rfl, (fails e run).1⟩
    | ok found => exact absurd cyclic (not_hasCycleFrom_of_dependencies built ids hp run)
  · intro id run
    cases (fails _ run).1
  · intro own alone
    exact returns (not_hasCycleFrom_of_alone own alone)

namespace Sample

/-- Four messages: the first leads to a cycle of the second and the third, which it is not on, and
the fourth nests itself in a list. -/
def cyclic : RegistryDefinition where
  messages := some [
    { id := .number 1, name := some "Start", fields := some [field "middle" "Middle"] },
    { id := .number 2, name := some "Middle", fields := some [field "ends" "Map<String, End>"] },
    { id := .number 3, name := some "End", fields := some [field "back" "demo.Middle"] },
    { id := .number 4, name := some "Tree", fields := some [field "children" "List<Tree>"] }]

end Sample

/-- The first message reaches a cycle and the last one does not. -/
theorem cycle_iff_of_ofDefinition_sample :
    ∃ r, ofDefinition Sample.cyclic = .ok r ∧
      (∃ p ∈ r.messages, p.name = some "Start" ∧ r.HasCycleFrom p) ∧
      (∃ p ∈ r.messages, p.name = some "Tree" ∧ ¬ r.HasCycleFrom p) := by
  refine ⟨_, by cbv, ⟨_, .head _, rfl, ?_⟩, ⟨_, .tail _ (.tail _ (.tail _ (.head _))), rfl, ?_⟩⟩
  · obtain ⟨found, -⟩ := cycle_iff_of_ofDefinition (d := Sample.cyclic) (by cbv)
      (by decide) (List.Mem.head _)
    exact found.mp ⟨.cycle [.number 2, .number 3, .number 2], by cbv, rfl⟩
  · obtain ⟨found, -⟩ := cycle_iff_of_ofDefinition (d := Sample.cyclic) (by cbv)
      (by decide) (.tail _ (.tail _ (.tail _ (.head _))))
    intro cyclic
    obtain ⟨e, run, -⟩ := found.mpr cyclic
    cases run.symm.trans (show _ = Except.ok [] by cbv)

end Registry

end PacketSmith
