import Mathlib.Data.List.Infix
import Mathlib.Data.List.Perm.Subperm
import PacketSmith.Proofs.BuiltRegistry
import PacketSmith.Proofs.Dependencies

/-!
# A search visits every message once

How a search for dependencies goes is told visit by visit. A visit looks up the message of an id and
scans what it holds; a scan passes over ids that are found already, visits the others, and goes on
behind each visit with all that has been found by then (`Scans`). The relation has no measure that
counts down, so a search is related to a list of visits only if it ends.

It does, for every registry and every id, in one way only (`exists_visits`). The list of visits
has no id twice, and what is found at any time are the ids that were visited before, the start
apart. So a path has each id once, and all of its ids but the last have a message: it is not longer
than the registry by more than one, and neither is the number of visits that are open.
-/

namespace PacketSmith

/-- A call of the search. -/
structure Visit where
  /-- The id that is visited. -/
  id : MessageId
  /-- The ids that lead to it, from the start on and with itself. -/
  path : List MessageId
  /-- What is found when the visit begins. -/
  found : List MessageId
  /-- How many visits are open, this one included. -/
  depth : Nat

namespace Registry

/-- The ids that the message of an id holds. -/
def heldBy (r : Registry) (id : MessageId) : Except Fault (List MessageId) := do
  let m ← r.get id
  m.heldIds

/-- A scan of the ids that a message holds, in the visit that the path leads to: the visits that are
made, in the order in which they begin, and what is found in the end. -/
inductive Scans (r : Registry) : List MessageId → List MessageId → List MessageId → Nat →
    List Visit → Except Fault (List MessageId) → Prop where
  | done {path found : List MessageId} {depth : Nat} : Scans r [] path found depth [] (.ok found)
  | cycle {id : MessageId} {ids path found : List MessageId} {depth : Nat} :
      id.isIn path = true →
      Scans r (id :: ids) path found depth [] (.error (.cycle (cycleFrom path id)))
  | known {id : MessageId} {ids path found : List MessageId} {depth : Nat} {visits : List Visit}
      {result : Except Fault (List MessageId)} :
      id.isIn path = false → id.isIn found = true → Scans r ids path found depth visits result →
      Scans r (id :: ids) path found depth visits result
  | refused {id : MessageId} {ids path found : List MessageId} {depth : Nat} {e : Fault} :
      id.isIn path = false → id.isIn found = false → r.heldBy id = .error e →
      Scans r (id :: ids) path found depth [⟨id, path ++ [id], found ++ [id], depth + 1⟩] (.error e)
  | stopped {id : MessageId} {ids path found held : List MessageId} {depth : Nat}
      {below : List Visit} {e : Fault} :
      id.isIn path = false → id.isIn found = false → r.heldBy id = .ok held →
      Scans r held (path ++ [id]) (found ++ [id]) (depth + 1) below (.error e) →
      Scans r (id :: ids) path found depth
        (⟨id, path ++ [id], found ++ [id], depth + 1⟩ :: below) (.error e)
  | visited {id : MessageId} {ids path found held more : List MessageId} {depth : Nat}
      {below rest : List Visit} {result : Except Fault (List MessageId)} :
      id.isIn path = false → id.isIn found = false → r.heldBy id = .ok held →
      Scans r held (path ++ [id]) (found ++ [id]) (depth + 1) below (.ok more) →
      Scans r ids path more depth rest result →
      Scans r (id :: ids) path found depth
        (⟨id, path ++ [id], found ++ [id], depth + 1⟩ :: (below ++ rest)) result

/-- The visits of a whole search, and what it ends with. -/
inductive Visits (r : Registry) (start : MessageId) :
    List Visit → Except Fault (List MessageId) → Prop where
  | refused {e : Fault} :
      r.heldBy start = .error e → Visits r start [⟨start, [start], [], 1⟩] (.error e)
  | scanned {held : List MessageId} {below : List Visit}
      {result : Except Fault (List MessageId)} :
      r.heldBy start = .ok held → Scans r held [start] [] 1 below result →
      Visits r start (⟨start, [start], [], 1⟩ :: below) result

variable {r : Registry} {start : MessageId}

/-! ### The search ends, in one way -/

theorem heldBy_of_find? {id : MessageId} {m : Message} (h : r.find? id = some m) :
    r.heldBy id = m.heldIds := by
  unfold heldBy get
  rw [h]
  rfl

/-- There is a scan that ends as the search does. -/
theorem exists_scans (r : Registry) (path found ids : List MessageId) (depth : Nat) :
    ∃ visits, Scans r ids path found depth visits (r.search path found ids) := by
  fun_induction search r path found ids generalizing depth with
  | case1 path found => exact ⟨[], .done⟩
  | case2 path found id ids on => exact ⟨[], .cycle on⟩
  | case3 path found id ids off known ih =>
    obtain ⟨visits, rest⟩ := ih depth
    exact ⟨visits, .known (by simpa using off) known rest⟩
  | case4 path found id ids off fresh missing =>
    have refused : r.heldBy id = .error (.unknownId id) := by
      unfold heldBy get
      rw [missing]
      rfl
    exact ⟨_, .refused (by simpa using off) (by simpa using fresh) refused⟩
  | case5 path found id ids off fresh m lookup ihBelow ihRest =>
    have off : id.isIn path = false := by simpa using off
    have fresh : id.isIn found = false := by simpa using fresh
    have holds := heldBy_of_find? lookup
    cases held : m.heldIds with
    | error e => exact ⟨_, .refused off fresh (holds.trans held)⟩
    | ok hs =>
      obtain ⟨below, scan⟩ := ihBelow hs (depth + 1)
      show ∃ visits, Scans r (id :: ids) path found depth visits
        (r.search (path ++ [id]) (found ++ [id]) hs >>= fun more => r.search path more ids)
      cases result : r.search (path ++ [id]) (found ++ [id]) hs with
      | error e => exact ⟨_, .stopped off fresh (holds.trans held) (result ▸ scan)⟩
      | ok more =>
        obtain ⟨rest, others⟩ := ihRest more depth
        exact ⟨_, .visited off fresh (holds.trans held) (result ▸ scan) others⟩

/-- There are visits that end with the dependencies. -/
theorem exists_visits_dependencies (r : Registry) (start : MessageId) :
    ∃ visits, Visits r start visits (r.dependencies start) := by
  have split : r.dependencies start = r.heldBy start >>= fun held => r.search [start] [] held := by
    unfold dependencies heldBy
    cases r.get start <;> rfl
  rw [split]
  cases held : r.heldBy start with
  | error e => exact ⟨_, .refused held⟩
  | ok hs =>
    obtain ⟨below, scan⟩ := exists_scans r [start] [] hs 1
    exact ⟨_, .scanned held scan⟩

/-- A scan goes in one way only. -/
theorem Scans.unique {ids path found : List MessageId} {depth : Nat} {visits others : List Visit}
    {result other : Except Fault (List MessageId)} (h : Scans r ids path found depth visits result)
    (k : Scans r ids path found depth others other) : visits = others ∧ result = other := by
  induction h generalizing others other with
  | done => cases k with | done => exact ⟨rfl, rfl⟩
  | cycle on => cases k <;> simp_all
  | known off isFound _ ih =>
    cases k with
    | known _ _ again => exact ih again
    | _ => simp_all
  | refused off fresh holds => cases k <;> simp_all
  | stopped off fresh holds _ ih =>
    cases k with
    | stopped _ _ holds' again =>
      obtain rfl := Except.ok.inj (holds.symm.trans holds')
      obtain ⟨rfl, same⟩ := ih again
      exact ⟨rfl, same⟩
    | visited _ _ holds' again _ =>
      obtain rfl := Except.ok.inj (holds.symm.trans holds')
      cases (ih again).2
    | _ => simp_all
  | visited off fresh holds _ _ ihBelow ihRest =>
    cases k with
    | stopped _ _ holds' again =>
      obtain rfl := Except.ok.inj (holds.symm.trans holds')
      cases (ihBelow again).2
    | visited _ _ holds' again rest =>
      obtain rfl := Except.ok.inj (holds.symm.trans holds')
      obtain ⟨rfl, same⟩ := ihBelow again
      cases same
      obtain ⟨rfl, rfl⟩ := ihRest rest
      exact ⟨rfl, rfl⟩
    | _ => simp_all

/-- A search goes in one way only. -/
theorem Visits.unique {visits others : List Visit} {result other : Except Fault (List MessageId)}
    (h : Visits r start visits result) (k : Visits r start others other) :
    visits = others ∧ result = other := by
  cases h with
  | refused holds => cases k <;> simp_all
  | scanned holds scan =>
    cases k with
    | refused refused => simp_all
    | scanned again rescan =>
      obtain rfl := Except.ok.inj (holds.symm.trans again)
      obtain ⟨rfl, rfl⟩ := scan.unique rescan
      exact ⟨rfl, rfl⟩

/-! ### What every visit keeps -/

/-- The path of a visit leads from the start along ids that are found. Nothing is on it twice, and
nothing is found twice, the start included. -/
structure IsOnWay (start : MessageId) (path found : List MessageId) : Prop where
  /-- The path goes from the start along ids that are found. -/
  begins : ∃ rest, path = start :: rest ∧ ∀ x ∈ rest, x ∈ found
  /-- No two ids of the path count as one. -/
  distinct : (path.map MessageId.key).Nodup
  /-- No two ids that are found count as one, and none counts as the start. -/
  once : ((start :: found).map MessageId.key).Nodup

/-- The visit is at the end of its path, as deep as the path is long, and the ids before it have
messages. -/
structure IsProper (r : Registry) (start : MessageId) (v : Visit) : Prop where
  way : IsOnWay start v.path v.found
  deep : v.depth = v.path.length
  above : ∃ above, v.path = above ++ [v.id] ∧ ∀ x ∈ above, x.key ∈ Message.keys r.messages

/-- A scan may go on: all ids of its path have messages. -/
structure IsScanning (r : Registry) (start : MessageId) (path found : List MessageId)
    (depth : Nat) : Prop where
  way : IsOnWay start path found
  deep : depth = path.length
  registered : ∀ x ∈ path, x.key ∈ Message.keys r.messages

/-- The visits are proper and have new ids. Each finds what was found before and the ids visited
since, and a search that returns has found all of them. -/
structure IsLog (r : Registry) (start : MessageId) (found : List MessageId) (visits : List Visit)
    (result : Except Fault (List MessageId)) : Prop where
  proper : ∀ v ∈ visits, IsProper r start v
  once : ((start :: (found ++ visits.map Visit.id)).map MessageId.key).Nodup
  founds : found :: visits.map Visit.found = (visits.map Visit.id).inits.map (found ++ ·)
  ends : ∀ more, result = .ok more → more = found ++ visits.map Visit.id

/-- A path is not longer than the registry by more than one. -/
theorem IsProper.depth_le {v : Visit} (h : IsProper r start v) :
    v.depth ≤ r.messages.length + 1 := by
  obtain ⟨above, path, registered⟩ := h.above
  have distinct := h.way.distinct
  rw [path, List.map_append] at distinct
  have inside : above.map MessageId.key ⊆ Message.keys r.messages := by
    intro k mem
    obtain ⟨x, isAbove, rfl⟩ := List.mem_map.mp mem
    exact registered x isAbove
  have few := (distinct.of_append_left.subperm inside).length_le
  rw [h.deep, path]
  simpa [Message.keys] using few

/-- A visit of a registered message scans what the message holds. -/
theorem IsProper.scan {v : Visit} (h : IsProper r start v) {held : List MessageId}
    (holds : r.heldBy v.id = .ok held) : IsScanning r start v.path v.found v.depth := by
  refine ⟨h.way, h.deep, fun x mem => ?_⟩
  obtain ⟨above, path, registered⟩ := h.above
  rw [path] at mem
  rcases List.mem_append.mp mem with inside | last
  · exact registered x inside
  · obtain rfl := List.mem_singleton.mp last
    obtain ⟨m, got, -⟩ := exists_of_bind_eq_ok holds
    obtain ⟨there, key⟩ := mem_of_find? (find?_of_get got)
    rw [← key]
    exact List.mem_map_of_mem there

/-- The visit of an id that is neither on the path nor found. -/
theorem IsScanning.visit {path found : List MessageId} {depth : Nat}
    (h : IsScanning r start path found depth) {id : MessageId} (off : id.isIn path = false)
    (fresh : id.isIn found = false) :
    IsProper r start ⟨id, path ++ [id], found ++ [id], depth + 1⟩ := by
  obtain ⟨rest, path_eq, inFound⟩ := h.way.begins
  have new : id.isIn (start :: found) = false := by
    rw [path_eq, MessageId.isIn_cons, Bool.or_eq_false_iff] at off
    rw [MessageId.isIn_cons, off.1, fresh]
    rfl
  refine ⟨⟨⟨rest ++ [id], by rw [path_eq]; rfl, ?_⟩, MessageId.nodup_concat h.way.distinct off,
    MessageId.nodup_concat h.way.once new⟩, by simp [h.deep], path, rfl, h.registered⟩
  intro x mem
  rcases List.mem_append.mp mem with inside | last
  · exact List.mem_append_left _ (inFound x inside)
  · exact List.mem_append_right _ last

/-- A scan goes on with more that is found. -/
theorem IsScanning.grow {path found more : List MessageId} {depth : Nat}
    (h : IsScanning r start path found depth) (grown : found ⊆ more)
    (once : ((start :: more).map MessageId.key).Nodup) :
    IsScanning r start path more depth := by
  obtain ⟨rest, path_eq, inFound⟩ := h.way.begins
  exact ⟨⟨⟨rest, path_eq, fun x mem => grown (inFound x mem)⟩, h.way.distinct, once⟩, h.deep,
    h.registered⟩

/-- No visits. -/
theorem IsLog.nil {found : List MessageId} {result : Except Fault (List MessageId)}
    (once : ((start :: found).map MessageId.key).Nodup)
    (ends : ∀ more, result = .ok more → more = found) : IsLog r start found [] result :=
  ⟨by simp, by simpa using once, by simp, by simpa using ends⟩

/-- A visit and those that it makes. -/
theorem IsLog.cons {v : Visit} {found : List MessageId} {below : List Visit}
    {result : Except Fault (List MessageId)} (proper : IsProper r start v)
    (now : v.found = found ++ [v.id]) (h : IsLog r start v.found below result) :
    IsLog r start found (v :: below) result := by
  obtain ⟨propers, once, founds, ends⟩ := h
  refine ⟨List.forall_mem_cons.mpr ⟨proper, propers⟩, ?_, ?_, ?_⟩
  · simpa [now] using once
  · rw [List.map_cons, founds, now]
    simp [Function.comp_def]
  · simpa [now] using ends

/-- Visits that end with what others begin with. -/
theorem IsLog.append {found more : List MessageId} {visits rest : List Visit}
    {result : Except Fault (List MessageId)} (h : IsLog r start found visits (.ok more))
    (k : IsLog r start more rest result) : IsLog r start found (visits ++ rest) result := by
  obtain rfl := h.ends more rfl
  refine ⟨List.forall_mem_append.mpr ⟨h.proper, k.proper⟩, ?_, ?_, ?_⟩
  · simpa using k.once
  · have later : rest.map Visit.found =
        (rest.map Visit.id).inits.tail.map (found ++ visits.map Visit.id ++ ·) := by
      rw [List.map_tail, ← k.founds, List.tail_cons]
    rw [List.map_append, ← List.cons_append, h.founds, later, List.map_append, List.inits_append]
    simp [Function.comp_def]
  · simpa using k.ends

/-- A scan keeps a log. -/
theorem Scans.isLog {ids path found : List MessageId} {depth : Nat} {visits : List Visit}
    {result : Except Fault (List MessageId)} (h : Scans r ids path found depth visits result)
    (scanning : IsScanning r start path found depth) : IsLog r start found visits result := by
  induction h with
  | done => exact .nil scanning.way.once fun more same => (Except.ok.inj same).symm
  | cycle => exact .nil scanning.way.once fun more same => by cases same
  | known _ _ _ ih => exact ih scanning
  | refused off fresh =>
    have proper := scanning.visit off fresh
    exact .cons proper rfl (.nil proper.way.once fun more same => by cases same)
  | stopped off fresh holds _ ih =>
    have proper := scanning.visit off fresh
    exact .cons proper rfl (ih (proper.scan holds))
  | visited off fresh holds _ _ ihBelow ihRest =>
    have proper := scanning.visit off fresh
    have log := IsLog.cons proper rfl (ihBelow (proper.scan holds))
    have more := log.ends _ rfl
    refine log.append (ihRest (scanning.grow ?_ ?_))
    · rw [more]
      exact List.subset_append_left _ _
    · rw [more]
      exact log.once

/-- A search keeps a log from the start on. -/
theorem Visits.isLog {visits : List Visit} {result : Except Fault (List MessageId)}
    (h : Visits r start visits result) : ∃ v below, visits = v :: below ∧ v.id = start ∧
      v.found = [] ∧ IsProper r start v ∧ IsLog r start [] below result := by
  have proper : IsProper r start ⟨start, [start], [], 1⟩ :=
    ⟨⟨⟨[], rfl, by simp⟩, by simp, by simp⟩, rfl, [], rfl, by simp⟩
  cases h with
  | refused =>
    exact ⟨_, _, rfl, rfl, rfl, proper, .nil proper.way.once fun more same => by cases same⟩
  | scanned holds scan => exact ⟨_, _, rfl, rfl, rfl, proper, scan.isLog (proper.scan holds)⟩

/-- A search ends for every registry and every id, in one way, with the dependencies. No id is
visited twice, and what is found at each visit are the ids that have been visited, the start apart.
The path of a visit goes from the start along ids that are found, without repetition; the start is
never found; and never are more visits open than the registry has messages and one. -/
theorem exists_visits (r : Registry) (start : MessageId) :
    ∃ visits, Visits r start visits (r.dependencies start) ∧
      (∀ others result, Visits r start others result →
        others = visits ∧ result = r.dependencies start) ∧
      (visits.map (·.id.key)).Nodup ∧
      visits.map Visit.found = (visits.tail.map Visit.id).inits ∧
      (∀ found, r.dependencies start = .ok found → found = visits.tail.map Visit.id) ∧
      ∀ v ∈ visits, (v.path.map MessageId.key).Nodup ∧
        (∃ rest, v.path = start :: rest ∧ ∀ x ∈ rest, x ∈ v.found) ∧
        start.isIn v.found = false ∧ v.depth = v.path.length ∧
        v.depth ≤ r.messages.length + 1 := by
  obtain ⟨visits, all⟩ := exists_visits_dependencies r start
  obtain ⟨v, below, rfl, first, none, proper, log⟩ := all.isLog
  refine ⟨_, all, fun others result h => h.unique all, ?_, ?_, ?_, ?_⟩
  · simpa [first, Function.comp_def] using log.once
  · simpa [none] using log.founds
  · simpa using log.ends
  · intro u mem
    have good : IsProper r start u := by
      rcases List.mem_cons.mp mem with rfl | inside
      · exact proper
      · exact log.proper u inside
    refine ⟨good.way.distinct, good.way.begins, ?_, good.deep, good.depth_le⟩
    have once := good.way.once
    rw [List.map_cons, List.nodup_cons, ← MessageId.isIn_iff] at once
    simpa using once.1

/-- A message that is held on two ways is visited once. -/
theorem exists_visits_shared :
    Sample.shared.dependencies (.number 1) = .ok [.number 2, .number 4, .number 3] ∧
    ∃ visits, Visits Sample.shared (.number 1) visits (Sample.shared.dependencies (.number 1)) ∧
      visits.map Visit.found = [[], [.number 2], [.number 2, .number 4],
        [.number 2, .number 4, .number 3]] ∧
      ∀ v ∈ visits, v.depth = v.path.length := by
  have found : Sample.shared.dependencies (.number 1) =
      .ok [.number 2, .number 4, .number 3] := by cbv
  obtain ⟨visits, all, -, -, founds, ends, proper⟩ := exists_visits Sample.shared (.number 1)
  rw [← ends _ found] at founds
  exact ⟨found, visits, all, founds, fun v mem => (proper v mem).2.2.2.1⟩

end Registry
end PacketSmith
