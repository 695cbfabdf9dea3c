import PacketSmith.Proofs.CycleDetection
import PacketSmith.Proofs.PacketClasses

/-!
# Reported cycles are real

What a search says when it fails can be taken at its word (`reports_of_dependencies`): the ids in the
text are those of a cycle of direct dependencies that the start leads to, and a message that is said
to hold itself has the named field with its own id.

The statement is about texts, so a text has to tell the ids in it. It does: ids have different texts,
and none of them has a blank, so blanks show where an id ends (`intercalate_text_inj`). A letter
that only one of the wordings has tells them apart.
-/

namespace PacketSmith

/-! ### Ids in the texts of faults -/

/-- Two lists that are divided by a character are equal if the parts before its first occurrence
are, and the parts behind it. -/
theorem append_cons_inj {c : Char} {a b xs ys : List Char} (ha : c ∉ a) (hb : c ∉ b)
    (h : a ++ c :: xs = b ++ c :: ys) : a = b ∧ xs = ys := by
  obtain rfl := eq_of_prefix_divided ha hb ⟨[], by rw [List.append_nil, h]⟩
  exact ⟨rfl, (List.cons.inj (List.append_cancel_left h)).2⟩

namespace MessageId

theorem blank_not_mem_text (id : MessageId) : ' ' ∉ id.text.toList := not_mem_text (by decide) id

/-- The letter that tells the wording of fields of their message's own type from the others is in no
id. -/
theorem h_not_mem_text (id : MessageId) : 'h' ∉ id.text.toList := by
  cases id with
  | null => decide
  | flag b => cases b <;> decide
  | number k =>
    intro mem
    rcases isDigit_or_dash_of_mem_toString mem with digit | dash
    · cases digit
    · cases dash

/-- Ids as they stand in the text of a cycle. -/
def arrows (ids : List MessageId) : String := " -> ".intercalate (ids.map text)

theorem toList_arrows_cons (x y : MessageId) (ids : List MessageId) :
    (arrows (x :: y :: ids)).toList =
      x.text.toList ++ ' ' :: ('-' :: '>' :: ' ' :: (arrows (y :: ids)).toList) := by
  rw [arrows, List.map_cons, List.map_cons, String.intercalate_cons_cons, String.toList_append,
    String.toList_append, List.append_assoc]
  rfl

theorem arrows_singleton (x : MessageId) : arrows [x] = x.text := String.intercalate_singleton

/-- Arrows tell the ids between them. -/
theorem arrows_inj {x y : MessageId} {xs ys : List MessageId}
    (h : (arrows (x :: xs)).toList = (arrows (y :: ys)).toList) : x :: xs = y :: ys := by
  induction xs generalizing x y ys with
  | nil =>
    cases ys with
    | nil =>
      rw [arrows_singleton, arrows_singleton] at h
      rw [text_inj h]
    | cons z ys =>
      rw [arrows_singleton, toList_arrows_cons] at h
      exact absurd (h ▸ by simp) (blank_not_mem_text x)
  | cons v xs ih =>
    cases ys with
    | nil =>
      rw [arrows_singleton, toList_arrows_cons] at h
      exact absurd (h ▸ by simp) (blank_not_mem_text y)
    | cons z ys =>
      rw [toList_arrows_cons, toList_arrows_cons] at h
      obtain ⟨first, rest⟩ := append_cons_inj (blank_not_mem_text x) (blank_not_mem_text y) h
      rw [text_inj first, ih (by simpa using rest)]

theorem h_not_mem_arrows (ids : List MessageId) : 'h' ∉ (arrows ids).toList := by
  induction ids with
  | nil => decide
  | cons x ids ih =>
    cases ids with
    | nil =>
      rw [arrows_singleton]
      exact h_not_mem_text x
    | cons y ids =>
      rw [toList_arrows_cons]
      simpa [h_not_mem_text x] using ih

end MessageId

namespace Fault

/-- The fault says that messages of the ids hold each other in turn. -/
def TellsCycle (e : Fault) (ids : List MessageId) : Prop :=
  e.message = "Nested messages form a cycle: " ++ " -> ".intercalate (ids.map MessageId.text)

/-- The fault says that what the place names holds its own message, which has the id. -/
def TellsOwn (e : Fault) (place : String) (id : MessageId) : Prop :=
  e.message = place ++ " holds its own message type: " ++ id.text ++ " -> " ++ id.text

variable {e : Fault} {place : String} {id : MessageId} {ids : List MessageId}

theorem h_mem_of_tellsOwn (h : e.TellsOwn place id) : 'h' ∈ e.message.toList := by
  rw [h]
  simp [String.toList_append]

theorem h_not_mem_of_tellsCycle (h : e.TellsCycle ids) : 'h' ∉ e.message.toList := by
  rw [h, String.toList_append, List.mem_append, not_or]
  exact ⟨by decide, MessageId.h_not_mem_arrows ids⟩

theorem tellsCycle_cycle (ids : List MessageId) : (cycle ids).TellsCycle ids := rfl

theorem tellsOwn_ownType (message field : String) (id : MessageId) :
    (ownType message field id).TellsOwn (message ++ "." ++ field) id := rfl

/-- The text of a cycle tells its ids. -/
theorem TellsCycle.inj {x y : MessageId} {xs : List MessageId}
    (h : (cycle (x :: y :: xs)).TellsCycle ids) : x :: y :: xs = ids := by
  have texts : ("Nested messages form a cycle: " ++ MessageId.arrows (x :: y :: xs)).toList =
      ("Nested messages form a cycle: " ++ MessageId.arrows ids).toList := congrArg String.toList h
  rw [String.toList_append, String.toList_append] at texts
  replace texts := List.append_cancel_left texts
  cases ids with
  | nil =>
    rw [MessageId.toList_arrows_cons] at texts
    exact absurd texts (by simp [MessageId.arrows])
  | cons z ids => exact MessageId.arrows_inj texts

theorem not_tellsCycle_unknownId (id : MessageId) : ¬ (unknownId id).TellsCycle ids := by
  intro h
  have texts : ("Unknown protocol id " ++ id.text).toList =
      ("Nested messages form a cycle: " ++ MessageId.arrows ids).toList := congrArg String.toList h
  rw [String.toList_append, String.toList_append] at texts
  exact absurd (List.cons.inj texts).1 (by decide)

theorem h_not_mem_unknownId (id : MessageId) : 'h' ∉ (unknownId id).message.toList := by
  show 'h' ∉ ("Unknown protocol id " ++ id.text).toList
  rw [String.toList_append, List.mem_append, not_or]
  exact ⟨by decide, id.h_not_mem_text⟩

/-- Behind the last blank of the text stands its id, and before the wording the place. -/
theorem TellsOwn.inj {other : String} {x : MessageId} (h : e.TellsOwn place id)
    (k : e.TellsOwn other x) : place = other ∧ id = x := by
  have cut : ∀ (p : String) (i : MessageId),
      (p ++ " holds its own message type: " ++ i.text ++ " -> " ++ i.text).toList.reverse =
        i.text.toList.reverse ++ ' ' ::
          (p ++ " holds its own message type: " ++ i.text ++ " ->").toList.reverse := by
    intro p i
    simp only [String.toList_append, List.reverse_append]
    rfl
  unfold TellsOwn at h k
  have texts := congrArg List.reverse (congrArg String.toList (h.symm.trans k))
  rw [cut, cut] at texts
  obtain ⟨last, front⟩ := append_cons_inj (by simpa using id.blank_not_mem_text)
    (by simpa using x.blank_not_mem_text) texts
  obtain rfl := MessageId.text_inj (List.reverse_injective last)
  have places := String.toList_inj.mp (List.reverse_injective front)
  simpa using places

end Fault

/-! ### What a failed search says -/

namespace Registry

/-- The id is the start or reached from it. -/
def LeadsTo (r : Registry) (start id : MessageId) : Prop :=
  id.same start = true ∨ Relation.TransGen r.Holds start id

/-- The ids are those of a cycle that the start leads to, with the first id again at the end. -/
structure IsReportable (r : Registry) (start : MessageId) (ids : List MessageId) : Prop where
  /-- There are two messages at least. -/
  several : 3 ≤ ids.length
  /-- The first id is the last one again. -/
  closed : ids.head?.map MessageId.key = ids.getLast?.map MessageId.key
  /-- No other id occurs twice. -/
  distinct : (ids.dropLast.map MessageId.key).Nodup
  /-- All are ids of messages. -/
  registered : ∀ x ∈ ids.dropLast, ∃ m, r.find? x = some m
  /-- All are the start or reached from it. -/
  reached : ∀ x ∈ ids.dropLast, r.LeadsTo start x
  /-- Each message holds the next. -/
  chain : ids.IsChain r.Holds

/-- The start leads to the message of the id, and a field of it that the place names has the id as
that of its own type. -/
def HoldsItselfAt (r : Registry) (start : MessageId) (place : String) (id : MessageId) : Prop :=
  r.LeadsTo start id ∧ ∃ m, r.find? id = some m ∧ ∃ f ∈ m.fields,
    place = shown m.name ++ "." ++ shown f.name ∧ f.type.id.same id = true

variable {r : Registry} {start : MessageId}

/-- The start leads to all ids that count as one with an id on a path from it. -/
theorem leadsTo_of_path {x id : MessageId} (path : Relation.ReflTransGen r.Holds start x)
    (same : id.key = x.key) : r.LeadsTo start id := by
  rcases Relation.reflTransGen_iff_eq_or_transGen.mp path with rfl | steps
  · exact .inl (MessageId.same_iff.mpr same)
  · exact .inr (reaches_congr steps same)

/-- The start leads to everything on a chain whose first id is on a path from it. -/
theorem leadsTo_of_mem_chain {x : MessageId} {xs : List MessageId}
    (path : Relation.ReflTransGen r.Holds start x) (chain : (x :: xs).IsChain r.Holds) :
    ∀ y ∈ x :: xs, r.LeadsTo start y := by
  induction xs generalizing x with
  | nil => simpa using leadsTo_of_path path rfl
  | cons z xs ih =>
    obtain ⟨edge, rest⟩ := List.isChain_cons_cons.mp chain
    exact List.forall_mem_cons.mpr ⟨leadsTo_of_path path rfl, ih (path.tail edge) rest⟩

/-- Everything on a chain but its end is the id of a message. -/
theorem exists_find?_of_mem_chain {x y : MessageId} {xs : List MessageId}
    (chain : (x :: (xs ++ [y])).IsChain r.Holds) : ∀ z ∈ x :: xs, ∃ m, r.find? z = some m := by
  induction xs generalizing x with
  | nil =>
    obtain ⟨m, -, found, -⟩ := List.isChain_pair.mp chain
    simpa using ⟨m, found⟩
  | cons v xs ih =>
    obtain ⟨⟨m, -, found, -⟩, rest⟩ := List.isChain_cons_cons.mp chain
    exact List.forall_mem_cons.mpr ⟨⟨m, found⟩, ih rest⟩

/-- A search that is stopped by a cycle gives the cycle. -/
theorem isReportable_of_stops {ids : List MessageId} (stops : Stops r start (.cycle ids)) :
    r.IsReportable start ids := by
  cases stops with
  | own _ _ fails =>
    obtain ⟨f, -, -, wrong⟩ := Message.exists_of_heldIds_eq_error fails
    cases wrong
  | @cycle x y xs path distinct several chain same =>
    have front : (x :: (xs ++ [y])).dropLast = x :: xs := by
      rw [← List.cons_append, List.dropLast_concat]
    refine ⟨?_, ?_, front ▸ distinct, ?_, ?_, chain⟩
    · have := List.length_pos_iff.mpr several
      simp only [List.length_cons, List.length_append, List.length_nil]
      omega
    · rw [← List.cons_append, List.getLast?_concat]
      simp [same]
    · rw [front]
      exact exists_find?_of_mem_chain chain
    · rw [front]
      rw [← List.cons_append] at chain
      exact leadsTo_of_mem_chain path chain.left_of_append

/-- A search that is stopped by a field of its message's own type names the field. -/
theorem holdsItselfAt_of_stops {message field : String} {id : MessageId}
    (stops : Stops r start (.ownType message field id)) :
    r.HoldsItselfAt start (message ++ "." ++ field) id := by
  cases stops with
  | own path found fails =>
    obtain ⟨f, mem, same, named⟩ := Message.exists_of_heldIds_eq_error fails
    cases named
    have key := (mem_of_find? found).2
    exact ⟨leadsTo_of_path path key, _, find?_congr r key ▸ found, f, mem, rfl, same⟩

/-- A fault of a search that tells a cycle is that of the cycle. -/
theorem Stops.eq_of_tellsCycle {e : Fault} (stops : Stops r start e) {ids : List MessageId}
    (told : e.TellsCycle ids) : e = .cycle ids := by
  cases stops with
  | own _ _ fails =>
    obtain ⟨f, -, -, rfl⟩ := Message.exists_of_heldIds_eq_error fails
    exact absurd (Fault.h_mem_of_tellsOwn (Fault.tellsOwn_ownType _ _ _))
      (Fault.h_not_mem_of_tellsCycle told)
  | @cycle x y xs _ _ several _ _ =>
    obtain ⟨z, zs, rfl⟩ := List.exists_cons_of_ne_nil several
    exact congrArg Fault.cycle told.inj
  | @unknown x _ _ => exact absurd told (Fault.not_tellsCycle_unknownId x)

/-- A fault of a search that tells of a field of its message's own type is that of the field. -/
theorem Stops.eq_of_tellsOwn {e : Fault} (stops : Stops r start e) {place : String} {id : MessageId}
    (told : e.TellsOwn place id) :
    ∃ message field, e = .ownType message field id ∧ place = message ++ "." ++ field := by
  cases stops with
  | own _ _ fails =>
    obtain ⟨f, -, -, rfl⟩ := Message.exists_of_heldIds_eq_error fails
    obtain ⟨rfl, rfl⟩ := told.inj (Fault.tellsOwn_ownType _ _ _)
    exact ⟨_, _, rfl, rfl⟩
  | cycle =>
    exact absurd (Fault.h_mem_of_tellsOwn told)
      (Fault.h_not_mem_of_tellsCycle (Fault.tellsCycle_cycle _))
  | @unknown x _ _ =>
    exact absurd (Fault.h_mem_of_tellsOwn told) (Fault.h_not_mem_unknownId x)

/-- What a failed search says is true. Its fault is a dependency cycle exactly if it has one of the
two wordings. If the text is that of a cycle, the ids in it are those of a cycle of messages to which
the start leads; and if it says that a field holds its own message, the field does, in a message to
which the start leads. -/
theorem reports_of_dependencies {e : Fault} (h : r.dependencies start = .error e) :
    (e.isCycle = true ↔ (∃ ids, e.TellsCycle ids) ∨ ∃ place id, e.TellsOwn place id) ∧
    (∀ ids, e.TellsCycle ids → r.IsReportable start ids) ∧
    (∀ place id, e.TellsOwn place id → r.HoldsItselfAt start place id) := by
  have stops := stops_of_dependencies h
  refine ⟨⟨fun cycle => ?_, ?_⟩, fun ids told => ?_, fun place id told => ?_⟩
  · cases e with
    | cycle ids => exact .inl ⟨ids, rfl⟩
    | ownType message field id => exact .inr ⟨message ++ "." ++ field, id, rfl⟩
    | _ => cases cycle
  · rintro (⟨ids, told⟩ | ⟨place, id, told⟩)
    · rw [stops.eq_of_tellsCycle told]
      rfl
    · obtain ⟨message, field, rfl, -⟩ := stops.eq_of_tellsOwn told
      rfl
  · obtain rfl := stops.eq_of_tellsCycle told
    exact isReportable_of_stops stops
  · obtain ⟨message, field, rfl, rfl⟩ := stops.eq_of_tellsOwn told
    exact holdsItselfAt_of_stops stops

namespace Sample

/-- Three messages: the first leads to the others, which hold each other. -/
def turning : Registry where
  messages := [⟨.number 7, some "First", [holding 8], some "", none⟩,
    ⟨.number 8, some "Second", [holding 9], some "", none⟩,
    ⟨.number 9, some "Third", [holding 8], some "", none⟩]
  distinct := by decide

/-- Two messages: the first holds the second, which holds itself. -/
def selfish : Registry where
  messages := [⟨.number 7, some "First", [holding 8], some "", none⟩,
    ⟨.number 8, some "Second", [holding 8], some "", none⟩]
  distinct := by decide

end Sample

/-- The cycle is told without the message that leads to it, and so is the field. -/
theorem reports_of_dependencies_below :
    (∃ e, Sample.turning.dependencies (.number 7) = .error e ∧
      e.message = "Nested messages form a cycle: 8 -> 9 -> 8" ∧
      Sample.turning.IsReportable (.number 7) [.number 8, .number 9, .number 8]) ∧
    ∃ e, Sample.selfish.dependencies (.number 7) = .error e ∧
      e.message = "Second.held holds its own message type: 8 -> 8" ∧
      Sample.selfish.HoldsItselfAt (.number 7) "Second.held" (.number 8) := by
  have turns : Sample.turning.dependencies (.number 7) =
      .error (.cycle [.number 8, .number 9, .number 8]) := by cbv
  have holds : Sample.selfish.dependencies (.number 7) =
      .error (.ownType "Second" "held" (.number 8)) := by cbv
  exact ⟨⟨_, turns, by decide +kernel, (reports_of_dependencies turns).2.1 _ rfl⟩,
    ⟨_, holds, by decide +kernel, (reports_of_dependencies holds).2.2 _ _ rfl⟩⟩

end Registry
end PacketSmith
