import PacketSmith.Code.Serializer
import PacketSmith.Proofs.MissingSerializers

/-!
# Tables over whole runs

What a table answers is told by the calls before (`answers_of_history`): a lookup gives what was last
assigned to the tag before the table was closed, whatever was asked or refused in between, and once a
table is closed it stays as it is. A complete table answers as the closed table of its assignments.

The last assignment is stated on the history alone (`IsLastAssigned`). It is found from the front, one
call at a time (`lastAssigned?`): an assignment counts unless a later one does, and nothing counts
behind the call that closes the table.
-/

namespace PacketSmith.Code.Table

variable {α : Type}

/-! ### Histories -/

/-- The calls assign something to the tag before they close the table, and assign nothing else to it
between. -/
def IsLastAssigned (calls : List (Call α)) (tag : Tag) (a : α) : Prop :=
  ∃ before after, calls = before ++ .register tag a :: after ∧ .close ∉ before ∧
    ∀ between rest b, after = between ++ .register tag b :: rest → .close ∈ between

/-- The calls assign nothing to the tag before they close the table. -/
def IsUnassigned (calls : List (Call α)) (tag : Tag) : Prop :=
  ∀ before after a, calls = before ++ .register tag a :: after → .close ∈ before

/-- What a call behind others gives. -/
inductive Answers (language : String) (before : List (Call α)) :
    Call α → Except Fault (Reply α) → Prop where
  | registered {tag : Tag} {a : α} : .close ∉ before →
      Answers language before (.register tag a) (.ok .done)
  | refused {tag : Tag} {a : α} : .close ∈ before →
      Answers language before (.register tag a) (.error (.tableSealed language))
  | closed : Answers language before .close (.ok .done)
  | found {tag : Tag} {a : α} : IsLastAssigned before tag a →
      Answers language before (.lookup tag) (.ok (.found a))
  | missing {tag : Tag} : IsUnassigned before tag →
      Answers language before (.lookup tag) (.error (.noSerializer language tag.name))
  | present {tag : Tag} {a : α} : IsLastAssigned before tag a →
      Answers language before (.contains tag) (.ok (.answer true))
  | absent {tag : Tag} : IsUnassigned before tag →
      Answers language before (.contains tag) (.ok (.answer false))

/-- What is assigned to the tag last, before the table is closed. -/
def lastAssigned? (tag : Tag) : List (Call α) → Option α
  | [] => none
  | .register other a :: cs => (lastAssigned? tag cs).or (if other = tag then some a else none)
  | .close :: _ => none
  | .lookup _ :: cs => lastAssigned? tag cs
  | .contains _ :: cs => lastAssigned? tag cs

theorem isUnassigned_of_lastAssigned? {tag : Tag} {calls : List (Call α)}
    (h : lastAssigned? tag calls = none) : IsUnassigned calls tag := by
  intro before after a split
  induction before generalizing calls with
  | nil =>
    subst split
    simp [lastAssigned?] at h
  | cons c before ih =>
    subst split
    cases c with
    | close => exact List.mem_cons_self
    | register other b =>
      rw [List.cons_append, lastAssigned?, Option.or_eq_none_iff] at h
      exact List.mem_cons_of_mem _ (ih h.1 rfl)
    | lookup other =>
      rw [List.cons_append, lastAssigned?] at h
      exact List.mem_cons_of_mem _ (ih h rfl)
    | contains other =>
      rw [List.cons_append, lastAssigned?] at h
      exact List.mem_cons_of_mem _ (ih h rfl)

/-- A call in front that closes nothing does not change what is assigned last. -/
theorem IsLastAssigned.cons {tag : Tag} {a : α} {calls : List (Call α)}
    (h : IsLastAssigned calls tag a) {c : Call α} (other : c ≠ .close) :
    IsLastAssigned (c :: calls) tag a := by
  obtain ⟨before, after, rfl, opened, last⟩ := h
  refine ⟨c :: before, after, rfl, ?_, last⟩
  simpa using ⟨other.symm, opened⟩

theorem isLastAssigned_of_lastAssigned? {tag : Tag} {a : α} {calls : List (Call α)}
    (h : lastAssigned? tag calls = some a) : IsLastAssigned calls tag a := by
  induction calls with
  | nil => cases h
  | cons c calls ih =>
    cases c with
    | close => cases h
    | register other b =>
      rw [lastAssigned?] at h
      cases later : lastAssigned? tag calls with
      | some d =>
        rw [later, Option.some_or] at h
        exact (ih (later.trans h)).cons (by simp)
      | none =>
        rw [later, Option.none_or] at h
        obtain ⟨rfl, same⟩ := Option.ite_none_right_eq_some.mp h
        cases same
        exact ⟨[], calls, rfl, by simp, isUnassigned_of_lastAssigned? later⟩
    | lookup other => exact (ih h).cons (by simp)
    | contains other => exact (ih h).cons (by simp)

/-! ### Runs -/

variable {t u : Table α}

theorem run_append (t : Table α) (xs ys : List (Call α)) :
    t.run (xs ++ ys) = ((t.run xs).1 ++ ((t.run xs).2.run ys).1, ((t.run xs).2.run ys).2) := by
  induction xs generalizing t with
  | nil => rfl
  | cons c xs ih => rw [List.cons_append, run, ih, run, List.cons_append]

theorem length_run (t : Table α) (calls : List (Call α)) :
    (t.run calls).1.length = calls.length := by
  induction calls generalizing t with
  | nil => rfl
  | cons c calls ih => rw [run, List.length_cons, ih, List.length_cons]

/-- A table that takes assignments takes one in front of the others. -/
theorem call_register (opened : t.isSealed = false) (tag : Tag) (a : α) :
    t.call (.register tag a) = (.ok .done, { t with entries := (tag, a) :: t.entries }) := by
  simp [call, register, opened]

/-- A closed table refuses assignments. -/
theorem call_register_of_isSealed (closed : t.isSealed = true) (tag : Tag) (a : α) :
    t.call (.register tag a) = (.error (.tableSealed t.language), t) := by
  simp [call, register, closed]

@[simp] theorem language_call (t : Table α) (c : Call α) : (t.call c).2.language = t.language := by
  cases c with
  | register tag a =>
    cases closed : t.isSealed with
    | false => rw [call_register closed]
    | true => rw [call_register_of_isSealed closed]
  | _ => rfl

/-- No call changes a closed table. -/
theorem call_of_isSealed (closed : t.isSealed = true) (c : Call α) : (t.call c).2 = t := by
  cases c with
  | register tag a => rw [call_register_of_isSealed closed]
  | close =>
    obtain ⟨language, entries, isSealed⟩ := t
    obtain rfl : isSealed = true := closed
    rfl
  | _ => rfl

/-- A closed table stays as it is. -/
theorem run_of_isSealed (closed : t.isSealed = true) (calls : List (Call α)) :
    (t.run calls).2 = t := by
  induction calls with
  | nil => rfl
  | cons c calls ih => rw [run, call_of_isSealed closed, ih]

theorem language_run (t : Table α) (calls : List (Call α)) :
    (t.run calls).2.language = t.language := by
  induction calls generalizing t with
  | nil => rfl
  | cons c calls ih => rw [run, ih, language_call]

/-- A table that takes assignments goes on with one more. -/
theorem run_register (opened : t.isSealed = false) (tag : Tag) (a : α) (calls : List (Call α)) :
    (t.run (.register tag a :: calls)).2 =
      (run { t with entries := (tag, a) :: t.entries } calls).2 := by
  rw [run, call_register opened]

/-- A table is closed by the calls that close it, and by no others. -/
theorem isSealed_run (opened : t.isSealed = false) (calls : List (Call α)) :
    (t.run calls).2.isSealed = true ↔ .close ∈ calls := by
  induction calls generalizing t with
  | nil => simp [run, opened]
  | cons c calls ih =>
    cases c with
    | close =>
      rw [run, run_of_isSealed (by rfl)]
      exact ⟨fun _ => List.mem_cons_self, fun _ => rfl⟩
    | register tag a =>
      rw [run_register opened, ih (by exact opened)]
      simp
    | lookup tag =>
      rw [run, call, ih opened]
      simp
    | contains tag =>
      rw [run, call, ih opened]
      simp

/-- Behind calls, a tag has what they assign to it last, or else what it had before. -/
theorem find?_run (opened : t.isSealed = false) (tag : Tag) (calls : List (Call α)) :
    (t.run calls).2.find? tag = (lastAssigned? tag calls).or (t.find? tag) := by
  induction calls generalizing t with
  | nil => rfl
  | cons c calls ih =>
    cases c with
    | close =>
      rw [run, run_of_isSealed (by rfl)]
      rfl
    | register other a =>
      rw [run_register opened, ih (by exact opened), lastAssigned?, Option.or_assoc]
      congr 1
      by_cases same : other = tag
      · subst same
        simp [find?]
      · have apart : (tag == other) = false := by simpa using Ne.symm same
        simp [find?, List.lookup_cons, same, apart]
    | lookup other => rw [run, call, ih opened, lastAssigned?]
    | contains other => rw [run, call, ih opened, lastAssigned?]

/-- What a tag has in a new table behind calls is what they assign to it last. -/
theorem find?_run_empty (language : String) (tag : Tag) (calls : List (Call α)) :
    ((empty language).run calls).2.find? tag = lastAssigned? tag calls := by
  rw [find?_run (by rfl)]
  exact Option.or_none

/-- A call behind others is answered by what they have done to a new table. -/
theorem answers_call (language : String) (before : List (Call α)) (c : Call α) :
    Answers language before c ((((empty language).run before).2.call c).1) := by
  have named : ((empty language).run before).2.language = language :=
    language_run (empty language) before
  have closed := isSealed_run (t := empty language) rfl before
  have assigned := fun tag => find?_run_empty language tag before
  generalize ((empty language).run before).2 = t at named closed assigned
  subst named
  cases c with
  | register tag a =>
    cases flag : t.isSealed with
    | false =>
      rw [call_register flag]
      exact .registered fun mem => by simp [closed.mpr mem] at flag
    | true =>
      rw [call_register_of_isSealed flag]
      exact .refused (closed.mp flag)
  | close => exact .closed
  | lookup tag =>
    rw [call, lookup, assigned]
    cases last : lastAssigned? tag before with
    | some a => exact .found (isLastAssigned_of_lastAssigned? last)
    | none => exact .missing (isUnassigned_of_lastAssigned? last)
  | contains tag =>
    rw [call, contains, assigned]
    cases last : lastAssigned? tag before with
    | some a => exact .present (isLastAssigned_of_lastAssigned? last)
    | none => exact .absent (isUnassigned_of_lastAssigned? last)

theorem Answers.isConfiguration {language : String} {before : List (Call α)} {c : Call α} {e : Fault}
    (h : Answers language before c (.error e)) : e.isConfiguration = true := by
  cases h <;> rfl

/-! ### Complete tables -/

variable {entries : List (Tag × α)} {language : String}

/-- Every standard tag has an assignment. -/
def Covers (entries : List (Tag × α)) : Prop := ∀ tag ∈ Tag.standard, ∃ a, (tag, a) ∈ entries

/-- A closed table answers each call on its own. -/
theorem replies_of_isSealed (closed : t.isSealed = true) (calls : List (Call α)) :
    (t.run calls).1 = calls.map fun c => (t.call c).1 := by
  induction calls with
  | nil => rfl
  | cons c calls ih => rw [run, call_of_isSealed closed, ih, List.map_cons]

/-- Closed tables for one language that assign the same answer alike. -/
theorem replies_congr (language : t.language = u.language) (closed : t.isSealed = true)
    (other : u.isSealed = true) (same : ∀ tag, t.find? tag = u.find? tag)
    (calls : List (Call α)) : (t.run calls).1 = (u.run calls).1 := by
  rw [replies_of_isSealed closed, replies_of_isSealed other]
  refine List.map_congr_left fun c _ => ?_
  cases c with
  | register tag a =>
    rw [call_register_of_isSealed closed, call_register_of_isSealed other, language]
  | close => rfl
  | lookup tag => simp only [call, lookup, same, language]
  | contains tag => simp only [call, contains, same]

theorem registerAll_eq (language : String) (given entries : List (Tag × α)) :
    registerAll ⟨language, given, false⟩ entries =
      .ok ⟨language, entries.reverse ++ given, false⟩ := by
  induction entries generalizing given with
  | nil => rfl
  | cons p entries ih =>
    obtain ⟨tag, a⟩ := p
    refine (ih ((tag, a) :: given)).trans ?_
    rw [List.reverse_cons, List.append_assoc, List.singleton_append]

theorem lookup_eq_none_iff_not_mem {tag : Tag} :
    entries.lookup tag = none ↔ ∀ a, (tag, a) ∉ entries := by
  rw [List.lookup_eq_none_iff]
  constructor
  · intro apart a mem
    simpa using apart _ mem
  · rintro none ⟨other, a⟩ mem
    rw [bne_iff_ne]
    rintro rfl
    exact none a mem

/-- Where each tag stands once, what is assigned to it is what stands with it. -/
theorem lookup_eq_some_iff_mem (distinct : (entries.map Prod.fst).Nodup) {tag : Tag} {a : α} :
    entries.lookup tag = some a ↔ (tag, a) ∈ entries := by
  induction entries with
  | nil => simp
  | cons p entries ih =>
    obtain ⟨other, b⟩ := p
    obtain ⟨fresh, distinct⟩ := List.nodup_cons.mp distinct
    rw [List.lookup_cons, List.mem_cons, Prod.mk.injEq]
    by_cases same : tag = other
    · subst same
      have alone : (tag, a) ∉ entries := fun mem =>
        fresh (List.mem_map.mpr ⟨_, mem, rfl⟩)
      simp [alone, eq_comm]
    · have apart : (tag == other) = false := by simpa using same
      simp [apart, same, ih distinct]

theorem lookup_reverse (distinct : (entries.map Prod.fst).Nodup) (tag : Tag) :
    entries.reverse.lookup tag = entries.lookup tag := by
  have reversed : (entries.reverse.map Prod.fst).Nodup := by
    rwa [List.map_reverse, List.nodup_reverse]
  ext a
  rw [lookup_eq_some_iff_mem reversed, lookup_eq_some_iff_mem distinct, List.mem_reverse]

/-- Assignments that cover the standard tags make a table that answers as the closed table of them.
-/
theorem complete_of_covers (distinct : (entries.map Prod.fst).Nodup) (covers : Covers entries) :
    ∃ t, complete language entries = .ok t ∧ ∀ calls, (t.run calls).2 = t ∧
      (t.run calls).1 = (run ⟨language, entries, true⟩ calls).1 := by
  refine ⟨⟨language, entries.reverse, true⟩, ?_, fun calls => ⟨run_of_isSealed rfl calls, ?_⟩⟩
  · have none : (Tag.standard.filter fun tag => (entries.lookup tag).isNone) = [] := by
      rw [List.filter_eq_nil_iff]
      intro tag mem missing
      obtain ⟨a, inside⟩ := covers tag mem
      exact lookup_eq_none_iff_not_mem.mp (Option.isNone_iff_eq_none.mp missing) a inside
    rw [complete, none, if_pos (by rfl), empty, registerAll_eq, List.append_nil]
    rfl
  · exact replies_congr (t := ⟨language, entries.reverse, true⟩) (u := ⟨language, entries, true⟩) rfl
      rfl rfl (lookup_reverse distinct) calls

/-- Otherwise the tags that are missing are reported together, in their order. -/
theorem complete_of_not_covers (gap : ¬ Covers entries) :
    ∃ missing, missing ≠ [] ∧ missing.Sublist Tag.standard ∧
      (∀ tag, tag ∈ missing ↔ tag ∈ Tag.standard ∧ ∀ a, (tag, a) ∉ entries) ∧
      complete language entries = .error (.incompleteTable language (missing.map Tag.name)) := by
  have mem_iff : ∀ tag, tag ∈ (Tag.standard.filter fun tag => (entries.lookup tag).isNone) ↔
      tag ∈ Tag.standard ∧ ∀ a, (tag, a) ∉ entries := by
    intro tag
    rw [List.mem_filter, Option.isNone_iff_eq_none, lookup_eq_none_iff_not_mem]
  have some : (Tag.standard.filter fun tag => (entries.lookup tag).isNone) ≠ [] := by
    intro none
    refine gap fun tag mem => ?_
    by_contra absent
    have inside := (mem_iff tag).mpr ⟨mem, not_exists.mp absent⟩
    simp [none] at inside
  refine ⟨_, some, List.filter_sublist, mem_iff, ?_⟩
  rw [complete, if_neg (by simpa using some)]

/-! ### What a history tells -/

/-- What a table does is told by the calls before. Each call on a new table is answered as the calls
before it say, and what fails is a fault of a setup: an assignment is refused once the table has been
closed, a lookup gives what was last assigned to the tag before that and fails if nothing was, and
membership agrees with it. A table that has been closed stays as it is. Assignments make a complete
table exactly if they cover the standard tags. It answers as the closed table of them; otherwise the
tags that are missing are reported together, in their order. -/
theorem answers_of_history (language : String) :
    (∀ (before after : List (Call α)) (c : Call α), ∃ reply,
      ((empty language).run (before ++ c :: after)).1[before.length]? = some reply ∧
      Answers language before c reply ∧ ∀ e, reply = .error e → e.isConfiguration = true) ∧
    (∀ calls : List (Call α),
      ((empty language).run calls).2.isSealed = true ↔ .close ∈ calls) ∧
    (∀ before after : List (Call α), .close ∈ before →
      ((empty language).run (before ++ after)).2 = ((empty language).run before).2) ∧
    ∀ entries : List (Tag × α), (entries.map Prod.fst).Nodup →
      (Covers entries → ∃ t, complete language entries = .ok t ∧ ∀ calls, (t.run calls).2 = t ∧
        (t.run calls).1 = (run ⟨language, entries, true⟩ calls).1) ∧
      (¬ Covers entries → ∃ missing, missing ≠ [] ∧ missing.Sublist Tag.standard ∧
        (∀ tag, tag ∈ missing ↔ tag ∈ Tag.standard ∧ ∀ a, (tag, a) ∉ entries) ∧
        complete language entries = .error (.incompleteTable language (missing.map Tag.name))) := by
  have sealed_iff := fun calls : List (Call α) => isSealed_run (t := empty language) rfl calls
  refine ⟨fun before after c => ?_, sealed_iff, fun before after closed => ?_,
    fun entries distinct => ⟨complete_of_covers distinct, complete_of_not_covers⟩⟩
  · have answers := answers_call language before c
    refine ⟨_, ?_, answers, fun e failed => (failed ▸ answers).isConfiguration⟩
    rw [run_append, List.getElem?_append_right (by rw [length_run]), length_run, Nat.sub_self]
    rfl
  · rw [run_append]
    exact run_of_isSealed ((sealed_iff before).mpr closed) after

namespace Sample

/-- An assignment that is replaced, one that is refused, and questions behind them. -/
def history : List (Call String) := [
  .register (.scalar .int) "first", .contains .map, .register (.scalar .int) "second", .close,
  .register (.scalar .int) "third", .close]

end Sample

/-- The second assignment counts, and the third is refused. -/
theorem answers_of_history_reassigned :
    (∃ reply, ((empty "cpp").run (Sample.history ++ [.lookup (.scalar .int)])).1[6]? = some reply ∧
      reply = .ok (.found "second") ∧ Answers "cpp" Sample.history (.lookup (.scalar .int)) reply) ∧
    ((empty "cpp").run (Sample.history.take 4 ++ Sample.history.drop 4)).2 =
      ((empty "cpp").run (Sample.history.take 4)).2 ∧
    (∃ t, complete "cpp" (Tag.standard.map fun tag => (tag, tag.name)) = .ok t ∧
      ∀ calls, (t.run calls).2 = t) ∧
    ∃ missing, complete "cpp" [(Tag.map, "map")] = .error (.incompleteTable "cpp" missing) := by
  obtain ⟨replies, -, stays, completes⟩ := answers_of_history (α := String) "cpp"
  refine ⟨?_, stays _ _ ?_, ?_, ?_⟩
  · obtain ⟨reply, given, answers, -⟩ := replies Sample.history [] (.lookup (.scalar .int))
    exact ⟨reply, given, (Option.some.inj given).symm, answers⟩
  · exact .tail _ (.tail _ (.tail _ (.head _)))
  · obtain ⟨covered, -⟩ := completes (Tag.standard.map fun tag => (tag, tag.name)) (by decide)
    obtain ⟨t, made, runs⟩ := covered fun tag mem => ⟨tag.name, List.mem_map_of_mem mem⟩
    exact ⟨t, made, fun calls => (runs calls).1⟩
  · obtain ⟨-, gap⟩ := completes [(Tag.map, "map")] (by decide)
    obtain ⟨missing, -, -, -, refused⟩ := gap fun covers => by
      obtain ⟨a, mem⟩ := covers .message (by decide)
      simp at mem
    exact ⟨_, refused⟩

end PacketSmith.Code.Table
