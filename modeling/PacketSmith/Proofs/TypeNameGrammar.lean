import PacketSmith.Proofs.ResolvedTypes
import PacketSmith.Spelling

/-!
# The grammar of type names

The reader of type names accepts exactly one language, and every text of it in one way only
(`read?_iff_derivation`). The language is given by two levels of its own.

* A text is split into marks (`Splits`): a name that does not go on behind its end, or one of the
  signs, with gaps between marks. The marks of a text are those that `marks?` gives, and no others
  (`marks?_eq_some_iff`).
* Marks are derived from the rules of `Derivation`: a type is an array of a type, a qualified name
  with parameters, or a qualified name. `Derivation.marks` are the marks of a derivation, and
  `Derivation.typeName` is the type name that it stands for.

What ties the reader to the derivations is a second reader that keeps them (`Trace.step?`). It makes
the same steps as the first (`step?_state`), and all marks it has met are still in its state
(`marks_of_step?`), so nothing but a derivation of the marks can come out. Given the marks of a
derivation it gives that derivation back (`foldlM_step?_marks`), so there is only one.
-/

namespace PacketSmith.TypeName

/-! ### Marks in a text -/

/-- No name goes on with these characters. -/
def EndsName (cs : List Char) : Prop := ∀ c ∈ cs.head?, isNamePart c = false

/-- The characters are split into the marks: names as long as they can be, signs, and gaps between
them. -/
inductive Splits : List Char → List Mark → Prop where
  | nil : Splits [] []
  | gap {c : Char} {cs : List Char} {ms : List Mark} :
      isGap c = true → Splits cs ms → Splits (c :: cs) ms
  | sign {c : Char} {m : Mark} {cs : List Char} {ms : List Mark} :
      punctuation? c = some m → Splits cs ms → Splits (c :: cs) (m :: ms)
  | name {n cs : List Char} {ms : List Mark} :
      isNameList n = true → EndsName cs → Splits cs ms →
      Splits (n ++ cs) (.name (String.ofList n) :: ms)

/-- A gap is no part of a name. -/
theorem isNamePart_of_isGap {c : Char} (h : isGap c = true) : isNamePart c = false := by
  have gaps : c = ' ' ∨ c = '\t' ∨ c = Char.ofNat 0x0C ∨ c = '\r' ∨ c = '\n' := by
    simpa [isGap, or_assoc] using h
  rcases gaps with rfl | rfl | rfl | rfl | rfl <;> decide

/-- A sign is neither a part of a name nor a gap. -/
theorem not_isNamePart_of_punctuation? {c : Char} {m : Mark} (h : punctuation? c = some m) :
    isNamePart c = false ∧ isGap c = false := by
  unfold punctuation? at h
  split at h
  case h_7 => cases h
  all_goals exact ⟨by decide, by decide⟩

/-- What begins no name part begins no name. -/
theorem isNameStart_of_isNamePart {c : Char} (h : isNamePart c = false) :
    isNameStart c = false := by
  unfold isNamePart at h
  exact (Bool.or_eq_false_iff.mp h).1

/-- What ends a name does not fit behind the name begun so far. -/
theorem not_fits_of_isNamePart {c : Char} (h : isNamePart c = false) (pending : List Char) :
    ¬ (if pending.isEmpty then isNameStart c else isNamePart c) = true := by
  split
  · simp [isNameStart_of_isNamePart h]
  · simp [h]

/-- The name begun so far is a mark in front of those of the characters that end it. -/
theorem Splits.closeName {pending cs : List Char} {ms : List Mark} (begun : PendingName pending)
    (ends : pending ≠ [] → EndsName cs) (h : Splits cs ms) :
    Splits (pending.reverse ++ cs) (closeName pending ms) := by
  rcases begun with rfl | name
  · exact h
  · have some : pending ≠ [] := by
      rintro rfl
      simp [isNameList] at name
    rw [TypeName.closeName, if_neg (by simpa using some)]
    exact .name name (ends some) h

/-- A character that is no part of a name ends one. -/
theorem EndsName.cons {c : Char} (h : isNamePart c = false) (cs : List Char) :
    EndsName (c :: cs) := by
  intro d head
  obtain rfl : c = d := by simpa using head
  exact h

/-- A character that does not fit behind a name that was begun ends it. -/
theorem endsName_of_not_fits {pending cs : List Char} {c : Char}
    (h : ¬ (if pending.isEmpty then isNameStart c else isNamePart c) = true) :
    pending ≠ [] → EndsName (c :: cs) := by
  intro some
  apply EndsName.cons
  simpa [some] using h

/-- The marks that are found are those of the text. -/
theorem splits_of_marksFrom? {pending cs : List Char} {ms : List Mark}
    (h : marksFrom? pending cs = some ms) (begun : PendingName pending) :
    Splits (pending.reverse ++ cs) ms := by
  fun_induction marksFrom? pending cs generalizing ms with
  | case1 pending =>
    cases h
    exact .closeName begun (fun _ c head => by simp at head) .nil
  | case2 pending c rest fits ih =>
    simpa using ih h (begun.cons fits)
  | case3 pending c rest ends gap ih =>
    obtain ⟨ns, read, rfl⟩ := Option.map_eq_some_iff.mp h
    exact .closeName begun (endsName_of_not_fits ends) (.gap gap (ih read (.inl rfl)))
  | case4 pending c rest ends _ m sign ih =>
    obtain ⟨ns, read, rfl⟩ := Option.map_eq_some_iff.mp h
    exact .closeName begun (endsName_of_not_fits ends) (.sign sign (ih read (.inl rfl)))
  | case5 => cases h

/-- The parts of a name are put behind the name begun so far. -/
theorem marksFrom?_nameParts {n : List Char} (parts : ∀ c ∈ n, isNamePart c = true)
    {pending : List Char} (begun : pending ≠ []) (cs : List Char) :
    marksFrom? pending (n ++ cs) = marksFrom? (n.reverse ++ pending) cs := by
  induction n generalizing pending with
  | nil => rfl
  | cons c n ih =>
    obtain ⟨first, others⟩ := List.forall_mem_cons.mp parts
    have fits : (if pending.isEmpty then isNameStart c else isNamePart c) = true := by
      simpa [begun] using first
    rw [List.cons_append, marksFrom?, if_pos fits, ih others (List.cons_ne_nil c pending)]
    simp

/-- Where a name ends, its mark is put in front of the others. -/
theorem marksFrom?_of_endsName {cs : List Char} (ends : EndsName cs) (pending : List Char) :
    marksFrom? pending cs = (marksFrom? [] cs).map (closeName pending) := by
  cases cs with
  | nil => rfl
  | cons c cs =>
    have stops := not_fits_of_isNamePart (ends c rfl)
    rw [marksFrom?, marksFrom?, if_neg (stops pending), if_neg (stops [])]
    split
    · cases marksFrom? [] cs <;> rfl
    · split
      · cases marksFrom? [] cs <;> rfl
      · rfl

/-- The marks of a text are found. -/
theorem marksFrom?_of_splits {cs : List Char} {ms : List Mark} (h : Splits cs ms) :
    marksFrom? [] cs = some ms := by
  induction h with
  | nil => rfl
  | @gap c cs ms gap _ ih =>
    have stops := not_fits_of_isNamePart (isNamePart_of_isGap gap) []
    rw [marksFrom?, if_neg stops, if_pos gap, ih]
    rfl
  | @sign c m cs ms sign _ ih =>
    obtain ⟨part, gap⟩ := not_isNamePart_of_punctuation? sign
    rw [marksFrom?, if_neg (not_fits_of_isNamePart part []), if_neg (by simp [gap]), sign]
    simp [ih, closeName]
  | @name n cs ms name ends _ ih =>
    cases n with
    | nil => simp [isNameList] at name
    | cons c n =>
      have parts : ∀ d ∈ n, isNamePart d = true :=
        fun d mem => isNamePart_of_isNameList name (List.mem_cons_of_mem c mem)
      have start : isNameStart c = true := (Bool.and_eq_true_iff.mp name).1
      rw [List.cons_append, marksFrom?, if_pos (by simpa using start),
        marksFrom?_nameParts parts (List.cons_ne_nil c []), marksFrom?_of_endsName ends, ih]
      simp [closeName]

/-- The marks of a text are those that it is split into. -/
theorem marks?_eq_some_iff {s : String} {ms : List Mark} :
    marks? s = some ms ↔ Splits s.toList ms :=
  ⟨fun h => splits_of_marksFrom? h (.inl rfl), marksFrom?_of_splits⟩

/-! ### Derivations -/

/-- A qualified name: names with dots between them. -/
structure Qualified where
  /-- The first name. -/
  first : String
  /-- The names behind dots. -/
  others : List String

namespace Qualified

/-- The marks of a qualified name. -/
def marks (q : Qualified) : List Mark := .name q.first :: q.others.flatMap fun n => [.dot, .name n]

/-- The last name, which is all that is kept. -/
def last (q : Qualified) : String := q.others.getLast?.getD q.first

/-- The qualified name with one more name behind a dot. -/
def extend (q : Qualified) (n : String) : Qualified := ⟨q.first, q.others ++ [n]⟩

@[simp] theorem last_extend (q : Qualified) (n : String) : (q.extend n).last = n := by
  simp [last, extend]

@[simp] theorem marks_extend (q : Qualified) (n : String) :
    (q.extend n).marks = q.marks ++ [.dot, .name n] := by
  simp [marks, extend]

end Qualified

mutual

/-- How a type is derived, by the rules of the grammar. -/
inductive Derivation where
  /-- `type "[" "]"`. -/
  | array (element : Derivation)
  /-- `qualified "<" type ("," type)* ">"`. -/
  | generic (name : Qualified) (params : Parameters)
  /-- `qualified`. -/
  | simple (name : Qualified)

/-- How one or more types with commas between them are derived. -/
inductive Parameters where
  /-- The last type. -/
  | one (type : Derivation)
  /-- A type, a comma and further types. -/
  | more (type : Derivation) (rest : Parameters)

end

mutual

/-- The marks that are derived. -/
def Derivation.marks : Derivation → List Mark
  | .array e => e.marks ++ [.opening, .closing]
  | .generic q ps => q.marks ++ .less :: (ps.marks ++ [.greater])
  | .simple q => q.marks

/-- The marks of parameters. -/
def Parameters.marks : Parameters → List Mark
  | .one d => d.marks
  | .more d ps => d.marks ++ .comma :: ps.marks

end

mutual

/-- The type name that a derivation stands for. -/
def Derivation.typeName : Derivation → TypeName
  | .array e => .array e.typeName
  | .generic q ps => .mk q.last ps.typeNames
  | .simple q => .simple q.last

/-- The type names of parameters. -/
def Parameters.typeNames : Parameters → List TypeName
  | .one d => [d.typeName]
  | .more d ps => d.typeName :: ps.typeNames

end

/-- The parameters with earlier ones in front, given last first. -/
def Parameters.behind (ps : Parameters) : List Derivation → Parameters
  | [] => ps
  | d :: ds => (Parameters.more d ps).behind ds

/-- The type names of earlier parameters come first. -/
theorem Parameters.typeNames_behind (ps : Parameters) (ds : List Derivation) :
    (ps.behind ds).typeNames = (ds.map Derivation.typeName).reverse ++ ps.typeNames := by
  induction ds generalizing ps with
  | nil => rfl
  | cons d ds ih => simp [behind, ih, typeNames]

/-- The marks of earlier parameters come first. -/
theorem Parameters.marks_behind (ps : Parameters) (ds : List Derivation) :
    (ps.behind ds).marks = (ds.reverse.flatMap fun d => d.marks ++ [.comma]) ++ ps.marks := by
  induction ds generalizing ps with
  | nil => rfl
  | cons d ds ih => simp [behind, ih, marks]

/-! ### The reader that keeps derivations -/

/-- What has just been read, with its derivation. -/
inductive Progress where
  /-- A type must begin here. -/
  | typeStart
  /-- A segment must follow the dot behind the name. -/
  | segmentStart (name : Qualified)
  /-- A qualified name. -/
  | named (name : Qualified)
  /-- A complete type. -/
  | complete (type : Derivation)
  /-- An opening bracket behind a complete type. -/
  | bracket (element : Derivation)

/-- A generic type that is still open, with its derivations so far. -/
structure OpenDerivation where
  /-- The name before the bracket. -/
  name : Qualified
  /-- The parameters before the current one, last first. -/
  params : List Derivation

/-- The reader's state with all derivations that it has made. -/
structure Trace where
  /-- What has just been read. -/
  progress : Progress
  /-- The generic types still open, innermost first. -/
  pending : List OpenDerivation

namespace Trace

/-- The marks of what has just been read. -/
def progressMarks : Progress → List Mark
  | .typeStart => []
  | .segmentStart q => q.marks ++ [.dot]
  | .named q => q.marks
  | .complete d => d.marks
  | .bracket d => d.marks ++ [.opening]

/-- The marks of the generic types still open. -/
def pendingMarks : List OpenDerivation → List Mark
  | [] => []
  | g :: gs =>
    pendingMarks gs ++ g.name.marks ++ .less :: g.params.reverse.flatMap fun d => d.marks ++ [.comma]

/-- All marks that have been read. -/
def marks (s : Trace) : List Mark := pendingMarks s.pending ++ progressMarks s.progress

/-- What the reader of type names knows of what has just been read. -/
def reading : Progress → Reading
  | .typeStart => .typeStart
  | .segmentStart _ => .segmentStart
  | .named q => .named q.last
  | .complete d => .complete d.typeName
  | .bracket d => .bracket d.typeName

/-- What the reader of type names knows of a generic type still open. -/
def openGeneric (g : OpenDerivation) : OpenGeneric := ⟨g.name.last, g.params.map Derivation.typeName⟩

/-- The state of the reader of type names. -/
def state (s : Trace) : ReaderState := ⟨reading s.progress, s.pending.map openGeneric⟩

/-- A mark behind a complete type. -/
def afterComplete? (d : Derivation) (pending : List OpenDerivation) : Mark → Option Trace
  | .opening => some ⟨.bracket d, pending⟩
  | .comma =>
    match pending with
    | g :: rest => some ⟨.typeStart, ⟨g.name, d :: g.params⟩ :: rest⟩
    | [] => none
  | .greater =>
    match pending with
    | g :: rest => some ⟨.complete (.generic g.name ((Parameters.one d).behind g.params)), rest⟩
    | [] => none
  | _ => none

/-- The state after one more mark, if the mark may stand there. -/
def step? (s : Trace) (m : Mark) : Option Trace :=
  match s.progress, m with
  | .typeStart, .name n => some ⟨.named ⟨n, []⟩, s.pending⟩
  | .segmentStart q, .name n => some ⟨.named (q.extend n), s.pending⟩
  | .named q, .dot => some ⟨.segmentStart q, s.pending⟩
  | .named q, .less => some ⟨.typeStart, ⟨q, []⟩ :: s.pending⟩
  | .named q, m => afterComplete? (.simple q) s.pending m
  | .complete d, m => afterComplete? d s.pending m
  | .bracket d, .closing => some ⟨.complete (.array d), s.pending⟩
  | _, _ => none

/-- The derivation that has been read once no mark is left. -/
def finish? : Trace → Option Derivation
  | ⟨.named q, []⟩ => some (.simple q)
  | ⟨.complete d, []⟩ => some d
  | _ => none

/-- Behind a complete type both readers go on alike. -/
theorem afterComplete?_state (d : Derivation) (pending : List OpenDerivation) (m : Mark) :
    TypeName.afterComplete? d.typeName (pending.map openGeneric) m =
      (afterComplete? d pending m).map state := by
  cases m with
  | opening => rfl
  | comma => cases pending <;> rfl
  | greater =>
    cases pending with
    | nil => rfl
    | cons g rest =>
      simp [TypeName.afterComplete?, afterComplete?, state, reading, openGeneric,
        Derivation.typeName, Parameters.typeNames_behind, Parameters.typeNames]
  | name n => rfl
  | dot => rfl
  | less => rfl
  | closing => rfl

/-- Both readers make the same steps. -/
theorem step?_state (s : Trace) (m : Mark) : TypeName.step? s.state m = (s.step? m).map state := by
  obtain ⟨progress, pending⟩ := s
  cases progress with
  | typeStart => cases m <;> rfl
  | segmentStart q => cases m <;> simp [TypeName.step?, step?, state, reading]
  | named q =>
    cases m with
    | dot => rfl
    | less => rfl
    | name n => exact afterComplete?_state (.simple q) pending (.name n)
    | greater => exact afterComplete?_state (.simple q) pending .greater
    | comma => exact afterComplete?_state (.simple q) pending .comma
    | opening => exact afterComplete?_state (.simple q) pending .opening
    | closing => exact afterComplete?_state (.simple q) pending .closing
  | complete d => exact afterComplete?_state d pending m
  | bracket d => cases m <;> rfl

/-- Both readers make the same runs. -/
theorem foldlM_step?_state (s : Trace) (ms : List Mark) :
    ms.foldlM TypeName.step? s.state = (ms.foldlM step? s).map state := by
  induction ms generalizing s with
  | nil => rfl
  | cons m ms ih =>
    rw [List.foldlM_cons, List.foldlM_cons, step?_state]
    cases s.step? m with
    | none => rfl
    | some next => exact ih next

/-- Both readers finish alike. -/
theorem finish?_state (s : Trace) : s.state.finish? = s.finish?.map Derivation.typeName := by
  obtain ⟨progress, pending⟩ := s
  cases progress <;> cases pending <;> rfl

/-- A mark behind a complete type is kept. -/
theorem marks_of_afterComplete? {d : Derivation} {pending : List OpenDerivation} {m : Mark}
    {s : Trace} (h : afterComplete? d pending m = some s) :
    s.marks = pendingMarks pending ++ d.marks ++ [m] := by
  unfold afterComplete? at h
  split at h
  · cases h
    simp [marks, progressMarks]
  · split at h
    · cases h
      simp [marks, progressMarks, pendingMarks]
    · cases h
  · split at h
    · cases h
      simp [marks, progressMarks, pendingMarks, Derivation.marks, Parameters.marks_behind,
        Parameters.marks]
    · cases h
  · cases h

/-- The mark of a step is kept behind those before it. -/
theorem marks_of_step? {s s' : Trace} {m : Mark} (h : s.step? m = some s') :
    s'.marks = s.marks ++ [m] := by
  obtain ⟨progress, pending⟩ := s
  cases progress with
  | typeStart =>
    cases m <;> simp only [step?, reduceCtorEq, Option.some.injEq] at h
    subst h
    simp [marks, progressMarks, Qualified.marks]
  | segmentStart q =>
    cases m <;> simp only [step?, reduceCtorEq, Option.some.injEq] at h
    subst h
    simp [marks, progressMarks]
  | named q =>
    cases m <;> simp only [step?, Option.some.injEq] at h
    case dot => subst h; simp [marks, progressMarks]
    case less => subst h; simp [marks, progressMarks, pendingMarks]
    all_goals exact marks_of_afterComplete? h
  | complete d => exact marks_of_afterComplete? h
  | bracket d =>
    cases m <;> simp only [step?, reduceCtorEq, Option.some.injEq] at h
    subst h
    simp [marks, progressMarks, Derivation.marks]

/-- All marks of a run are kept. -/
theorem marks_of_foldlM_step? {ms : List Mark} {s s' : Trace} (h : ms.foldlM step? s = some s') :
    s'.marks = s.marks ++ ms := by
  induction ms generalizing s with
  | nil =>
    cases h
    simp
  | cons m ms ih =>
    rw [List.foldlM_cons] at h
    obtain ⟨next, first, rest⟩ := Option.bind_eq_some_iff.mp h
    rw [ih rest, marks_of_step? first, List.append_assoc]
    rfl

/-- The reader has nothing but the marks of the derivation that it ends with. -/
theorem marks_of_finish? {s : Trace} {d : Derivation} (h : s.finish? = some d) :
    s.marks = d.marks := by
  unfold finish? at h
  split at h
  · cases h
    simp [marks, pendingMarks, progressMarks, Derivation.marks]
  · cases h
    simp [marks, pendingMarks, progressMarks]
  · cases h

/-! ### Reading the marks of a derivation -/

/-- What has been read behind the marks of a derivation: a name alone may still go on. -/
def progressOf : Derivation → Progress
  | .simple q => .named q
  | d => .complete d

/-- Behind the marks of a type, a mark that does not go on a name meets a complete type. -/
theorem step?_progressOf (d : Derivation) (pending : List OpenDerivation) {m : Mark}
    (dot : m ≠ .dot) (less : m ≠ .less) :
    step? ⟨progressOf d, pending⟩ m = afterComplete? d pending m := by
  cases d with
  | array e => rfl
  | generic q ps => rfl
  | simple q =>
    cases m with
    | dot => exact absurd rfl dot
    | less => exact absurd rfl less
    | _ => rfl

/-- The names behind dots are put behind the name. -/
theorem foldlM_step?_others (ns : List String) (q : Qualified) (pending : List OpenDerivation) :
    (ns.flatMap fun n => [.dot, .name n]).foldlM step? ⟨.named q, pending⟩ =
      some ⟨.named ⟨q.first, q.others ++ ns⟩, pending⟩ := by
  induction ns generalizing q with
  | nil => simp
  | cons n ns ih =>
    have next := ih (q.extend n)
    simp only [Qualified.extend, List.append_assoc, List.singleton_append] at next
    exact next

/-- The marks of a qualified name are read as that name. -/
theorem foldlM_step?_qualified (q : Qualified) (pending : List OpenDerivation) :
    q.marks.foldlM step? ⟨.typeStart, pending⟩ = some ⟨.named q, pending⟩ :=
  foldlM_step?_others q.others ⟨q.first, []⟩ pending

mutual

/-- The marks of a derivation are read as that derivation, whatever is still open. -/
theorem foldlM_step?_marks (d : Derivation) (pending : List OpenDerivation) :
    d.marks.foldlM step? ⟨.typeStart, pending⟩ = some ⟨progressOf d, pending⟩ := by
  match d with
  | .array e =>
    rw [Derivation.marks, List.foldlM_append, foldlM_step?_marks e pending]
    show (step? ⟨progressOf e, pending⟩ .opening >>= _) = _
    rw [step?_progressOf e pending (by simp) (by simp)]
    rfl
  | .generic q ps =>
    rw [Derivation.marks, List.foldlM_append, foldlM_step?_qualified]
    exact foldlM_step?_params ps q [] pending
  | .simple q => exact foldlM_step?_qualified q pending

/-- The marks of parameters are read as those parameters, behind the ones before, and the bracket
behind them closes the generic type. -/
theorem foldlM_step?_params (ps : Parameters) (q : Qualified) (before : List Derivation)
    (pending : List OpenDerivation) :
    (ps.marks ++ [Mark.greater]).foldlM step? ⟨.typeStart, ⟨q, before⟩ :: pending⟩ =
      some ⟨.complete (.generic q (ps.behind before)), pending⟩ := by
  match ps with
  | .one d =>
    rw [Parameters.marks, List.foldlM_append, foldlM_step?_marks d]
    show (step? ⟨progressOf d, ⟨q, before⟩ :: pending⟩ .greater >>= _) = _
    rw [step?_progressOf d _ (by simp) (by simp)]
    rfl
  | .more d rest =>
    rw [Parameters.marks, List.append_assoc, List.foldlM_append, foldlM_step?_marks d]
    show (step? ⟨progressOf d, ⟨q, before⟩ :: pending⟩ .comma >>= _) = _
    rw [step?_progressOf d _ (by simp) (by simp)]
    exact foldlM_step?_params rest q (d :: before) pending

end

end Trace

/-! ### The language of the reader -/

/-- The derivation of marks. -/
def Derivation.ofMarks? (ms : List Mark) : Option Derivation :=
  (ms.foldlM Trace.step? ⟨.typeStart, []⟩).bind Trace.finish?

/-- The reader of marks gives the type name of their derivation. -/
theorem ofMarks?_eq (ms : List Mark) :
    ofMarks? ms = (Derivation.ofMarks? ms).map Derivation.typeName := by
  unfold ofMarks? Derivation.ofMarks?
  have run := Trace.foldlM_step?_state ⟨.typeStart, []⟩ ms
  rw [show ReaderState.start = Trace.state ⟨.typeStart, []⟩ from rfl, run]
  cases ms.foldlM Trace.step? ⟨.typeStart, []⟩ with
  | none => rfl
  | some last => exact Trace.finish?_state last

/-- Marks have the derivation whose marks they are, and no other. -/
theorem Derivation.ofMarks?_eq_some_iff {ms : List Mark} {d : Derivation} :
    ofMarks? ms = some d ↔ d.marks = ms := by
  constructor
  · intro h
    obtain ⟨last, run, finish⟩ := Option.bind_eq_some_iff.mp h
    rw [← Trace.marks_of_finish? finish, Trace.marks_of_foldlM_step? run]
    rfl
  · rintro rfl
    unfold ofMarks?
    rw [Trace.foldlM_step?_marks]
    cases d <;> rfl

/-- Derivations with the same marks are the same. -/
theorem Derivation.marks_injective {d e : Derivation} (h : d.marks = e.marks) : d = e :=
  Option.some.inj ((ofMarks?_eq_some_iff.mpr h).symm.trans (ofMarks?_eq_some_iff.mpr rfl))

/-- A text is read as the type name of the derivation of its marks. -/
theorem exists_derivation_iff {s : String} {t : TypeName} :
    read? s = some t ↔ ∃ d : Derivation, Splits s.toList d.marks ∧ d.typeName = t := by
  unfold read?
  constructor
  · intro h
    obtain ⟨ms, split, read⟩ := Option.bind_eq_some_iff.mp h
    rw [ofMarks?_eq] at read
    obtain ⟨d, derived, named⟩ := Option.map_eq_some_iff.mp read
    obtain rfl := Derivation.ofMarks?_eq_some_iff.mp derived
    exact ⟨d, marks?_eq_some_iff.mp split, named⟩
  · rintro ⟨d, split, rfl⟩
    rw [marks?_eq_some_iff.mpr split, Option.bind_some, ofMarks?_eq,
      Derivation.ofMarks?_eq_some_iff.mpr rfl]
    rfl

/-- The texts that are read as type names are those of the grammar. A text is read as a type name
exactly if its marks are those of a derivation that stands for it. No text has two derivations. A
text without one is malformed, wherever a type name is read, and the fault repeats the text as it
was given. -/
theorem read?_iff_derivation (s : String) :
    (∀ t, read? s = some t ↔ ∃ d : Derivation, Splits s.toList d.marks ∧ d.typeName = t) ∧
    (∀ d e : Derivation, Splits s.toList d.marks → Splits s.toList e.marks → d = e) ∧
    ((¬ ∃ d : Derivation, Splits s.toList d.marks) →
      (∀ ids, typeOfText ids s = .error (.malformedType s)) ∧
      (∀ sp : Spelling, sp.spellText s = .error (.malformedType s)) ∧
      (Fault.malformedType s).message = "Malformed type name '" ++ s ++ "'") := by
  refine ⟨fun t => exists_derivation_iff, fun d e first second => ?_, fun none => ?_⟩
  · have same := (marks?_eq_some_iff.mpr first).symm.trans (marks?_eq_some_iff.mpr second)
    exact Derivation.marks_injective (Option.some.inj same)
  · have unread : read? s = Option.none := by
      cases read : read? s with
      | none => rfl
      | some t =>
        obtain ⟨d, split, -⟩ := exists_derivation_iff.mp read
        exact absurd ⟨d, split⟩ none
    refine ⟨fun ids => ?_, fun sp => ?_, rfl⟩
    · rw [typeOfText, unread]
    · rw [Spelling.spellText, unread]

/-- A qualified generic type with gaps between its marks is derived, and one whose brackets hold no
type is malformed. -/
theorem read?_iff_derivation_sample :
    (∃ d : Derivation, Splits " a.b.Map < int ,\tList<Item> [ ]> ".toList d.marks ∧
      d.typeName = .mk "Map" [.simple "int", .array (.mk "List" [.simple "Item"])]) ∧
    (¬ ∃ d : Derivation, Splits "Map<,>".toList d.marks) ∧
    typeOfText [] "Map<,>" = .error (.malformedType "Map<,>") := by
  have underived : ¬ ∃ d : Derivation, Splits "Map<,>".toList d.marks := by
    rintro ⟨d, split⟩
    have read := ((read?_iff_derivation "Map<,>").1 d.typeName).mpr ⟨d, split, rfl⟩
    cases read.symm.trans (by rfl : read? "Map<,>" = none)
  refine ⟨((read?_iff_derivation _).1 _).mp ?_, underived,
    ((read?_iff_derivation "Map<,>").2.2 underived).1 []⟩
  rfl

end PacketSmith.TypeName
