import PacketSmith.Code.Emit
import PacketSmith.Proofs.ScopedStatements

/-!
# Temporaries never collide

A temporary is a word and a number, and its name tells both (`Temporary.name_inj`). The lines of a
piece of code take their numbers from a range, the counter before and behind it: they declare each
temporary once, give every number of the range to one of them (`IsNumbered`), and use no other
numbers. Ranges that follow each other are put together by `IsNumbered.append`, so this goes from
types to fields, and from the two bodies of a message to its file.

In a session, a message has a counter of its own that starts at zero, whatever came before
(`Drafts.emitBodies_eq`).
-/

namespace PacketSmith.Code

open PacketSmith.Script (numbered numbered_inj)

/-! ### Temporaries -/

/-- What a variable of generated code is for. -/
inductive Role where
  | element
  | key
  | value
  | result
  | size
  | index
deriving DecidableEq, Repr

/-- The word for a role. -/
def Role.word : Role → String
  | element => "element"
  | key => "key"
  | value => "value"
  | result => "result"
  | size => "size"
  | index => "index"

/-- A variable that generated code declares. -/
structure Temporary where
  /-- What it is for. -/
  role : Role
  /-- Its number. -/
  number : Nat
deriving DecidableEq, Repr

/-- The name of a temporary. -/
def Temporary.name (v : Temporary) : String := numbered v.role.word v.number

/-- A name tells the temporary. -/
theorem Temporary.name_inj {v w : Temporary} (h : v.name = w.name) : v = w := by
  obtain ⟨role, n⟩ := v
  obtain ⟨other, k⟩ := w
  have words : ∀ r : Role, Script.isWord r.word = true := by
    intro r
    cases r <;> decide
  obtain ⟨word, rfl⟩ := (numbered_inj (words role) (words other)).mp h
  have roles : role = other := by
    cases role <;> cases other <;> first | rfl | exact absurd word (by decide)
  rw [roles]

/-- The temporary that an expression is. -/
def Expr.temporary? : Expr → Option Temporary
  | text _ => none
  | field _ => none
  | element n => some ⟨.element, n⟩
  | key n => some ⟨.key, n⟩
  | value n => some ⟨.value, n⟩
  | result n => some ⟨.result, n⟩

/-- The temporaries that a statement declares. -/
def Statement.declared : Statement → List Temporary
  | forElements n _ => [⟨.element, n⟩]
  | forEntries n _ => [⟨.key, n⟩, ⟨.value, n⟩]
  | readScalar n _ _ => [⟨.result, n⟩]
  | newContainer n _ => [⟨.result, n⟩]
  | readSize n => [⟨.size, n⟩]
  | forCount n => [⟨.index, n⟩]
  | readMessage n _ _ => [⟨.result, n⟩]
  | _ => []

/-- The temporaries that a statement uses. -/
def Statement.used : Statement → List Temporary
  | writeScalar _ e => e.temporary?.toList
  | writeSize _ e => e.temporary?.toList
  | forElements _ e => e.temporary?.toList
  | forEntries _ e => e.temporary?.toList
  | writeMessage e _ => e.temporary?.toList
  | forCount n => [⟨.index, n⟩, ⟨.size, n⟩]
  | addElement n _ e => ⟨.result, n⟩ :: e.temporary?.toList
  | addEntry n k v => ⟨.result, n⟩ :: (k.temporary?.toList ++ v.temporary?.toList)
  | store _ e => e.temporary?.toList
  | _ => []

/-- The temporaries that lines declare, in order. -/
def declared (ls : List Line) : List Temporary := ls.flatMap (·.statement.declared)

/-- The temporaries that lines use, in order. -/
def used (ls : List Line) : List Temporary := ls.flatMap (·.statement.used)

@[simp] theorem declared_nil : declared [] = [] := rfl

@[simp] theorem declared_cons (l : Line) (ls : List Line) :
    declared (l :: ls) = l.statement.declared ++ declared ls := rfl

@[simp] theorem declared_append (ls ms : List Line) :
    declared (ls ++ ms) = declared ls ++ declared ms := List.flatMap_append

@[simp] theorem used_nil : used [] = [] := rfl

@[simp] theorem used_cons (l : Line) (ls : List Line) :
    used (l :: ls) = l.statement.used ++ used ls := rfl

@[simp] theorem used_append (ls ms : List Line) : used (ls ++ ms) = used ls ++ used ms :=
  List.flatMap_append

/-! ### Ranges of numbers -/

/-- The temporaries are different, and their numbers are those of a range. -/
structure IsNumbered (vs : List Temporary) (n next : Nat) : Prop where
  /-- The range goes up. -/
  le : n ≤ next
  /-- Every number is in the range. -/
  range : ∀ v ∈ vs, n ≤ v.number ∧ v.number < next
  /-- Every number of the range is given. -/
  full : ∀ k, n ≤ k → k < next → ∃ v ∈ vs, v.number = k
  /-- No temporary comes twice. -/
  nodup : vs.Nodup

namespace IsNumbered

/-- No temporaries, and no numbers. -/
theorem nil {n : Nat} : IsNumbered [] n n :=
  ⟨le_rfl, by simp, fun k low high => absurd high (by omega), List.nodup_nil⟩

/-- One number, for temporaries of different roles. -/
theorem single {vs : List Temporary} {n : Nat} (some : vs ≠ []) (same : ∀ v ∈ vs, v.number = n)
    (nodup : vs.Nodup) : IsNumbered vs n (n + 1) where
  le := Nat.le_succ n
  range v mem := by
    rw [same v mem]
    omega
  full k low high := by
    obtain ⟨v, mem⟩ := List.exists_mem_of_ne_nil vs some
    refine ⟨v, mem, ?_⟩
    rw [same v mem]
    omega
  nodup := nodup

/-- A range behind a range. -/
theorem append {vs ws : List Temporary} {n middle next : Nat} (hv : IsNumbered vs n middle)
    (hw : IsNumbered ws middle next) : IsNumbered (vs ++ ws) n next where
  le := hv.le.trans hw.le
  range v mem := by
    have := hv.le
    have := hw.le
    rcases List.mem_append.mp mem with early | late
    · have := hv.range v early
      omega
    · have := hw.range v late
      omega
  full k low high := by
    by_cases early : k < middle
    · obtain ⟨v, mem, same⟩ := hv.full k low early
      exact ⟨v, List.mem_append_left _ mem, same⟩
    · obtain ⟨v, mem, same⟩ := hw.full k (by omega) high
      exact ⟨v, List.mem_append_right _ mem, same⟩
  nodup := by
    refine List.nodup_append.mpr ⟨hv.nodup, hw.nodup, ?_⟩
    rintro v early w late rfl
    have := hv.range v early
    have := hw.range v late
    omega

end IsNumbered

/-! ### The numbers of code -/

section Numbers

variable {t : Target} {w : WireType} {e : Expr} {depth : Int} {n next : Nat} {ls : List Line}

/-- The code that writes a value declares temporaries of its own numbers. -/
theorem isNumbered_write (h : WriteLines w e depth n ls next) :
    IsNumbered (declared ls) n next := by
  induction h with
  | scalar => exact .nil
  | @sequence kind name element id e depth n next body _ ih =>
    have own : IsNumbered [⟨.element, n⟩] n (n + 1) := .single (by simp) (by simp) (by simp)
    simpa [Statement.declared] using own.append ih
  | @map name k v id e depth n middle next keys values _ _ ihk ihv =>
    have own : IsNumbered [⟨.key, n⟩, ⟨.value, n⟩] n (n + 1) :=
      .single (by simp) (by simp) (by simp)
    simpa [Statement.declared] using own.append (ihk.append ihv)
  | message => exact .nil

/-- The code that writes a value uses its own numbers, and the given expression. -/
theorem used_write (h : WriteLines w e depth n ls next) :
    ∀ v ∈ used ls, e.temporary? = some v ∨ n ≤ v.number ∧ v.number < next := by
  induction h with
  | scalar => exact fun v mem => .inl (by simpa [Statement.used] using mem)
  | @sequence kind name element id e depth n next body lines ih =>
    have up := (isNumbered_write lines).le
    intro v mem
    simp only [used_cons, used_append, Statement.used, used_nil, List.mem_append,
      Option.mem_toList, List.not_mem_nil, or_false] at mem
    rcases mem with given | given | inside
    · exact .inl given
    · exact .inl given
    · rcases ih v inside with own | range
      · obtain rfl := Option.some.inj own
        exact .inr ⟨le_rfl, up⟩
      · exact .inr (by omega)
  | @map name k v id e depth n middle next keys values keyLines valueLines ihk ihv =>
    have up := (isNumbered_write keyLines).le
    have more := (isNumbered_write valueLines).le
    intro v mem
    simp only [used_cons, used_append, Statement.used, used_nil, List.mem_append,
      Option.mem_toList, List.not_mem_nil, or_false] at mem
    rcases mem with given | given | inKeys | inValues
    · exact .inl given
    · exact .inl given
    · rcases ihk v inKeys with own | range
      · obtain rfl := Option.some.inj own
        exact .inr ⟨le_rfl, by simp only; omega⟩
      · exact .inr (by omega)
    · rcases ihv v inValues with own | range
      · obtain rfl := Option.some.inj own
        exact .inr ⟨le_rfl, by simp only; omega⟩
      · exact .inr (by omega)
  | message => exact fun v mem => .inl (by simpa [Statement.used] using mem)

/-- The code that reads a value declares temporaries of its own numbers. -/
theorem isNumbered_read (h : ReadLines t w depth n ls next) : IsNumbered (declared ls) n next := by
  have result : ∀ n, IsNumbered [⟨.result, n⟩] n (n + 1) := fun n =>
    .single (by simp) (by simp) (by simp)
  have container : ∀ n, IsNumbered [⟨.result, n⟩, ⟨.size, n⟩, ⟨.index, n⟩] n (n + 1) := fun n =>
    .single (by simp) (by simp) (by simp)
  induction h with
  | scalar => exact result _
  | sequence _ _ ih => simpa [Statement.declared] using (container _).append ih
  | map _ _ _ ihk ihv => simpa [Statement.declared] using (container _).append (ihk.append ihv)
  | message => exact result _

/-- The code that reads a value takes a number. -/
theorem lt_of_readLines (h : ReadLines t w depth n ls next) : n < next := by
  cases h with
  | scalar => exact Nat.lt_succ_self n
  | sequence _ lines => exact (isNumbered_read lines).le
  | map _ keys values => exact (isNumbered_read keys).le.trans (isNumbered_read values).le
  | message => exact Nat.lt_succ_self n

/-- The code that reads a value uses its own numbers. -/
theorem used_read (h : ReadLines t w depth n ls next) :
    ∀ v ∈ used ls, n ≤ v.number ∧ v.number < next := by
  induction h with
  | scalar => simp [Statement.used]
  | @sequence kind name element id type depth n next body _ lines ih =>
    have taken := lt_of_readLines lines
    intro v mem
    simp only [used_cons, used_append, Statement.used, used_nil, List.mem_append, List.mem_cons,
      Expr.temporary?, Option.toList_some, List.not_mem_nil, or_false, false_or] at mem
    rcases mem with (rfl | rfl) | inside | rfl | rfl
    · exact ⟨le_rfl, by simp only; omega⟩
    · exact ⟨le_rfl, by simp only; omega⟩
    · have := ih v inside
      omega
    · exact ⟨le_rfl, by simp only; omega⟩
    · exact ⟨Nat.le_succ n, taken⟩
  | @map name k v id type depth n middle next keys values _ keyLines valueLines ihk ihv =>
    have taken := lt_of_readLines keyLines
    have more := lt_of_readLines valueLines
    intro v mem
    simp only [used_cons, used_append, Statement.used, used_nil, List.mem_append, List.mem_cons,
      Expr.temporary?, Option.toList_some, List.not_mem_nil, or_false, false_or] at mem
    rcases mem with (rfl | rfl) | inKeys | inValues | rfl | rfl | rfl
    · exact ⟨le_rfl, by simp only; omega⟩
    · exact ⟨le_rfl, by simp only; omega⟩
    · have := ihk v inKeys
      omega
    · have := ihv v inValues
      omega
    · exact ⟨le_rfl, by simp only; omega⟩
    · exact ⟨Nat.le_succ n, by simp only; omega⟩
    · exact ⟨by simp only; omega, more⟩
  | message => simp [Statement.used]

/-- The code that writes fields declares temporaries of its own numbers, and uses no others. -/
theorem isNumbered_writeFields {fs : List Field} (h : WriteFieldLines t fs n ls next) :
    IsNumbered (declared ls) n next ∧ ∀ v ∈ used ls, n ≤ v.number ∧ v.number < next := by
  induction h with
  | nil => exact ⟨.nil, by simp⟩
  | @cons f fs n middle next ls ms lines _ ih =>
    have first := isNumbered_write lines
    obtain ⟨rest, inRest⟩ := ih
    refine ⟨by rw [declared_append]; exact first.append rest, fun v mem => ?_⟩
    have up := first.le
    have more := rest.le
    rw [used_append] at mem
    rcases List.mem_append.mp mem with early | late
    · rcases used_write lines v early with given | range
      · cases given
      · omega
    · have := inRest v late
      omega

/-- The check before a field declares and uses nothing. -/
theorem declared_checkLines (t : Target) (tail : Bool) :
    declared (Target.checkLines t tail) = [] ∧ used (Target.checkLines t tail) = [] := by
  cases t <;> cases tail <;> exact ⟨rfl, rfl⟩

/-- The code that reads fields declares temporaries of its own numbers, and uses no others. -/
theorem isNumbered_readFields {tail : Bool} {fs : List Field}
    (h : ReadFieldLines t tail fs n ls next) :
    IsNumbered (declared ls) n next ∧ ∀ v ∈ used ls, n ≤ v.number ∧ v.number < next := by
  induction h with
  | nil => exact ⟨.nil, by simp⟩
  | @cons tail f fs n middle next ls ms lines _ ih =>
    have first := isNumbered_read lines
    have taken := lt_of_readLines lines
    obtain ⟨check, noUse⟩ := declared_checkLines t (tail || f.isCompatible)
    obtain ⟨rest, inRest⟩ := ih
    have more := rest.le
    refine ⟨?_, fun v mem => ?_⟩
    · simpa [check, Statement.declared] using first.append rest
    · simp only [used_append, used_cons, noUse, Statement.used, Expr.temporary?, Option.toList_some,
        List.nil_append, List.mem_append, List.mem_cons, List.not_mem_nil, or_false] at mem
      rcases mem with early | rfl | late
      · have := used_read lines v early
        omega
      · exact ⟨le_rfl, by simp only; omega⟩
      · have := inRest v late
        omega

end Numbers

/-! ### Declarations in the text -/

/-- The text of the line declares the temporaries that its statement does. -/
def Line.DeclaresIn (t : Target) (l : Line) : Prop :=
  ∀ v ∈ l.statement.declared, Declares t (t.statement l.statement) v.name ∨
    DeclaresForLoop t (t.statement l.statement) v.name

section Texts

variable {t : Target} {w : WireType} {e : Expr} {depth : Int} {n next : Nat} {ls : List Line}

/-- A line that declares nothing. -/
theorem Line.DeclaresIn.of_eq_nil {l : Line} (h : l.statement.declared = []) : l.DeclaresIn t := by
  intro v mem
  rw [h] at mem
  exact absurd mem List.not_mem_nil

/-- A line that declares one temporary. -/
theorem Line.DeclaresIn.of_eq_singleton {l : Line} {v : Temporary}
    (h : l.statement.declared = [v]) (text : Declares t (t.statement l.statement) v.name ∨
      DeclaresForLoop t (t.statement l.statement) v.name) : l.DeclaresIn t := by
  intro u mem
  rw [h] at mem
  rw [List.mem_singleton.mp mem]
  exact text

/-- The texts of the lines that write a value declare their temporaries. -/
theorem declaresIn_write (h : WriteLines w e depth n ls next) : ∀ l ∈ ls, l.DeclaresIn t := by
  induction h with
  | scalar => simpa using .of_eq_nil rfl
  | @sequence kind name element id e depth n next body _ ih =>
    have header : Line.DeclaresIn t ⟨depth, .forElements n e⟩ :=
      .of_eq_singleton rfl (.inr (by rw [text_forElements]; exact .element))
    simp only [List.forall_mem_cons, List.forall_mem_append]
    exact ⟨.of_eq_nil rfl, header, ih, .of_eq_nil rfl, List.forall_mem_nil _⟩
  | @map name k v id e depth n middle next keys values _ _ ihk ihv =>
    have header : Line.DeclaresIn t ⟨depth, .forEntries n e⟩ := by
      intro v mem
      simp only [Statement.declared, List.mem_cons, List.not_mem_nil, or_false] at mem
      refine .inr ?_
      rw [text_forEntries]
      rcases mem with rfl | rfl
      · exact .key
      · exact .value
    simp only [List.forall_mem_cons, List.forall_mem_append]
    exact ⟨.of_eq_nil rfl, header, ihk, ihv, .of_eq_nil rfl, List.forall_mem_nil _⟩
  | message => simpa using .of_eq_nil rfl

/-- The lines that start the reading of a container declare their temporaries. -/
theorem declaresIn_container {types : Set String} {type : String} (h : IsTypeIn types type)
    (other : type ≠ "return") (depth : Int) (n : Nat) :
    Line.DeclaresIn t ⟨depth, .newContainer n type⟩ ∧ Line.DeclaresIn t ⟨depth, .readSize n⟩ ∧
      Line.DeclaresIn t ⟨depth, .forCount n⟩ := by
  have container : IsPlain t types ∅ _ _ := isPlain_newContainer n h other
  have size : IsPlain t types ∅ _ _ := isPlain_readSize n
  have count : IsHeader t Set.univ _ _ := isHeader_forCount n (Set.mem_univ _)
  exact ⟨.of_eq_singleton rfl (.inl (container.declares _ rfl)),
    .of_eq_singleton rfl (.inl (size.declares _ rfl)),
    .of_eq_singleton rfl (.inr (count.declares _ rfl))⟩

/-- The texts of the lines that read a value declare their temporaries. -/
theorem declaresIn_read {ids : TypeName.MessageIds} (resolved : w.Resolved ids)
    (h : ReadLines t w depth n ls next) : ∀ l ∈ ls, l.DeclaresIn t := by
  induction h with
  | @scalar kind name id type depth n spelled =>
    have other := ne_return_of_spell t resolved (by simp [WireType.tag]) spelled
    have plain : IsPlain t _ ∅ _ _ :=
      isPlain_readScalar n kind (isTypeIn_of_spell t resolved spelled) other
    simpa using .of_eq_singleton rfl (.inl (plain.declares _ rfl))
  | @sequence kind name element id type depth n next body spelled _ ih =>
    have other := ne_return_of_spell t resolved (by simp [WireType.tag]) spelled
    obtain ⟨container, size, count⟩ :=
      declaresIn_container (isTypeIn_of_spell t resolved spelled) other depth n
    cases resolved with
    | sequence inside =>
      simp only [List.forall_mem_cons, List.forall_mem_append]
      exact ⟨container, size, count, ih inside, .of_eq_nil rfl, .of_eq_nil rfl, List.forall_mem_nil _⟩
  | @map name k v id type depth n middle next keys values spelled _ _ ihk ihv =>
    have other := ne_return_of_spell t resolved (by simp [WireType.tag]) spelled
    obtain ⟨container, size, count⟩ :=
      declaresIn_container (isTypeIn_of_spell t resolved spelled) other depth n
    cases resolved with
    | map key value =>
      simp only [List.forall_mem_cons, List.forall_mem_append]
      exact ⟨container, size, count, ihk key, ihv value, .of_eq_nil rfl, .of_eq_nil rfl, List.forall_mem_nil _⟩
  | @message name id type depth n spelled =>
    have plain : IsPlain t _ ∅ _ _ := isPlain_readMessage n id (isTypeIn_of_spell t resolved spelled)
    simpa using .of_eq_singleton rfl (.inl (plain.declares _ rfl))

/-- The texts of the lines that write fields declare their temporaries. -/
theorem declaresIn_writeFields {fs : List Field} (h : WriteFieldLines t fs n ls next) :
    ∀ l ∈ ls, l.DeclaresIn t := by
  induction h with
  | nil => simp
  | cons lines _ ih => exact List.forall_mem_append.mpr ⟨declaresIn_write lines, ih⟩

/-- The texts of the lines that read fields declare their temporaries. -/
theorem declaresIn_readFields {ids : TypeName.MessageIds} {tail : Bool} {fs : List Field}
    (resolved : ∀ f ∈ fs, f.type.Resolved ids) (h : ReadFieldLines t tail fs n ls next) :
    ∀ l ∈ ls, l.DeclaresIn t := by
  induction h with
  | nil => simp
  | @cons tail f fs n middle next ls ms lines _ ih =>
    obtain ⟨first, others⟩ := List.forall_mem_cons.mp resolved
    have check : ∀ l ∈ Target.checkLines t (tail || f.isCompatible), l.DeclaresIn t := by
      have none := (declared_checkLines t (tail || f.isCompatible)).1
      exact fun l mem => .of_eq_nil (List.flatMap_eq_nil_iff.mp none l mem)
    simp only [List.forall_mem_cons, List.forall_mem_append]
    exact ⟨check, declaresIn_read first lines, .of_eq_nil rfl, ih others⟩

end Texts

/-! ### Messages in a session -/

/-- Emits the bodies of a message in a session, as its file has them: a draft for the message with a
counter of its own, one for its declarations, and one for each body. -/
def Drafts.emitBodies (ds : Drafts) (c : Coder) (fs : List Field) :
    Emission Unit × Emission Unit × Drafts :=
  let own := ds.drafts.length
  let written := (((ds.new).fork own).fork own).emit (own + 2) (c.writeFields fs)
  let read := (written.2.fork own).emit (own + 3) (c.readFields false fs)
  (written.1, read.1, read.2)

/-- The bodies of a message are the same in every session. What was there stays, and the drafts of
the message follow, with a counter of their own. -/
theorem Drafts.emitBodies_eq (ds : Drafts) {c : Coder} {fs : List Field}
    {written read : Emission Unit} (hw : c.writeFields fs 0 = written)
    (hr : c.readFields false fs written.next = read) :
    ds.emitBodies c fs = (written, read, ⟨ds.counters ++ [read.next], ds.drafts ++
      [⟨ds.counters.length, []⟩, ⟨ds.counters.length, []⟩, ⟨ds.counters.length, written.lines⟩,
        ⟨ds.counters.length, read.lines⟩]⟩) := by
  subst hw hr
  simp [Drafts.emitBodies, Drafts.new, Drafts.fork, Drafts.emit, Drafts.get]

/-! ### The temporaries of a message -/

/-- The bodies of a message declare each temporary once: names are different, every number of the
one body is below every number of the other, and together they take all numbers from zero on. The
texts of their lines declare what the statements do, they are what the message's file has, and they
are the same in every session. -/
theorem temporaries_of_message {x : OutputContext}
    (prepared : Generator.prepare x.target = .ok x.coder) {ids : TypeName.MessageIds} {m : Message}
    (typed : ∀ f ∈ m.fields, ∃ text, typeOfText ids text = .ok f.type) :
    ∃ (written read : List Line) (middle last : Nat),
      (∀ r p, x.messageParts r m = .ok p →
        p.writeBody = x.target.fragment written ∧ p.readBody = x.target.fragment read) ∧
      (∀ l ∈ written ++ read, l.DeclaresIn x.target) ∧
      ((declared (written ++ read)).map Temporary.name).Nodup ∧
      (∀ v ∈ declared written ++ used written, v.number < middle) ∧
      (∀ v ∈ declared read ++ used read, middle ≤ v.number ∧ v.number < last) ∧
      (∀ k < last, ∃ v ∈ declared (written ++ read), v.number = k) ∧
      ∀ ds : Drafts, ds.emitBodies x.coder m.fields =
        (⟨written, middle, .ok ()⟩, ⟨read, last, .ok ()⟩, ⟨ds.counters ++ [last], ds.drafts ++
          [⟨ds.counters.length, []⟩, ⟨ds.counters.length, []⟩, ⟨ds.counters.length, written⟩,
            ⟨ds.counters.length, read⟩]⟩) := by
  obtain ⟨-, std⟩ := of_prepare prepared
  have resolved : ∀ f ∈ m.fields, f.type.Resolved ids := by
    intro f mem
    obtain ⟨text, made⟩ := typed f mem
    exact resolved_of_typeOfText made
  obtain ⟨written, middle, writeLines, hw⟩ := exists_writeFields std resolved 0
  obtain ⟨read, last, readLines, hr⟩ := exists_readFields std resolved false middle
  obtain ⟨first, usedFirst⟩ := isNumbered_writeFields writeLines
  obtain ⟨second, usedSecond⟩ := isNumbered_readFields readLines
  have both : IsNumbered (declared (written ++ read)) 0 last := by
    rw [declared_append]
    exact first.append second
  refine ⟨written, read, middle, last, fun r p laid => ?_, ?_, ?_, ?_, ?_, ?_, ?_⟩
  · have bodies := (Script.bodies_of_messageParts laid).symm.trans
      (Script.bodies_eq (by rw [hw]) (by rw [hw, hr]))
    rw [hw, hr] at bodies
    exact Prod.mk.inj (Except.ok.inj bodies)
  · exact List.forall_mem_append.mpr
      ⟨declaresIn_writeFields writeLines, declaresIn_readFields resolved readLines⟩
  · exact both.nodup.map fun v w same => Temporary.name_inj same
  · exact fun v mem => (List.mem_append.mp mem).elim (fun own => (first.range v own).2)
      fun own => (usedFirst v own).2
  · exact fun v mem => (List.mem_append.mp mem).elim (second.range v) (usedSecond v)
  · exact fun k high => both.full k (Nat.zero_le k) high
  · exact fun ds => ds.emitBodies_eq hw hr

namespace Sample

/-- A message with a map of sets and an array. -/
def catalogue : Message where
  id := .number 3
  name := some "Catalogue"
  module := some "shop"
  fields := [Script.Sample.places, Script.Sample.tags true]

end Sample

/-- The temporaries of a message with nested containers. -/
theorem temporaries_of_message_nested : ∃ x : OutputContext,
    Generator.prepare x.target = .ok x.coder ∧
    (∀ f ∈ Sample.catalogue.fields, ∃ text, typeOfText Script.Sample.ids text = .ok f.type) ∧
    ∃ written read : List Line, ((declared (written ++ read)).map Temporary.name).Nodup ∧
      ∀ ds : Drafts, (ds.emitBodies x.coder Sample.catalogue.fields).1.lines = written ∧
        (ds.emitBodies x.coder Sample.catalogue.fields).2.1.lines = read := by
  obtain ⟨c, prepared, target, -⟩ := Script.exists_prepare .cpp
  have ready : Generator.prepare c.target = .ok c := by rw [target, prepared]
  have typed : ∀ f ∈ Sample.catalogue.fields,
      ∃ text, typeOfText Script.Sample.ids text = .ok f.type := by
    simpa [Sample.catalogue] using
      ⟨Script.Sample.usable_places.1, (Script.Sample.usable_tags true).1⟩
  refine ⟨⟨⟨.here, []⟩, c, false⟩, ready, typed, ?_⟩
  obtain ⟨written, read, middle, last, -, -, nodup, -, -, -, same⟩ :=
    temporaries_of_message (x := ⟨⟨.here, []⟩, c, false⟩) ready (m := Sample.catalogue) typed
  exact ⟨written, read, nodup, fun ds => by rw [same]; exact ⟨rfl, rfl⟩⟩

end PacketSmith.Code
