import PacketSmith.Proofs.Script.Emission
import PacketSmith.Proofs.Script.Execution

/-!
# Values on their way through the buffer

A value that fits its type (`Fits`) has an encoding, a list of tokens that the type alone determines
(`encode`). The code that writes a value puts its encoding at the end of the buffer
(`runAll_writeCode`), and the code that reads a value takes the encoding from the front and declares
a variable with that value (`runAll_readCode`), whatever follows in the buffer. Both go by induction
on the form of the code; for loops, by induction on the items, with what one round does as a lemma.

`runAll_writeFields` and `runAll_readFields` are the same for all fields of a message. Reading goes
from field to field (`exists_runAll_readFields`), so where the buffer has no tokens for the others it
ends at the first check (`runAll_readFields_back`), or fails if no check stands there
(`runAll_readFields_failed`).
-/

namespace PacketSmith.Script

open PacketSmith.Code

variable {α : Type}

/-! ### Values of a type -/

/-- The value has the form of the type: a scalar of its kind, a collection of its kind whose items
have the form of the parameters, without repetition in a set and among the keys of a map, or any
nested message. -/
inductive Fits : WireType → Value α → Prop where
  | scalar {k : Scalar} {name : TypeName} {id : MessageId} {d : Datum} :
      d.kind = k → Fits (.mk (.scalar k) name [] id) (.scalar d)
  | sequence {k : Sequence} {name : TypeName} {e : WireType} {id : MessageId}
      {items : List (Value α)} :
      (∀ v ∈ items, Fits e v) → (k = .set → items.Nodup) →
      Fits (.mk (.sequence k) name [e] id) (.collection (collectionOf k) items)
  | map {name : TypeName} {k v : WireType} {id : MessageId} {entries : List (Value α × Value α)} :
      (∀ p ∈ entries, Fits k p.1) → (∀ p ∈ entries, Fits v p.2) → (entries.map Prod.fst).Nodup →
      Fits (.mk .map name [k, v] id) (.collection .map (entries.map fun p => .pair p.1 p.2))
  | message {name : TypeName} {id : MessageId} {content : α} :
      Fits (.mk .message name [] id) (.message content)

/-- The tokens of an entry of a map, given those of keys and of values. -/
def entryTokens (key value : Value α → List (Token α)) : Value α → List (Token α)
  | .pair k v => key k ++ value v
  | _ => []

/-- The tokens of a value of a type. -/
def encode : WireType → Value α → List (Token α)
  | .mk (.scalar _) _ _ _, .scalar d => [.scalar d]
  | .mk (.sequence _) _ [e] _, .collection _ items =>
    .scalar (.int items.length) :: items.flatMap (encode e)
  | .mk .map _ [k, v] _, .collection _ items =>
    .scalar (.int items.length) :: items.flatMap (entryTokens (encode k) (encode v))
  | .mk .message _ _ id, .message content => [.packet id.text content]
  | _, _ => []

/-- A value that fits has tokens. -/
theorem encode_ne_nil {w : WireType} {v : Value α} (h : Fits w v) : encode w v ≠ [] := by
  cases h <;> simp [encode]

/-- The tokens of the fields of a message. -/
def encodeFields (fs : List Field) (message : String → Value α) : List (Token α) :=
  fs.flatMap fun f => encode f.type (message (shown f.name))

@[simp] theorem encodeFields_nil (message : String → Value α) : encodeFields [] message = [] := rfl

@[simp] theorem encodeFields_cons (f : Field) (fs : List Field) (message : String → Value α) :
    encodeFields (f :: fs) message =
      encode f.type (message (shown f.name)) ++ encodeFields fs message := rfl

/-- The second message with the given fields of the first. -/
def overlay (fs : List Field) (message initial : String → Value α) : String → Value α := fun name =>
  if name ∈ fs.map (fun f => shown f.name) then message name else initial name

@[simp] theorem overlay_nil (message initial : String → Value α) :
    overlay [] message initial = initial := by
  funext name
  simp [overlay]

/-- Fields are taken over one after the other. -/
theorem overlay_cons (f : Field) (fs : List Field) (message initial : String → Value α) :
    overlay fs message
        (fun name => if name = shown f.name then message (shown f.name) else initial name) =
      overlay (f :: fs) message initial := by
  funext name
  by_cases first : name = shown f.name
  · simp [overlay, first]
  · simp [overlay, first]

/-! ### Writing -/

/-- Rounds that each put tokens at the end of the buffer put them there one after the other. -/
theorem rounds_write {β : Type} {body : Machine α → Run α} {frame : β → Temps α}
    {tokens : β → List (Token α)} {xs : List β}
    (round : ∀ x ∈ xs, ∀ m : Machine α, body (m.enter (frame x)) =
      .on { m.enter (frame x) with buffer := m.buffer ++ tokens x }) (m : Machine α) :
    rounds body (xs.map frame) m = .on { m with buffer := m.buffer ++ xs.flatMap tokens } := by
  induction xs generalizing m with
  | nil => simp [rounds]
  | cons x xs ih =>
    obtain ⟨first, others⟩ := List.forall_mem_cons.mp round
    have left : ({ m.enter (frame x) with buffer := m.buffer ++ tokens x } : Machine α).leave
        m.temps.length = { m with buffer := m.buffer ++ tokens x } :=
      Machine.leave_append _ _ _ _
    rw [List.map_cons, rounds, first, Run.on_andThen, left, ih others]
    simp

/-- Operands do not look at the buffer. -/
theorem value?_buffer (o : Operand) (m : Machine α) (b : List (Token α)) :
    o.value? { m with buffer := b } = o.value? m := by
  cases o <;> rfl

variable [DecidableEq α]

/-- A size is written as one token. -/
theorem run_writeSize {measure : Measure} {o : Operand} {m : Machine α} {v : Value α} {size : Nat}
    (source : o.value? m = some v) (measured : measure.of? v = some size) :
    (Instruction.writeSize measure o).run m =
      .on { m with buffer := m.buffer ++ [.scalar (.int size)] } := by
  simp [Instruction.run, source, measured, Machine.give]

/-- A loop over a collection writes the tokens of each item. -/
theorem run_forEach {o : Operand} {m : Machine α} {kind : Collection} {items : List (Value α)}
    (source : o.value? m = some (.collection kind items)) {x : String} {body : List Code}
    {tokens : Value α → List (Token α)}
    (round : ∀ v ∈ items, ∀ m : Machine α, runAll body (m.enter [(x, v)]) =
      .on { m.enter [(x, v)] with buffer := m.buffer ++ tokens v }) :
    (Code.block (.forEach x o) body).run m =
      .on { m with buffer := m.buffer ++ items.flatMap tokens } := by
  have frames : (Header.forEach x o).frames? m = some (items.map fun v => [(x, v)]) := by
    simp [Header.frames?, source]
  rw [run_block frames, rounds_write round]

/-- A loop over a map writes the tokens of each entry. -/
theorem run_forPairs {o : Operand} {m : Machine α} {entries : List (Value α × Value α)}
    (source : o.value? m = some (.collection .map (entries.map fun p => .pair p.1 p.2)))
    {k v : String} {body : List Code} {tokens : Value α × Value α → List (Token α)}
    (round : ∀ p ∈ entries, ∀ m : Machine α, runAll body (m.enter [(k, p.1), (v, p.2)]) =
      .on { m.enter [(k, p.1), (v, p.2)] with buffer := m.buffer ++ tokens p }) :
    (Code.block (.forPairs k v o) body).run m =
      .on { m with buffer := m.buffer ++ entries.flatMap tokens } := by
  have frames : (Header.forPairs k v o).frames? m =
      some (entries.map fun p => [(k, p.1), (v, p.2)]) := by
    simp only [Header.frames?, source]
    rw [List.mapM_map]
    exact List.mapM_pure (m := Option)
  rw [run_block frames, rounds_write round]

/-- The code that writes a value puts its tokens at the end of the buffer. -/
theorem runAll_writeCode {t : Target} {w : WireType} {o : Operand} {n next : Nat} {code : List Code}
    (form : WriteCode t w o n code next) {v : Value α} (fits : Fits w v) {m : Machine α}
    (source : o.value? m = some v) :
    runAll code m = .on { m with buffer := m.buffer ++ encode w v } := by
  induction form generalizing v m with
  | scalar =>
    obtain ⟨kind⟩ := fits
    simp [Instruction.run, source, scalarToken?, kind, Machine.give, encode]
  | @sequence k name e id o n next body _ ih =>
    obtain - | ⟨inner, -⟩ := fits
    rename_i items
    have size : (measureOf t (.sequence k)).of? (.collection (collectionOf k) items : Value α) =
        some items.length := by
      cases t <;> cases k <;> rfl
    have round : ∀ v ∈ items, ∀ m : Machine α,
        runAll body (m.enter [(numbered "element" n, v)]) =
          .on { m.enter [(numbered "element" n, v)] with buffer := m.buffer ++ encode e v } :=
      fun v mem m => ih (inner v mem) (by simp [Operand.value?, Machine.enter])
    rw [runAll_cons, run_plain, run_writeSize source size, Run.on_andThen, runAll_cons,
      run_forEach ((value?_buffer o m _).trans source) round, Run.on_andThen, runAll_nil]
    simp [encode]
  | @map name k v id o n mid next keyCode valueCode _ _ ihk ihv =>
    obtain - | - | ⟨keys, values, -⟩ := fits
    rename_i entries
    have size : (measureOf t .map).of?
        (.collection .map (entries.map fun p => .pair p.1 p.2) : Value α) =
          some entries.length := by
      cases t <;> simp [measureOf, Measure.of?]
    have round : ∀ p ∈ entries, ∀ m : Machine α,
        runAll (keyCode ++ valueCode)
            (m.enter [(numbered "key" n, p.1), (numbered "value" n, p.2)]) =
          .on { m.enter [(numbered "key" n, p.1), (numbered "value" n, p.2)] with
            buffer := m.buffer ++ (encode k p.1 ++ encode v p.2) } := by
      intro p mem m
      have apart : numbered "value" n ≠ numbered "key" n := numbered_ne_numbered n n (by decide)
      have value : Operand.value?
          { m.enter [(numbered "key" n, p.1), (numbered "value" n, p.2)] with
            buffer := m.buffer ++ encode k p.1 } (.temp (numbered "value" n)) = some p.2 := by
        simp [Operand.value?, Machine.enter, List.lookup_cons, beq_false_of_ne apart]
      rw [runAll_append, ihk (keys p mem) (by simp [Operand.value?, Machine.enter]), Run.on_andThen]
      refine (ihv (values p mem) value).trans ?_
      simp
    rw [runAll_cons, run_plain, run_writeSize source size, Run.on_andThen, runAll_cons,
      run_forPairs ((value?_buffer o m _).trans source) round, Run.on_andThen, runAll_nil]
    simp [encode, entryTokens, List.flatMap_map]
  | message =>
    cases fits
    simp [Instruction.run, source, packetToken?, Machine.give, encode]

/-! ### Reading -/

section Variables

omit [DecidableEq α]

variable {x : String} {front : Temps α} {v : Value α} (buffer : List (Token α)) (temps : Temps α)
  (fields : String → Value α)

/-- A variable is found behind others. -/
theorem withTemp_of_ne (h : ∀ p ∈ front, x ≠ p.1) (next : Value α → Run α) :
    (⟨buffer, front ++ (x, v) :: temps, fields⟩ : Machine α).withTemp x next = next v := by
  have found : (front ++ (x, v) :: temps).lookup x = some v := by
    induction front with
    | nil => simp
    | cons p ps ih =>
      obtain ⟨first, others⟩ := List.forall_mem_cons.mp h
      rw [List.cons_append, List.lookup_cons, beq_false_of_ne first]
      exact ih others
  rw [Machine.withTemp, found]

/-- A variable is changed behind others. -/
theorem change_of_ne {f : Value α → Option (Value α)} {w : Value α} (h : ∀ p ∈ front, x ≠ p.1)
    (changed : f v = some w) :
    (⟨buffer, front ++ (x, v) :: temps, fields⟩ : Machine α).change x f =
      .on ⟨buffer, front ++ (x, w) :: temps, fields⟩ := by
  have changes : Machine.changeIn x f (front ++ (x, v) :: temps) =
      some (front ++ (x, w) :: temps) := by
    induction front with
    | nil => simp [Machine.changeIn, changed]
    | cons p ps ih =>
      obtain ⟨first, others⟩ := List.forall_mem_cons.mp h
      rw [List.cons_append, Machine.changeIn, if_neg first, ih others]
      rfl
  simp only [Machine.change, changes]

end Variables

omit [DecidableEq α] in
/-- Rounds that each take the tokens of an item from the buffer and add the item to a collection
make the collection of all items. -/
theorem rounds_read {body : Machine α → Run α} {kind : Collection}
    {tokens : Value α → List (Token α)} {size result : String} {bound : Value α} {temps : Temps α}
    {fields : String → Value α} {all : List (Value α)} {frames : List (Temps α)}
    (length : frames.length = all.length)
    (round : ∀ done v after, all = done ++ v :: after → ∀ frame ∈ frames, ∀ rest, ∃ inner,
      body ⟨tokens v ++ rest,
        frame ++ (size, bound) :: (result, .collection kind done) :: temps, fields⟩ =
      .on ⟨rest, inner ++ (size, bound) :: (result, .collection kind (done ++ [v])) :: temps,
        fields⟩) (rest : List (Token α)) :
    rounds body frames
        ⟨all.flatMap tokens ++ rest, (size, bound) :: (result, .collection kind []) :: temps,
          fields⟩ =
      .on ⟨rest, (size, bound) :: (result, .collection kind all) :: temps, fields⟩ := by
  -- the induction is on the items that are left, behind those already in the collection
  have step : ∀ items done : List (Value α), all = done ++ items → ∀ left : List (Temps α),
      (∀ frame ∈ left, frame ∈ frames) → left.length = items.length →
      rounds body left ⟨items.flatMap tokens ++ rest,
        (size, bound) :: (result, .collection kind done) :: temps, fields⟩ =
      .on ⟨rest, (size, bound) :: (result, .collection kind (done ++ items)) :: temps, fields⟩ := by
    intro items
    induction items with
    | nil =>
      intro done _ left _ none
      obtain rfl : left = [] := List.length_eq_zero_iff.mp none
      simp [rounds]
    | cons v items ih =>
      intro done split left sub count
      obtain ⟨frame, left, rfl⟩ : ∃ frame left', left = frame :: left' := by
        cases left with
        | nil => simp at count
        | cons frame left => exact ⟨frame, left, rfl⟩
      obtain ⟨mem, sub⟩ := List.forall_mem_cons.mp sub
      obtain ⟨inner, ran⟩ := round done v items split frame mem (items.flatMap tokens ++ rest)
      have left_eq := Machine.leave_append (items.flatMap tokens ++ rest) inner
        ((size, bound) :: (result, .collection kind (done ++ [v])) :: temps) fields
      have next := ih (done ++ [v]) (by simpa using split) left sub (by simpa using count)
      rw [rounds, Machine.enter, List.flatMap_cons, List.append_assoc, ran, Run.on_andThen]
      simp only [List.length_cons] at left_eq ⊢
      rw [left_eq, next]
      simp
  exact step all [] rfl frames (fun _ mem => mem) length

/-- The code that reads a container takes its size and then its items from the buffer, if each round
takes one item and adds it. -/
theorem runAll_container {n : Nat} {kind : Collection} {body : List Code}
    {tokens : Value α → List (Token α)} {temps : Temps α} {fields : String → Value α}
    {all : List (Value α)}
    (round : ∀ done v after, all = done ++ v :: after → ∀ index bound rest, ∃ inner,
      runAll body ⟨tokens v ++ rest, (numbered "index" n, index) :: (numbered "size" n, bound) ::
        (numbered "result" n, .collection kind done) :: temps, fields⟩ =
      .on ⟨rest, inner ++ (numbered "size" n, bound) ::
        (numbered "result" n, .collection kind (done ++ [v])) :: temps, fields⟩)
    (rest : List (Token α)) :
    runAll [.plain (.create (numbered "result" n) kind), .plain (.read (numbered "size" n) .int),
        .block (.forCount (numbered "index" n) (numbered "size" n)) body]
      ⟨.scalar (.int all.length) :: (all.flatMap tokens ++ rest), temps, fields⟩ =
    .on ⟨rest, (numbered "size" n, .scalar (.int all.length)) ::
      (numbered "result" n, .collection kind all) :: temps, fields⟩ := by
  have frames : (Header.forCount (numbered "index" n) (numbered "size" n)).frames?
      (⟨all.flatMap tokens ++ rest, (numbered "size" n, .scalar (.int all.length)) ::
        (numbered "result" n, .collection kind []) :: temps, fields⟩ : Machine α) =
      some ((List.range all.length).map fun (j : Nat) =>
        [(numbered "index" n, .scalar (.int j))]) := by
    simp [Header.frames?]
  have loop : rounds (runAll body) ((List.range all.length).map fun (j : Nat) =>
        [(numbered "index" n, .scalar (.int j))])
      ⟨all.flatMap tokens ++ rest, (numbered "size" n, .scalar (.int all.length)) ::
        (numbered "result" n, .collection kind []) :: temps, fields⟩ =
      .on ⟨rest, (numbered "size" n, .scalar (.int all.length)) ::
        (numbered "result" n, .collection kind all) :: temps, fields⟩ := by
    refine rounds_read (by simp) (fun done v after split frame mem rest => ?_) rest
    obtain ⟨j, -, rfl⟩ := List.mem_map.mp mem
    exact round done v after split _ _ rest
  rw [runAll_cons, run_plain]
  simp only [Instruction.run, Run.on_andThen]
  rw [runAll_cons, run_plain]
  simp only [Instruction.run, Machine.take, acceptScalar, Datum.kind, if_true, Run.on_andThen]
  rw [runAll_cons, run_block frames, loop, Run.on_andThen, runAll_nil]

/-- The effect of adding an item to a sequence. -/
def inserted : Sequence → Value α → Value α → Option (Value α)
  | .array => appended
  | .list => appended
  | .set => included

/-- Adding an element changes the sequence. -/
theorem run_insertionOf (k : Sequence) (x item : String) (m : Machine α) :
    (insertionOf k x item).run m = m.withTemp item fun v => m.change x (inserted k v) := by
  cases k <;> rfl

/-- An item that a sequence may take goes to its end. -/
theorem inserted_eq {k : Sequence} {items done after : List (Value α)} {v : Value α}
    (split : items = done ++ v :: after) (distinct : k = .set → items.Nodup) :
    inserted k v (.collection (collectionOf k) done) =
      some (.collection (collectionOf k) (done ++ [v])) := by
  cases k with
  | array => rfl
  | list => rfl
  | set =>
    have nodup := distinct rfl
    rw [split, List.nodup_middle, List.nodup_cons] at nodup
    have fresh : v ∉ done := fun mem => nodup.1 (List.mem_append_left _ mem)
    simp [inserted, included, collectionOf, fresh]

/-- The effect of adding an entry to a map. -/
def putBy : Target → Value α → Value α → Value α → Option (Value α)
  | .cpp => putInNew
  | .typescript => putIn

/-- Adding an entry changes the map. -/
theorem run_entryOf (t : Target) (x key value : String) (m : Machine α) :
    (entryOf t x key value).run m =
      m.withTemp key fun k => m.withTemp value fun v => m.change x (putBy t k v) := by
  cases t <;> rfl

/-- An entry with a new key goes to the end of a map. -/
theorem putBy_eq (t : Target) {before : List (Value α × Value α)} {k v : Value α}
    (fresh : k ∉ before.map Prod.fst) :
    putBy t k v (.collection .map (before.map fun p => .pair p.1 p.2)) =
      some (.collection .map (before.map (fun p => .pair p.1 p.2) ++ [.pair k v])) := by
  have none : ((before.map fun p => Value.pair p.1 p.2).any (·.hasKey k)) = false := by
    rw [List.any_eq_false]
    intro item mem
    obtain ⟨p, inside, rfl⟩ := List.mem_map.mp mem
    have other : p.1 ≠ k := fun same => fresh (same ▸ List.mem_map_of_mem inside)
    simpa [Value.hasKey] using other
  cases t with
  | cpp => simp only [putBy, putInNew, none, Bool.false_eq_true, if_false]
  | typescript => simp only [putBy, putIn, none, Bool.false_eq_true, if_false]

omit [DecidableEq α] in
/-- The numbers that reading code uses go up. -/
theorem lt_of_readCode {t : Target} {w : WireType} {n next : Nat} {code : List Code}
    (form : ReadCode t w n code next) : n < next := by
  induction form with
  | scalar => exact Nat.lt_succ_self _
  | sequence _ ih => exact Nat.lt_of_succ_lt ih
  | map _ _ ihk ihv => exact Nat.lt_of_succ_lt (Nat.lt_trans ihk ihv)
  | message => exact Nat.lt_succ_self _

omit [DecidableEq α] in
/-- Variables of sizes are apart from those of results. -/
theorem result_ne_size {sizes : Temps α} {k : Nat} (names : ∀ p ∈ sizes, p.1 = numbered "size" k)
    (n : Nat) : ∀ p ∈ sizes, numbered "result" n ≠ p.1 := fun p mem =>
  names p mem ▸ numbered_ne_numbered n k (by decide)

/-- Variables of results are apart by their numbers. -/
theorem result_ne_result {n m : Nat} (h : n ≠ m) : numbered "result" n ≠ numbered "result" m :=
  fun same => h ((numbered_inj (by decide) (by decide)).mp same).2

section Rounds

variable {n : Nat} {index bound : Value α} {temps : Temps α} (buffer : List (Token α))
  (fields : String → Value α)

/-- A round of reading a sequence adds the element that it has read. -/
theorem run_addElement {k : Sequence} {m : Nat} {items done after : List (Value α)} {v : Value α}
    {sizes : Temps α} (other : n ≠ m) (split : items = done ++ v :: after)
    (distinct : k = .set → items.Nodup) (names : ∀ p ∈ sizes, p.1 = numbered "size" m) :
    (insertionOf k (numbered "result" n) (numbered "result" m)).run
      ⟨buffer, sizes ++ (numbered "result" m, v) :: (numbered "index" n, index) ::
        (numbered "size" n, bound) :: (numbered "result" n, .collection (collectionOf k) done) ::
        temps, fields⟩ =
    .on ⟨buffer, (sizes ++ [(numbered "result" m, v), (numbered "index" n, index)]) ++
      (numbered "size" n, bound) ::
      (numbered "result" n, .collection (collectionOf k) (done ++ [v])) :: temps, fields⟩ := by
  have apart : ∀ p ∈ sizes ++ [(numbered "result" m, v), (numbered "index" n, index),
      (numbered "size" n, bound)], numbered "result" n ≠ p.1 := by
    simp only [List.forall_mem_append, List.forall_mem_cons]
    exact ⟨result_ne_size names n, result_ne_result other,
      numbered_ne_numbered n n (by decide), numbered_ne_numbered n n (by decide), by simp⟩
  rw [run_insertionOf, withTemp_of_ne _ _ _ (result_ne_size names m)]
  have changed := change_of_ne buffer temps fields apart (inserted_eq split distinct)
  simpa using changed

/-- A round of reading a map adds the key and the value that it has read. -/
theorem run_addEntry (t : Target) {i j : Nat} {before : List (Value α × Value α)} {k v : Value α}
    {keySizes valueSizes : Temps α} (key : n ≠ i) (value : n ≠ j) (order : i ≠ j)
    (fresh : k ∉ before.map Prod.fst) (keyNames : ∀ p ∈ keySizes, p.1 = numbered "size" i)
    (valueNames : ∀ p ∈ valueSizes, p.1 = numbered "size" j) :
    (entryOf t (numbered "result" n) (numbered "result" i) (numbered "result" j)).run
      ⟨buffer, valueSizes ++ (numbered "result" j, v) :: (keySizes ++ (numbered "result" i, k) ::
        (numbered "index" n, index) :: (numbered "size" n, bound) ::
        (numbered "result" n, .collection .map (before.map fun p => .pair p.1 p.2)) :: temps),
        fields⟩ =
    .on ⟨buffer, (valueSizes ++ (numbered "result" j, v) :: (keySizes ++
        [(numbered "result" i, k), (numbered "index" n, index)])) ++ (numbered "size" n, bound) ::
      (numbered "result" n,
        .collection .map (before.map (fun p => .pair p.1 p.2) ++ [.pair k v])) ::
      temps, fields⟩ := by
  have keyApart : ∀ p ∈ valueSizes ++ (numbered "result" j, v) :: keySizes,
      numbered "result" i ≠ p.1 := by
    simp only [List.forall_mem_append, List.forall_mem_cons]
    exact ⟨result_ne_size valueNames i, result_ne_result order, result_ne_size keyNames i⟩
  have apart : ∀ p ∈ valueSizes ++ (numbered "result" j, v) :: (keySizes ++
      [(numbered "result" i, k), (numbered "index" n, index), (numbered "size" n, bound)]),
      numbered "result" n ≠ p.1 := by
    simp only [List.forall_mem_append, List.forall_mem_cons]
    exact ⟨result_ne_size valueNames n, result_ne_result value, result_ne_size keyNames n,
      result_ne_result key, numbered_ne_numbered n n (by decide),
      numbered_ne_numbered n n (by decide), by simp⟩
  have found := withTemp_of_ne (v := k) buffer ((numbered "index" n, index) ::
    (numbered "size" n, bound) ::
    (numbered "result" n, .collection .map (before.map fun p => .pair p.1 p.2)) :: temps) fields
    keyApart
  simp only [List.append_assoc, List.cons_append] at found
  rw [run_entryOf, found, withTemp_of_ne _ _ _ (result_ne_size valueNames j)]
  have changed := change_of_ne buffer temps fields apart (putBy_eq t (v := v) fresh)
  simpa using changed

end Rounds

/-- The code that reads a value takes its tokens from the front of the buffer, and declares its
variable with the value, behind at most the variable of a size. -/
theorem runAll_readCode {t : Target} {w : WireType} {n next : Nat} {code : List Code}
    (form : ReadCode t w n code next) {v : Value α} (fits : Fits w v) (rest : List (Token α))
    (temps : Temps α) (fields : String → Value α) :
    ∃ sizes : Temps α, (∀ p ∈ sizes, p.1 = numbered "size" n) ∧
      runAll code ⟨encode w v ++ rest, temps, fields⟩ =
        .on ⟨rest, sizes ++ (numbered "result" n, v) :: temps, fields⟩ := by
  induction form generalizing v rest temps with
  | scalar =>
    obtain ⟨kind⟩ := fits
    refine ⟨[], by simp, ?_⟩
    simp [encode, Instruction.run, Machine.take, acceptScalar, kind]
  | @sequence k name e id n next body form ih =>
    obtain - | ⟨inner, distinct⟩ := fits
    rename_i items
    refine ⟨[(numbered "size" n, .scalar (.int items.length))], by simp, ?_⟩
    refine runAll_container (fun done v after split index bound rest => ?_) rest
    obtain ⟨sizes, names, ran⟩ := ih (inner v (by simp [split])) rest
      ((numbered "index" n, index) :: (numbered "size" n, bound) ::
        (numbered "result" n, .collection (collectionOf k) done) :: temps)
    refine ⟨sizes ++ [(numbered "result" (n + 1), v), (numbered "index" n, index)], ?_⟩
    rw [runAll_append, ran, Run.on_andThen, runAll_cons, run_plain,
      run_addElement rest fields (by omega) split distinct names, Run.on_andThen, runAll_nil]
  | @map name k v id n mid next keyCode valueCode keyForm valueForm ihk ihv =>
    obtain - | - | ⟨keys, values, distinct⟩ := fits
    rename_i entries
    have order := lt_of_readCode keyForm
    refine ⟨[(numbered "size" n, .scalar (.int entries.length))], by simp, ?_⟩
    have tokens : encode (.mk .map name [k, v] id)
        (.collection .map (entries.map fun p => .pair p.1 p.2) : Value α) =
        .scalar (.int (entries.map fun p => Value.pair p.1 p.2).length) ::
          (entries.map fun p => .pair p.1 p.2).flatMap (entryTokens (encode k) (encode v)) := rfl
    have length : entries.length = (entries.map fun p => Value.pair p.1 p.2).length := by simp
    rw [tokens, List.cons_append, length]
    refine runAll_container (fun done item after split index bound rest => ?_) rest
    obtain ⟨before, others, rfl, rfl, cut⟩ := List.map_eq_append_iff.mp split
    obtain ⟨p, behind, rfl, rfl, -⟩ := List.map_eq_cons_iff.mp cut
    obtain ⟨keySizes, keyNames, keyRan⟩ := ihk (keys p (by simp)) (encode v p.2 ++ rest)
      ((numbered "index" n, index) :: (numbered "size" n, bound) ::
        (numbered "result" n, .collection .map (before.map fun p => .pair p.1 p.2)) :: temps)
    obtain ⟨valueSizes, valueNames, valueRan⟩ := ihv (values p (by simp)) rest
      (keySizes ++ (numbered "result" (n + 1), p.1) :: (numbered "index" n, index) ::
        (numbered "size" n, bound) ::
        (numbered "result" n, .collection .map (before.map fun p => .pair p.1 p.2)) :: temps)
    have fresh : p.1 ∉ before.map Prod.fst := by
      rw [List.map_append, List.map_cons, List.nodup_middle, List.nodup_cons] at distinct
      exact fun mem => distinct.1 (List.mem_append_left _ mem)
    refine ⟨valueSizes ++ (numbered "result" mid, p.2) :: (keySizes ++
      [(numbered "result" (n + 1), p.1), (numbered "index" n, index)]), ?_⟩
    rw [entryTokens, List.append_assoc, runAll_append, keyRan, Run.on_andThen, runAll_append,
      valueRan, Run.on_andThen, runAll_cons, run_plain,
      run_addEntry rest fields t (by omega) (by omega) (by omega) fresh keyNames valueNames,
      Run.on_andThen, runAll_nil]
  | message =>
    cases fits
    refine ⟨[], by simp, ?_⟩
    simp [encode, Instruction.run, Machine.take, acceptPacket]

/-- Reading a value from an empty buffer fails. -/
theorem runAll_readCode_failed {t : Target} {w : WireType} {n next : Nat} {code : List Code}
    (form : ReadCode t w n code next) (temps : Temps α) (fields : String → Value α) :
    runAll code ⟨[], temps, fields⟩ = .failed .endOfInput := by
  cases form <;> simp [Instruction.run, Machine.take]

/-! ### Fields -/

/-- The code that writes fields puts their tokens at the end of the buffer. -/
theorem runAll_writeFields {t : Target} {fs : List Field} {n next : Nat} {code : List Code}
    (form : WriteFields t fs n code next) {m : Machine α}
    (fits : ∀ f ∈ fs, Fits f.type (m.fields (shown f.name))) :
    runAll code m = .on { m with buffer := m.buffer ++ encodeFields fs m.fields } := by
  induction form generalizing m with
  | nil => simp
  | cons form _ ih =>
    obtain ⟨first, others⟩ := List.forall_mem_cons.mp fits
    rw [runAll_append, runAll_writeCode form first rfl, Run.on_andThen]
    refine (ih (by exact others)).trans ?_
    simp

/-- A check goes on if something is left to read. -/
theorem runAll_guardCode (tail : Bool) {m : Machine α} (h : m.buffer ≠ []) :
    runAll (guardCode tail) m = .on m := by
  cases tail with
  | false => simp [guardCode]
  | true =>
    have frames : Header.ifUnreadable.frames? m = some [] := by simp [Header.frames?, h]
    simp [guardCode, run_block frames, rounds]

/-- A check returns if nothing is left to read. -/
theorem runAll_guardCode_back {m : Machine α} (h : m.buffer = []) :
    runAll (guardCode true) m = .back m := by
  have frames : Header.ifUnreadable.frames? m = some [[]] := by simp [Header.frames?, h]
  simp [guardCode, run_block frames, rounds, Instruction.run, Machine.enter]

section Fields

variable {t : Target} {n next : Nat} {code : List Code} {message : String → Value α}

/-- The code that reads a field, with its check, takes the field over from its tokens. -/
theorem runAll_readField {f : Field} (form : ReadCode t f.type n code next)
    (fits : Fits f.type (message (shown f.name))) (tail : Bool) (rest : List Code)
    (more : List (Token α)) (temps : Temps α) (initial : String → Value α) :
    ∃ temps', runAll (guardCode tail ++
        (code ++ .plain (.store (shown f.name) (numbered "result" n)) :: rest))
        ⟨encode f.type (message (shown f.name)) ++ more, temps, initial⟩ =
      runAll rest ⟨more, temps',
        fun name => if name = shown f.name then message (shown f.name) else initial name⟩ := by
  obtain ⟨sizes, names, ran⟩ := runAll_readCode form fits more temps initial
  have readable : (⟨encode f.type (message (shown f.name)) ++ more, temps, initial⟩ :
      Machine α).buffer ≠ [] := by
    simp [encode_ne_nil fits]
  refine ⟨sizes ++ (numbered "result" n, message (shown f.name)) :: temps, ?_⟩
  rw [runAll_append, runAll_guardCode tail readable, Run.on_andThen, runAll_append, ran,
    Run.on_andThen, runAll_cons, run_plain, Instruction.run,
    withTemp_of_ne _ _ _ (result_ne_size names n), Run.on_andThen]

/-- The code that reads fields takes the first of them over from their tokens, and goes on as the
code that reads the others. -/
theorem exists_runAll_readFields {tail : Bool} {old new : List Field}
    (form : ReadFields t tail (old ++ new) n code next)
    (fits : ∀ f ∈ old, Fits f.type (message (shown f.name))) (more : List (Token α))
    (temps : Temps α) (initial : String → Value α) :
    ∃ mid rest temps', ReadFields t (tail || old.any Field.isCompatible) new mid rest next ∧
      runAll code ⟨encodeFields old message ++ more, temps, initial⟩ =
        runAll rest ⟨more, temps', overlay old message initial⟩ := by
  induction old generalizing tail n code temps initial with
  | nil => exact ⟨n, code, temps, by simpa using form, by simp⟩
  | cons f old ih =>
    obtain ⟨first, others⟩ := List.forall_mem_cons.mp fits
    obtain - | ⟨form, restForm⟩ := form
    rename_i rest
    obtain ⟨temps', ran⟩ := runAll_readField form first (tail || f.isCompatible) rest
      (encodeFields old message ++ more) temps initial
    obtain ⟨mid, last, temps', lastForm, all⟩ := ih restForm others temps' _
    refine ⟨mid, last, temps', ?_, ?_⟩
    · rwa [Bool.or_assoc, ← List.any_cons] at lastForm
    · rw [encodeFields_cons, List.append_assoc, ran, all, overlay_cons]

/-- The code that reads fields takes them over from their tokens. -/
theorem runAll_readFields {tail : Bool} {fs : List Field} (form : ReadFields t tail fs n code next)
    (fits : ∀ f ∈ fs, Fits f.type (message (shown f.name))) (more : List (Token α))
    (temps : Temps α) (initial : String → Value α) :
    ∃ temps', runAll code ⟨encodeFields fs message ++ more, temps, initial⟩ =
      .on ⟨more, temps', overlay fs message initial⟩ := by
  rw [← List.append_nil fs] at form
  obtain ⟨mid, rest, temps', none, ran⟩ := exists_runAll_readFields form fits more temps initial
  cases none
  exact ⟨temps', by rw [ran, runAll_nil]⟩

/-- The code that reads fields returns at the first check behind the tokens, with the fields before
it taken over. -/
theorem runAll_readFields_back {tail : Bool} {old new : List Field} {g : Field}
    (form : ReadFields t tail (old ++ g :: new) n code next)
    (fits : ∀ f ∈ old, Fits f.type (message (shown f.name)))
    (guarded : (tail || (old ++ [g]).any Field.isCompatible) = true) (temps : Temps α)
    (initial : String → Value α) :
    ∃ temps', runAll code ⟨encodeFields old message, temps, initial⟩ =
      .back ⟨[], temps', overlay old message initial⟩ := by
  obtain ⟨mid, rest, temps', others, ran⟩ := exists_runAll_readFields form fits [] temps initial
  obtain - | ⟨_, _⟩ := others
  have check : (tail || old.any Field.isCompatible || g.isCompatible) = true := by
    simpa [Bool.or_assoc] using guarded
  refine ⟨temps', ?_⟩
  rw [← List.append_nil (encodeFields old message), ran, check, runAll_append,
    runAll_guardCode_back rfl, Run.back_andThen]

/-- The code that reads fields fails behind the tokens if no check stands there. -/
theorem runAll_readFields_failed {tail : Bool} {old new : List Field} {g : Field}
    (form : ReadFields t tail (old ++ g :: new) n code next)
    (fits : ∀ f ∈ old, Fits f.type (message (shown f.name)))
    (unguarded : (tail || (old ++ [g]).any Field.isCompatible) = false) (temps : Temps α)
    (initial : String → Value α) :
    runAll code ⟨encodeFields old message, temps, initial⟩ = .failed .endOfInput := by
  obtain ⟨mid, rest, temps', others, ran⟩ := exists_runAll_readFields form fits [] temps initial
  obtain - | ⟨form, _⟩ := others
  have check : (tail || old.any Field.isCompatible || g.isCompatible) = false := by
    simpa [Bool.or_assoc] using unguarded
  rw [← List.append_nil (encodeFields old message), ran, check, runAll_append]
  simp only [guardCode, Bool.false_eq_true, if_false, runAll_nil, Run.on_andThen]
  rw [runAll_append, runAll_readCode_failed form, Run.failed_andThen]

end Fields

end PacketSmith.Script
