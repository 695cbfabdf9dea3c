import PacketSmith.Registry.Build

/-!
# Type names that texts spell, and the wire types they mean

A text that can be read as a type name spells a well-formed one: every head is a name, except that
of an array, which has its element as the only parameter (`TypeName.wellFormed_of_read?`). The
reader is a fold over marks, so the proof is an invariant of its state (`ReaderState.WellFormed`):
all names and types it holds are well formed, and each step keeps them so (`wellFormed_of_step?`).

What a name is resolved to is told by a relation that follows the name (`TypeName.Means`), and the
proofs about meanings are inductions on it. That of a well-formed name has one of four forms
(`WireType.Resolved`): a scalar, a sequence of a resolved element, a map of a resolved key and value,
or a nested message. The name of a resolved type is made from the names of its parameters, and the
number of its parameters is that of its tag. `resolved_of_typeOfText` puts the two parts together
for the texts of fields.
-/

namespace PacketSmith

/-- A result of two steps comes from a result of the first. -/
theorem exists_of_bind_eq_ok {ε α β : Type} {r : Except ε α} {f : α → Except ε β} {b : β}
    (h : (r >>= f) = .ok b) : ∃ a, r = .ok a ∧ f a = .ok b := by
  cases r with
  | error e => cases h
  | ok a => exact ⟨a, rfl, h⟩

namespace TypeName

/-! ### Names -/

/-- The characters are a name: a letter, an underscore or a dollar sign, which digits may follow. -/
def isNameList : List Char → Bool
  | [] => false
  | c :: cs => isNameStart c && cs.all isNamePart

/-- The text is a name. -/
def isName (s : String) : Bool := isNameList s.toList

/-- A name goes on with the characters that may go on a name. -/
theorem isNameList_append {cs ds : List Char} (h : isNameList cs = true)
    (parts : ds.all isNamePart = true) : isNameList (cs ++ ds) = true := by
  cases cs with
  | nil => simp [isNameList] at h
  | cons c cs =>
    simp only [isNameList, Bool.and_eq_true, List.cons_append, List.all_append] at h ⊢
    exact ⟨h.1, h.2, parts⟩

/-- The characters of a name may all go on a name. -/
theorem isNamePart_of_isNameList {cs : List Char} (h : isNameList cs = true) {c : Char}
    (mem : c ∈ cs) : isNamePart c = true := by
  cases cs with
  | nil => simp at mem
  | cons d ds =>
    simp only [isNameList, Bool.and_eq_true, List.all_eq_true] at h
    rcases List.mem_cons.mp mem with rfl | inside
    · simp [isNamePart, h.1]
    · exact h.2 c inside

/-- The head of an array is no name. -/
theorem ne_arrayHead_of_isName {s : String} (h : isName s = true) : s ≠ arrayHead := by
  rintro rfl
  revert h
  decide

/-! ### Well-formed type names -/

/-- The type name is an array of one well-formed element, or a name with well-formed parameters. -/
inductive WellFormed : TypeName → Prop where
  | array {e : TypeName} : WellFormed e → WellFormed (array e)
  | named {h : String} {ps : List TypeName} :
      isName h = true → (∀ p ∈ ps, WellFormed p) → WellFormed (mk h ps)

/-- A name alone is well formed. -/
theorem WellFormed.simple {h : String} (name : isName h = true) : WellFormed (simple h) :=
  .named name (by simp)

/-- The name begun so far is empty or already a name. -/
def PendingName (pending : List Char) : Prop :=
  pending = [] ∨ isNameList pending.reverse = true

/-- One more character that may stand there keeps the name begun so far a name. -/
theorem PendingName.cons {pending : List Char} {c : Char} (h : PendingName pending)
    (fits : (if pending.isEmpty then isNameStart c else isNamePart c) = true) :
    PendingName (c :: pending) := by
  right
  rcases h with rfl | name
  · simpa [isNameList] using fits
  · have nonempty : pending.isEmpty = false := by
      cases pending with
      | nil => simp [isNameList] at name
      | cons => rfl
    rw [nonempty] at fits
    rw [List.reverse_cons]
    exact isNameList_append name (by simpa using fits)

/-- Closing the name begun so far adds at most a mark that is a name. -/
theorem name_of_mem_closeName {pending : List Char} {ms : List Mark} {n : String}
    (h : PendingName pending) (rest : ∀ n, Mark.name n ∈ ms → isName n = true)
    (mem : Mark.name n ∈ closeName pending ms) : isName n = true := by
  unfold closeName at mem
  split at mem
  · exact rest n mem
  · rename_i nonempty
    rcases List.mem_cons.mp mem with same | inside
    · rcases h with rfl | name
      · simp at nonempty
      · injection same with same
        simpa [same, isName] using name
    · exact rest n inside

/-- Every name among the marks of a text is a name. -/
theorem isName_of_mem_marksFrom? {cs pending : List Char} {ms : List Mark}
    (h : marksFrom? pending cs = some ms) (begun : PendingName pending) :
    ∀ n, Mark.name n ∈ ms → isName n = true := by
  fun_induction marksFrom? pending cs generalizing ms with
  | case1 pending =>
    cases h
    intro n mem
    exact name_of_mem_closeName begun (by simp) mem
  | case2 pending c rest fits ih => exact ih h (begun.cons fits)
  | case3 pending c rest _ _ ih =>
    obtain ⟨ns, read, rfl⟩ := Option.map_eq_some_iff.mp h
    intro n mem
    exact name_of_mem_closeName begun (ih read (.inl rfl)) mem
  | case4 pending c rest _ _ m punct ih =>
    obtain ⟨ns, read, rfl⟩ := Option.map_eq_some_iff.mp h
    intro n mem
    refine name_of_mem_closeName begun (fun k inside => ?_) mem
    rcases List.mem_cons.mp inside with same | inside
    · -- a single character is never read as a name
      subst same
      unfold punctuation? at punct
      split at punct <;> cases punct
    · exact ih read (.inl rfl) k inside
  | case5 => simp at h

/-! ### The reader's invariant -/

/-- The names and types that have just been read are well formed. -/
def Reading.WellFormed : Reading → Prop
  | typeStart => True
  | segmentStart => True
  | named h => isName h = true
  | complete t => t.WellFormed
  | bracket t => t.WellFormed

/-- All names and types that the reader holds are well formed. -/
structure ReaderState.WellFormed (s : ReaderState) : Prop where
  /-- What has just been read is well formed. -/
  reading : s.reading.WellFormed
  /-- The generic types still open have names as heads and well-formed parameters. -/
  pending : ∀ g ∈ s.pending, isName g.head = true ∧ ∀ p ∈ g.params, p.WellFormed

/-- A mark behind a well-formed type keeps the reader well formed. -/
theorem wellFormed_of_afterComplete? {t : TypeName} {pending : List OpenGeneric} {m : Mark}
    {s : ReaderState} (h : afterComplete? t pending m = some s) (type : t.WellFormed)
    (inner : ∀ g ∈ pending, isName g.head = true ∧ ∀ p ∈ g.params, p.WellFormed) :
    s.WellFormed := by
  unfold afterComplete? at h
  split at h
  · cases h
    exact ⟨type, inner⟩
  · split at h
    · rename_i g rest
      cases h
      obtain ⟨⟨head, params⟩, outer⟩ := List.forall_mem_cons.mp inner
      refine ⟨trivial, List.forall_mem_cons.mpr ⟨⟨head, ?_⟩, outer⟩⟩
      exact List.forall_mem_cons.mpr ⟨type, params⟩
    · cases h
  · split at h
    · rename_i g rest
      cases h
      obtain ⟨⟨head, params⟩, outer⟩ := List.forall_mem_cons.mp inner
      refine ⟨.named head fun p mem => ?_, outer⟩
      rcases List.mem_cons.mp (List.mem_reverse.mp mem) with rfl | inside
      · exact type
      · exact params p inside
    · cases h
  · cases h

/-- A step of the reader over a mark whose name is a name keeps the reader well formed. -/
theorem wellFormed_of_step? {s s' : ReaderState} {m : Mark} (h : step? s m = some s')
    (inv : s.WellFormed) (name : ∀ n, m = .name n → isName n = true) : s'.WellFormed := by
  obtain ⟨reading, pending⟩ := s
  obtain ⟨hr, hp⟩ := inv
  cases reading with
  | typeStart =>
    cases m <;> simp only [step?, reduceCtorEq, Option.some.injEq] at h
    subst h
    exact ⟨name _ rfl, hp⟩
  | segmentStart =>
    cases m <;> simp only [step?, reduceCtorEq, Option.some.injEq] at h
    subst h
    exact ⟨name _ rfl, hp⟩
  | named head =>
    have simple := WellFormed.simple hr
    cases m <;> simp only [step?, Option.some.injEq] at h
    case dot => subst h; exact ⟨trivial, hp⟩
    case less =>
      subst h
      exact ⟨trivial, List.forall_mem_cons.mpr ⟨⟨hr, by simp⟩, hp⟩⟩
    all_goals exact wellFormed_of_afterComplete? h simple hp
  | complete t =>
    cases m <;> simp only [step?] at h <;> exact wellFormed_of_afterComplete? h hr hp
  | bracket t =>
    cases m <;> simp only [step?, reduceCtorEq, Option.some.injEq] at h
    subst h
    exact ⟨.array hr, hp⟩

/-- Reading marks one after the other keeps the reader well formed. -/
theorem wellFormed_of_foldlM_step? {ms : List Mark} {s s' : ReaderState}
    (h : ms.foldlM step? s = some s') (inv : s.WellFormed)
    (names : ∀ n, Mark.name n ∈ ms → isName n = true) : s'.WellFormed := by
  induction ms generalizing s with
  | nil => cases h; exact inv
  | cons m ms ih =>
    rw [List.foldlM_cons] at h
    obtain ⟨next, first, rest⟩ := Option.bind_eq_some_iff.mp h
    refine ih rest (wellFormed_of_step? first inv fun n same => ?_) fun n mem => ?_
    · exact names n (by simp [same])
    · exact names n (List.mem_cons_of_mem _ mem)

/-- Every type name that a text spells is well formed. -/
theorem wellFormed_of_read? {s : String} {t : TypeName} (h : read? s = some t) :
    t.WellFormed := by
  obtain ⟨ms, marks, read⟩ := Option.bind_eq_some_iff.mp h
  obtain ⟨last, fold, finish⟩ := Option.bind_eq_some_iff.mp read
  have names := isName_of_mem_marksFrom? marks (.inl rfl)
  have inv : last.WellFormed :=
    wellFormed_of_foldlM_step? fold ⟨trivial, by simp [ReaderState.start]⟩ names
  unfold ReaderState.finish? at finish
  split at finish
  · cases finish
    exact .simple inv.reading
  · cases finish
    exact inv.reading
  · cases finish

end TypeName

/-! ### Resolved types -/

/-- The name of a sequence of the given kind and element. -/
def Sequence.typeName : Sequence → TypeName → TypeName
  | array, e => .array e
  | list, e => .mk "List" [e]
  | set, e => .mk "Set" [e]

/-- The wire type is the meaning of a well-formed type name, given the ids of the messages: each tag
has the parameters of its kind, and the name is made from those of the parameters. -/
inductive WireType.Resolved (ids : TypeName.MessageIds) : WireType → Prop where
  | scalar {word : String} {kind : Scalar} :
      TypeName.primitives.lookup word = some kind →
      Resolved ids (.mk (.scalar kind) (.simple word) [] .null)
  | sequence {kind : Sequence} {e : WireType} :
      Resolved ids e → Resolved ids (.mk (.sequence kind) (kind.typeName e.name) [e] .null)
  | map {k v : WireType} :
      Resolved ids k → Resolved ids v →
      Resolved ids (.mk .map (.mk "Map" [k.name, v.name]) [k, v] .null)
  | message {head : String} {id : MessageId} :
      TypeName.isName head = true → TypeName.primitives.lookup head = none →
      ids.lookup head = some id → Resolved ids (.mk .message (.simple head) [] id)

namespace TypeName

variable {ids : MessageIds}

/-- What a name means, if it has a meaning. An array means that of its first parameter, however many
there are; the other containers have as many as they take. -/
inductive Means (ids : MessageIds) : TypeName → WireType → Prop where
  | array {p : TypeName} {ps : List TypeName} {e : WireType} : Means ids p e →
      Means ids (mk arrayHead (p :: ps)) (.mk (.sequence .array) (mk arrayHead (p :: ps)) [e] .null)
  | list {p : TypeName} {e : WireType} : Means ids p e →
      Means ids (mk "List" [p]) (.mk (.sequence .list) (mk "List" [p]) [e] .null)
  | set {p : TypeName} {e : WireType} : Means ids p e →
      Means ids (mk "Set" [p]) (.mk (.sequence .set) (mk "Set" [p]) [e] .null)
  | map {p q : TypeName} {k v : WireType} : Means ids p k → Means ids q v →
      Means ids (mk "Map" [p, q]) (.mk .map (mk "Map" [p, q]) [k, v] .null)
  | scalar {head : String} {kind : Scalar} : head ≠ arrayHead →
      primitives.lookup head = some kind →
      Means ids (simple head) (.mk (.scalar kind) (simple head) [] .null)
  | message {head : String} {id : MessageId} : head ≠ arrayHead →
      primitives.lookup head = none → ids.lookup head = some id →
      Means ids (simple head) (.mk .message (simple head) [] id)

/-- The meaning of a name keeps the name. -/
theorem Means.name_eq {t : TypeName} {w : WireType} (h : Means ids t w) : w.name = t := by
  cases h <;> rfl

/-- The meanings of some names begin with the meaning of the first. -/
theorem resolveAll_cons {t : TypeName} {ts : List TypeName} {ws : List WireType}
    (h : resolveAll ids (t :: ts) = .ok ws) :
    ∃ w rest, ws = w :: rest ∧ t.resolve ids = .ok w ∧ resolveAll ids ts = .ok rest := by
  unfold resolveAll at h
  obtain ⟨w, first, h⟩ := exists_of_bind_eq_ok h
  obtain ⟨rest, others, h⟩ := exists_of_bind_eq_ok h
  cases h
  exact ⟨w, rest, rfl, first, others⟩

/-- No names have no meanings. -/
theorem resolveAll_nil {ws : List WireType} (h : resolveAll ids [] = .ok ws) : ws = [] := by
  cases h
  rfl

/-- A container head fixes the tag and the number of parameters. -/
theorem container_cases {head : String} {tag : Tag} {arity : Nat}
    (h : containers.lookup head = some (tag, arity)) :
    (head = "List" ∧ tag = .sequence .list ∧ arity = 1) ∨
    (head = "Set" ∧ tag = .sequence .set ∧ arity = 1) ∨
    (head = "Map" ∧ tag = .map ∧ arity = 2) := by
  simp only [containers, List.lookup_cons, List.lookup_nil] at h
  split at h
  · rename_i same
    cases h
    exact .inl ⟨by simpa using same, rfl, rfl⟩
  · split at h
    · rename_i same
      cases h
      exact .inr (.inl ⟨by simpa using same, rfl, rfl⟩)
    · split at h
      · rename_i same
        cases h
        exact .inr (.inr ⟨by simpa using same, rfl, rfl⟩)
      · cases h

/-- What a name is resolved to is what it means. -/
theorem means_of_resolve : ∀ (t : TypeName) (w : WireType), t.resolve ids = .ok w → Means ids t w
  | mk head params, w, h => by
    unfold resolve at h
    split at h
    · rename_i isArray
      obtain rfl : head = arrayHead := by simpa using isArray
      obtain ⟨element, inner, h⟩ := exists_of_bind_eq_ok h
      cases h
      cases params with
      | nil => cases inner
      | cons p ps => exact .array (means_of_resolve p element inner)
    · rename_i plain
      have plain : head ≠ arrayHead := by simpa using plain
      cases params with
      | nil =>
        simp only at h
        split at h
        · rename_i kind found
          cases h
          exact .scalar plain found
        · rename_i absent
          split at h
          · rename_i id found
            cases h
            exact .message plain absent found
          · cases h
      | cons p ps =>
        simp only at h
        split at h
        · split at h <;> cases h
        · rename_i tag arity found
          split at h
          · cases h
          · rename_i fits
            simp only [ne_eq, Decidable.not_not] at fits
            obtain ⟨inner, all, h⟩ := exists_of_bind_eq_ok h
            cases h
            obtain ⟨first, others, rfl, hp, all⟩ := resolveAll_cons all
            have inside := means_of_resolve p first hp
            rcases container_cases found with ⟨rfl, rfl, rfl⟩ | ⟨rfl, rfl, rfl⟩ | ⟨rfl, rfl, rfl⟩
            · obtain rfl : ps = [] := by simpa using fits
              obtain rfl := resolveAll_nil all
              exact .list inside
            · obtain rfl : ps = [] := by simpa using fits
              obtain rfl := resolveAll_nil all
              exact .set inside
            · cases ps with
              | nil => simp at fits
              | cons q qs =>
                obtain rfl : qs = [] := by simpa using fits
                obtain ⟨second, others, rfl, hq, all⟩ := resolveAll_cons all
                obtain rfl := resolveAll_nil all
                exact .map inside (means_of_resolve q second hq)

theorem name_of_resolve {t : TypeName} {w : WireType} (h : t.resolve ids = .ok w) : w.name = t :=
  (means_of_resolve t w h).name_eq

/-- The meaning of a well-formed name is a resolved type. -/
theorem resolved_of_resolve {t : TypeName} {w : WireType} (wf : t.WellFormed)
    (h : t.resolve ids = .ok w) : w.Resolved ids := by
  have named : ∀ {head : String} {ps : List TypeName}, (mk head ps).WellFormed →
      head ≠ arrayHead → isName head = true ∧ ∀ p ∈ ps, p.WellFormed := by
    intro head ps wf plain
    cases wf with
    | array => exact absurd rfl plain
    | named name inside => exact ⟨name, inside⟩
  have means := means_of_resolve t w h
  clear h
  induction means with
  | array inside ih =>
    obtain rfl := inside.name_eq
    cases wf with
    | array wf => exact .sequence (ih wf)
    | named name _ => exact absurd rfl (ne_arrayHead_of_isName name)
  | list inside ih =>
    obtain rfl := inside.name_eq
    exact .sequence (ih ((named wf (by decide)).2 _ List.mem_cons_self))
  | set inside ih =>
    obtain rfl := inside.name_eq
    exact .sequence (ih ((named wf (by decide)).2 _ List.mem_cons_self))
  | map key value ihk ihv =>
    obtain rfl := key.name_eq
    obtain rfl := value.name_eq
    obtain ⟨-, all⟩ := named wf (by decide)
    exact .map (ihk (all _ (by simp))) (ihv (all _ (by simp)))
  | scalar _ found => exact .scalar found
  | message plain absent found => exact .message (named wf plain).1 absent found

end TypeName

/-- The type of a field that a text gives is a resolved type. -/
theorem resolved_of_typeOfText {ids : TypeName.MessageIds} {text : String} {w : WireType}
    (h : typeOfText ids text = .ok w) : w.Resolved ids := by
  unfold typeOfText at h
  split at h
  · rename_i t read
    exact TypeName.resolved_of_resolve (TypeName.wellFormed_of_read? read) h
  · cases h

end PacketSmith
