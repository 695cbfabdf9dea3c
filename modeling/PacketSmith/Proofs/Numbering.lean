import PacketSmith.Proofs.Temporaries

/-!
# Numbers in the order of types

The numbers of temporaries have a closed form, the same for all targets (`numbers_of_resolve`). The
code that writes a value takes one number for each container in its type, and the code that reads a
value takes one for each type in it. They are given in pre-order: behind the counter, a type has the
number of its position on the walk (`openings_write`, `openings_read`).

The fields of a message follow each other, so the numbers of a field begin behind those of all
fields before it, and those for reading begin behind all that were taken for writing.
-/

namespace PacketSmith

/-- The tag is that of a container. -/
def Tag.isContainer : Tag → Bool
  | sequence _ => true
  | map => true
  | _ => false

/-- The containers in a type, itself included, each before those inside it. -/
def WireType.containers (w : WireType) : List WireType := w.walk.filter (·.tag.isContainer)

/-- All types in fields, field by field in the order of the walk. -/
def Field.types (fs : List Field) : List WireType := fs.flatMap (·.type.walk)

/-- All containers in fields, field by field in the order of the walk. -/
def Field.containers (fs : List Field) : List WireType := fs.flatMap (·.type.containers)

namespace Code

/-! ### Statements that begin with a number -/

/-- The statement, if it is the first that has its number: it declares a result or opens a loop over
a container. -/
def Statement.opening (s : Statement) : List Statement :=
  if s.declared.any fun v => [Role.result, .element, .key].contains v.role then [s] else []

/-- The statements of lines that are the first with their numbers. -/
def openings (ls : List Line) : List Statement := ls.flatMap (·.statement.opening)

/-- What a statement stores in a field. -/
def Statement.stored : Statement → List (String × Expr)
  | store field item => [(field, item)]
  | _ => []

/-- What lines store in fields, in order. -/
def stored (ls : List Line) : List (String × Expr) := ls.flatMap (·.statement.stored)

/-- The statement opens the loop over a container of a type, with a number. -/
inductive OpensLoop : WireType × Nat → Statement → Prop where
  | sequence {w : WireType} {kind : Sequence} {n : Nat} {e : Expr} : w.tag = .sequence kind →
      OpensLoop (w, n) (.forElements n e)
  | map {w : WireType} {n : Nat} {e : Expr} : w.tag = .map → OpensLoop (w, n) (.forEntries n e)

/-- The statement declares the result of a number, for a value of a type. -/
inductive DeclaresResult (t : Target) : WireType × Nat → Statement → Prop where
  | scalar {w : WireType} {kind : Scalar} {n : Nat} {type : String} : w.tag = .scalar kind →
      t.spelling.spell w.name = .ok type →
      DeclaresResult t (w, n) (.readScalar n kind (t.annotated type))
  | container {w : WireType} {n : Nat} {type : String} : w.tag.isContainer = true →
      t.spelling.spell w.name = .ok type → DeclaresResult t (w, n) (.newContainer n type)
  | message {w : WireType} {n : Nat} {type : String} : w.tag = .message →
      t.spelling.spell w.name = .ok type →
      DeclaresResult t (w, n) (.readMessage n w.id (t.annotated type))

@[simp] theorem openings_nil : openings [] = [] := rfl

@[simp] theorem openings_cons (l : Line) (ls : List Line) :
    openings (l :: ls) = l.statement.opening ++ openings ls := rfl

@[simp] theorem openings_append (ls ms : List Line) :
    openings (ls ++ ms) = openings ls ++ openings ms := List.flatMap_append

@[simp] theorem stored_nil : stored [] = [] := rfl

@[simp] theorem stored_cons (l : Line) (ls : List Line) :
    stored (l :: ls) = l.statement.stored ++ stored ls := rfl

@[simp] theorem stored_append (ls ms : List Line) : stored (ls ++ ms) = stored ls ++ stored ms :=
  List.flatMap_append

/-- Numbers are given to one list of types and then to another. -/
theorem forall₂_zipIdx_append {R : WireType × Nat → Statement → Prop} {us ws : List WireType}
    {n : Nat} {ss rs : List Statement} (h : List.Forall₂ R (us.zipIdx n) ss)
    (k : List.Forall₂ R (ws.zipIdx (n + us.length)) rs) :
    List.Forall₂ R ((us ++ ws).zipIdx n) (ss ++ rs) := by
  rw [List.zipIdx_append]
  exact List.rel_append h k

/-! ### The code of a type -/

section Types

variable {t : Target} {w : WireType} {e : Expr} {depth : Int} {n next : Nat} {ls : List Line}

/-- The code that writes a value takes a number for each container, in the order of the walk. -/
theorem openings_write (h : WriteLines w e depth n ls next) :
    next = n + w.containers.length ∧
      List.Forall₂ OpensLoop (w.containers.zipIdx n) (openings ls) := by
  induction h with
  | scalar => exact ⟨rfl, .nil⟩
  | @sequence kind name element id e depth n next body _ ih =>
    obtain ⟨rfl, inside⟩ := ih
    have own : (WireType.mk (.sequence kind) name [element] id).containers =
        .mk (.sequence kind) name [element] id :: element.containers := by
      simp [WireType.containers, WireType.walk, WireType.walkAll, WireType.tag, Tag.isContainer]
    rw [own]
    refine ⟨by rw [List.length_cons]; omega, ?_⟩
    simpa [Statement.opening, Statement.declared] using ⟨.sequence rfl, inside⟩
  | @map name k v id e depth n middle next keys values _ _ ihk ihv =>
    obtain ⟨rfl, inKey⟩ := ihk
    obtain ⟨rfl, inValue⟩ := ihv
    have own : (WireType.mk .map name [k, v] id).containers =
        .mk .map name [k, v] id :: (k.containers ++ v.containers) := by
      simp [WireType.containers, WireType.walk, WireType.walkAll, WireType.tag, Tag.isContainer]
    rw [own]
    refine ⟨by rw [List.length_cons, List.length_append]; omega, ?_⟩
    have both := forall₂_zipIdx_append inKey inValue
    simpa [Statement.opening, Statement.declared] using ⟨.map rfl, both⟩
  | message => exact ⟨rfl, .nil⟩

/-- The code that reads a value takes a number for each type in it, in the order of the walk. -/
theorem openings_read (h : ReadLines t w depth n ls next) :
    next = n + w.walk.length ∧ List.Forall₂ (DeclaresResult t) (w.walk.zipIdx n) (openings ls) := by
  induction h with
  | scalar spelled => exact ⟨rfl, .cons (.scalar rfl spelled) .nil⟩
  | @sequence kind name element id type depth n next body spelled _ ih =>
    obtain ⟨rfl, inside⟩ := ih
    have own : (WireType.mk (.sequence kind) name [element] id).walk =
        .mk (.sequence kind) name [element] id :: element.walk := by
      simp [WireType.walk, WireType.walkAll]
    rw [own]
    refine ⟨by rw [List.length_cons]; omega, ?_⟩
    simpa [Statement.opening, Statement.declared] using ⟨.container rfl spelled, inside⟩
  | @map name k v id type depth n middle next keys values spelled _ _ ihk ihv =>
    obtain ⟨rfl, inKey⟩ := ihk
    obtain ⟨rfl, inValue⟩ := ihv
    have own : (WireType.mk .map name [k, v] id).walk =
        .mk .map name [k, v] id :: (k.walk ++ v.walk) := by
      simp [WireType.walk, WireType.walkAll]
    rw [own]
    refine ⟨by rw [List.length_cons, List.length_append]; omega, ?_⟩
    have both := forall₂_zipIdx_append inKey inValue
    simpa [Statement.opening, Statement.declared] using ⟨.container rfl spelled, both⟩
  | message spelled => exact ⟨rfl, .cons (.message rfl spelled) .nil⟩

/-- The code that reads a value stores nothing. -/
theorem stored_read (h : ReadLines t w depth n ls next) : stored ls = [] := by
  induction h with
  | scalar => rfl
  | sequence _ _ ih => simpa [Statement.stored] using ih
  | map _ _ _ ihk ihv => simpa [Statement.stored] using ⟨ihk, ihv⟩
  | message => rfl

end Types

/-! ### The code of fields -/

section Fields

variable {t : Target} {tail : Bool} {fs : List Field} {n next : Nat} {ls : List Line}

/-- The code that writes fields takes a number for each container in them, in order. -/
theorem next_writeFields (h : WriteFieldLines t fs n ls next) :
    next = n + (Field.containers fs).length := by
  induction h with
  | nil => rfl
  | cons lines _ ih =>
    rw [ih, (openings_write lines).1]
    simp [Field.containers, Nat.add_assoc]

/-- The code that reads fields takes a number for each type in them, and stores each field from the
first of its numbers. -/
theorem next_readFields (h : ReadFieldLines t tail fs n ls next) :
    next = n + (Field.types fs).length ∧
      ∀ k : Nat, (stored ls)[k]? = fs[k]?.map fun f : Field =>
        (shown f.name, Expr.result (n + (Field.types (fs.take k)).length)) := by
  induction h with
  | nil => simp [Field.types]
  | @cons tail f fs n middle next ls ms lines _ ih =>
    obtain ⟨rfl, rest⟩ := ih
    obtain ⟨rfl, -⟩ := openings_read lines
    have check : stored (Target.checkLines t (tail || f.isCompatible)) = [] := by
      cases t <;> cases tail || f.isCompatible <;> rfl
    refine ⟨by simp [Field.types, Nat.add_assoc], fun k => ?_⟩
    rw [stored_append, check, List.nil_append, stored_append, stored_read lines, List.nil_append]
    cases k with
    | zero => simp [Field.types, Statement.stored]
    | succ k => simpa [Field.types, Statement.stored, Nat.add_assoc] using rest k

end Fields

/-- For every target, the code that writes a value of a type that a name means takes one number for
each container in the type, the code that reads one takes one for each type in it, and numbers are
given in pre-order; a value is read into `result` with the first number. So the field at a place of
a message is stored from the result whose number is that of all containers in the message and all
types in the fields before it. -/
theorem numbers_of_resolve (t : Target) :
    ∃ c, Generator.prepare t = .ok c ∧
      (∀ ids name w, TypeName.resolve ids name = .ok w →
        (∀ e depth n, ∃ ls, c.write w e depth n = ⟨ls, n + w.containers.length, .ok ()⟩ ∧
          List.Forall₂ OpensLoop (w.containers.zipIdx n) (openings ls)) ∧
        ∀ depth n, ∃ ls, c.read w depth n = ⟨ls, n + w.walk.length, .ok (.result n)⟩ ∧
          List.Forall₂ (DeclaresResult t) (w.walk.zipIdx n) (openings ls)) ∧
      (∀ n, t.expression (.result n) = "result" ++ toString n) ∧
      ∀ m : Message, (∀ f ∈ m.fields, ∃ ids name, TypeName.resolve ids name = .ok f.type) →
        ∃ written read middle last, c.writeFields m.fields 0 = ⟨written, middle, .ok ()⟩ ∧
          c.readFields false m.fields middle = ⟨read, last, .ok ()⟩ ∧
          middle = (Field.containers m.fields).length ∧
          last = middle + (Field.types m.fields).length ∧
          (∀ k : Nat, (stored read)[k]? = m.fields[k]?.map fun f : Field =>
            (shown f.name, Expr.result (middle + (Field.types (m.fields.take k)).length))) ∧
          ∀ x r p, x.coder = c → OutputContext.messageParts x r m = .ok p →
            p.writeBody = t.fragment written ∧ p.readBody = t.fragment read := by
  obtain ⟨c, prepared, rfl, std⟩ := Script.exists_prepare t
  have spelled : ∀ ids name w, TypeName.resolve ids name = .ok w → w.Spelled c.target :=
    fun ids name w h => (TypeName.means_of_resolve name w h).spelled _
  refine ⟨c, prepared, fun ids name w h => ⟨fun e depth n => ?_, fun depth n => ?_⟩, fun n => ?_,
    fun m typed => ?_⟩
  · obtain ⟨ls, next, lines, emitted⟩ := exists_writeLines std (spelled ids name w h) e depth n
    obtain ⟨rfl, numbers⟩ := openings_write lines
    exact ⟨ls, emitted, numbers⟩
  · obtain ⟨ls, next, lines, emitted⟩ := exists_readLines std (spelled ids name w h) depth n
    obtain ⟨rfl, numbers⟩ := openings_read lines
    exact ⟨ls, emitted, numbers⟩
  · cases c.target <;> rfl
  · have all : ∀ f ∈ m.fields, f.type.Spelled c.target := by
      intro f mem
      obtain ⟨ids, name, means⟩ := typed f mem
      exact spelled ids name f.type means
    obtain ⟨written, middle, writeLines, hw⟩ := exists_writeFieldLines std all 0
    obtain ⟨read, last, readLines, hr⟩ := exists_readFieldLines std all false middle
    obtain ⟨count, fields⟩ := next_readFields readLines
    refine ⟨written, read, middle, last, hw, hr, ?_, count, fields, fun x r p same laid => ?_⟩
    · simpa using next_writeFields writeLines
    · subst same
      have bodies := (Script.bodies_of_messageParts laid).symm.trans
        (Script.bodies_eq (by rw [hw]) (by rw [hw, hr]))
      rw [hw, hr] at bodies
      exact Prod.mk.inj (Except.ok.inj bodies)

/-- Behind three containers in all and a first field of four types, the second field is stored from
the result with number seven, in both targets. -/
theorem numbers_of_resolve_catalogue :
    (∀ f ∈ Sample.catalogue.fields, TypeName.resolve Script.Sample.ids f.type.name = .ok f.type) ∧
    ∃ c d, Generator.prepare .cpp = .ok c ∧ Generator.prepare .typescript = .ok d ∧
      (stored (c.readFields false Sample.catalogue.fields 3).lines)[1]? =
        some ("tags", .result 7) ∧
      (stored (d.readFields false Sample.catalogue.fields 3).lines)[1]? =
        some ("tags", .result 7) := by
  have typed : ∀ f ∈ Sample.catalogue.fields,
      TypeName.resolve Script.Sample.ids f.type.name = .ok f.type := by
    rw [Sample.catalogue, List.forall_mem_cons, List.forall_mem_singleton]
    exact ⟨rfl, rfl⟩
  have each : ∀ t, ∃ c, Generator.prepare t = .ok c ∧
      (stored (c.readFields false Sample.catalogue.fields 3).lines)[1]? =
        some ("tags", .result 7) := by
    intro t
    obtain ⟨c, prepared, -, -, message⟩ := numbers_of_resolve t
    obtain ⟨written, read, middle, last, -, emitted, containers, -, fields, -⟩ :=
      message Sample.catalogue fun f mem => ⟨Script.Sample.ids, f.type.name, typed f mem⟩
    have three : (Field.containers Sample.catalogue.fields).length = 3 := by decide
    rw [three] at containers
    subst containers
    refine ⟨c, prepared, ?_⟩
    rw [emitted]
    exact fields 1
  obtain ⟨c, cpp, first⟩ := each .cpp
  obtain ⟨d, typescript, second⟩ := each .typescript
  exact ⟨typed, c, d, cpp, typescript, first, second⟩

end Code
end PacketSmith
