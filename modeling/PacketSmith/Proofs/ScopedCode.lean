import PacketSmith.Proofs.ScopedStatements

/-!
# Generated code is well scoped

The code of a type is code in blocks, for every resolved type, depth and counter: `isCode_write` and
`isCode_read` go through the lines that are emitted, and put together what their statements mention
and declare. What is read in a loop is in scope where it is added to its container, because the code
that reads it declares it outside its own loops.
-/

namespace PacketSmith.Code

open PacketSmith.Script (numbered)

/-! ### The code of a type -/

section Types

variable {t : Target} {types scope own : Set String} {depth : Int} {n next : Nat} {ls : List Line}

/-- A line that only uses variables, before code. -/
theorem IsCode.using {u : String} {rest : List String} (h : IsPlain t types scope ∅ u)
    (code : IsCode t types scope depth rest own) :
    IsCode t types scope depth ((indent depth ++ u) :: rest) own := by
  have both := IsCode.line h (code.mono Set.subset_union_right)
  rwa [Set.empty_union] at both

/-- A loop on its own. -/
theorem IsCode.loop_line {s : Statement} {vars inner : Set String} {body : List Line}
    (h : IsHeader t scope vars (t.statement s))
    (code : IsCode t types (vars ∪ scope) (depth + 1) (body.map t.line) inner) :
    IsCode t types scope depth
      ((⟨depth, s⟩ :: (body ++ [⟨depth, .close⟩])).map t.line) ∅ := by
  have close : t.statement .close = "\x7d" := by cases t <;> rfl
  have whole := IsCode.loop h code .nil
  rw [List.append_nil, loopLines, ← close] at whole
  simpa [Target.line] using whole

/-- The code that writes a value is in blocks. -/
theorem isCode_write {w : WireType} {e : Expr} (h : WriteLines w e depth n ls next)
    (source : IsSource t scope e) : IsCode t types scope depth (ls.map t.line) ∅ := by
  induction h generalizing scope with
  | scalar => exact .using (isPlain_writeScalar _ source) .nil
  | @sequence kind name element id e depth n next body _ ih =>
    have inside : IsSource t ({numbered "element" n} ∪ scope) (.element n) :=
      isSource_of_eq (by decide) (by cases t <;> rfl) (.inl rfl)
    exact .using (isPlain_writeSize _ source)
      (.loop_line (isHeader_forElements n source) (ih inside))
  | @map name k v id e depth n middle next keys values _ _ ihk ihv =>
    have key : IsSource t ({numbered "key" n, numbered "value" n} ∪ scope) (.key n) :=
      isSource_of_eq (by decide) (by cases t <;> rfl) (.inl (.inl rfl))
    have value : IsSource t ({numbered "key" n, numbered "value" n} ∪ scope) (.value n) :=
      isSource_of_eq (by decide) (by cases t <;> rfl) (.inl (.inr rfl))
    have body := (ihk key).append ((ihv value).mono Set.subset_union_right)
    rw [← List.map_append] at body
    rw [← List.append_assoc]
    exact .using (isPlain_writeSize _ source) (.loop_line (isHeader_forEntries n source) body)
  | message => exact .using (isPlain_writeMessage _ source) .nil

/-- What is in scope where the elements of a container are read. -/
def loopScope (scope : Set String) (n : Nat) : Set String :=
  {numbered "index" n} ∪ ({numbered "size" n} ∪ ({numbered "result" n} ∪ scope))

/-- The code that reads a container, given code that reads its elements and adds them. -/
theorem isCode_container {type : String} (h : IsTypeIn types type) (other : type ≠ "return")
    {body : List Line} {inner : Set String}
    (code : IsCode t types (loopScope scope n) (depth + 1) (body.map t.line) inner) :
    ∃ own, IsCode t types scope depth ((⟨depth, .newContainer n type⟩ :: ⟨depth, .readSize n⟩ ::
      ⟨depth, .forCount n⟩ :: (body ++ [⟨depth, .close⟩])).map t.line) own ∧
      numbered "result" n ∈ own :=
  ⟨_, .line (isPlain_newContainer n h other) <| .line (isPlain_readSize n) <|
    .loop_line (isHeader_forCount n (.inl rfl)) code, .inl rfl⟩

/-- The code that reads a value is in blocks, and declares the variable of the value outside its
loops. -/
theorem isCode_read {ids : TypeName.MessageIds} {w : WireType} (resolved : w.Resolved ids)
    (h : ReadLines t w depth n ls next) (scope : Set String) :
    ∃ own, IsCode t (messageNames ids) scope depth (ls.map t.line) own ∧
      numbered "result" n ∈ own := by
  have text : ∀ k, t.expression (.result k) = numbered "result" k := by
    intro k
    cases t <;> rfl
  have container : ∀ (scope : Set String) n, numbered "result" n ∈ loopScope scope n :=
    fun _ _ => .inr (.inr (.inl rfl))
  induction h generalizing scope with
  | @scalar kind name id type depth n spelled =>
    have named := isTypeIn_of_spell t resolved spelled
    have other := ne_return_of_spell t resolved (by simp [WireType.tag]) spelled
    exact ⟨_, .line (isPlain_readScalar n kind named other) .nil, .inl rfl⟩
  | @sequence kind name element id type depth n next body spelled _ ih =>
    have named := isTypeIn_of_spell t resolved spelled
    have other := ne_return_of_spell t resolved (by simp [WireType.tag]) spelled
    cases resolved with
    | sequence inside =>
      obtain ⟨own, element, item⟩ := ih inside (loopScope scope n)
      -- what was read in the loop is in scope where it is added to the container
      have added : IsPlain t (messageNames ids) (own ∪ loopScope scope n) ∅ _ :=
        isPlain_addElement n kind (isSource_of_eq (by decide) (text (n + 1)) (.inl item))
          (.inr (container scope n))
      have both := element.append (.using added .nil)
      rw [show body ++ [⟨depth + 1, .addElement n kind (.result (n + 1))⟩, ⟨depth, .close⟩] =
        (body ++ [⟨depth + 1, .addElement n kind (.result (n + 1))⟩]) ++ [⟨depth, .close⟩] by simp]
      exact isCode_container named other (by rw [List.map_append]; exact both)
  | @map name k v id type depth n middle next keys values spelled _ _ ihk ihv =>
    have named := isTypeIn_of_spell t resolved spelled
    have other := ne_return_of_spell t resolved (by simp [WireType.tag]) spelled
    cases resolved with
    | map insideKey insideValue =>
      obtain ⟨first, key, keyItem⟩ := ihk insideKey (loopScope scope n)
      obtain ⟨second, value, valueItem⟩ := ihv insideValue (first ∪ loopScope scope n)
      have added : IsPlain t (messageNames ids) (second ∪ (first ∪ loopScope scope n)) ∅ _ :=
        isPlain_addEntry n (isSource_of_eq (by decide) (text (n + 1)) (.inr (.inl keyItem)))
          (isSource_of_eq (by decide) (text middle) (.inl valueItem))
          (.inr (.inr (container scope n)))
      have all := key.append (value.append (.using added .nil))
      rw [show keys ++ (values ++ [⟨depth + 1, .addEntry n (.result (n + 1)) (.result middle)⟩,
        ⟨depth, .close⟩]) = (keys ++ (values ++ [⟨depth + 1, .addEntry n (.result (n + 1))
          (.result middle)⟩])) ++ [⟨depth, .close⟩] by simp]
      exact isCode_container named other
        (by rw [List.map_append, List.map_append]; exact all)
  | @message name id type depth n spelled =>
    have named := isTypeIn_of_spell t resolved spelled
    exact ⟨_, .line (isPlain_readMessage n id named) .nil, .inl rfl⟩

end Types

/-! ### Generated code is well scoped -/

/-- The code of a type is emitted for every depth and counter, and is code in blocks that declares
what it mentions. The code that writes may also mention what the given expression does; the code
that reads gives a variable that is declared at its own depth, outside every loop. -/
theorem isWellScoped_of_typeOfText (t : Target) {ids : TypeName.MessageIds} {type : String}
    {w : WireType} (h : typeOfText ids type = .ok w) :
    ∃ c, Generator.prepare t = .ok c ∧ ∀ (depth : Int) (n : Nat),
      (∀ e, isFlat (t.expression e) = true → ∃ ls next, c.write w e depth n = ⟨ls, next, .ok ()⟩ ∧
        IsWellScoped t {x | x ∈ temporaries (t.expression e)} (messageNames ids) depth
          (ls.map t.line)) ∧
      ∃ ls next item, c.read w depth n = ⟨ls, next, .ok item⟩ ∧
        IsWellScoped t ∅ (messageNames ids) depth (ls.map t.line) ∧
        ∃ before u after, ls.map t.line = before ++ (indent depth ++ u) :: after ∧
          Declares t u (t.expression item) ∧ net (chars before) = 0 := by
  obtain ⟨c, prepared, rfl, std⟩ := Script.exists_prepare t
  have resolved := resolved_of_typeOfText h
  refine ⟨c, prepared, fun depth n => ⟨fun e flat => ?_, ?_⟩⟩
  · obtain ⟨ls, next, lines, written⟩ := exists_write std resolved e depth n
    exact ⟨ls, next, written, (isCode_write lines ⟨flat, fun x mem => mem⟩).isWellScoped⟩
  · obtain ⟨ls, next, lines, read⟩ := exists_read std resolved depth n
    obtain ⟨own, code, item⟩ := isCode_read resolved lines ∅
    have text : c.target.expression (.result n) = numbered "result" n := by
      cases c.target <;> rfl
    exact ⟨ls, next, _, read, code.isWellScoped, by rw [text]; exact code.exists_declaration item⟩

/-- The code that writes a map from numbers to sets of messages. -/
theorem isWellScoped_of_typeOfText_nested :
    typeOfText Script.Sample.ids "Map<Integer, Set<Item>>" = .ok Script.Sample.places.type ∧
    isFlat (Target.cpp.expression (.text "source")) = true ∧
    ∃ c, Generator.prepare .cpp = .ok c ∧
      IsWellScoped .cpp {x | x ∈ temporaries "source"} (messageNames Script.Sample.ids) 3
        ((c.write Script.Sample.places.type (.text "source") 3 0).lines.map Target.cpp.line) := by
  have made : typeOfText Script.Sample.ids "Map<Integer, Set<Item>>" =
      .ok Script.Sample.places.type := by cbv
  have flat : isFlat (Target.cpp.expression (.text "source")) = true := by decide
  obtain ⟨c, prepared, code⟩ := isWellScoped_of_typeOfText .cpp made
  obtain ⟨ls, next, written, lines⟩ := (code 3 0).1 (.text "source") flat
  exact ⟨made, flat, c, prepared, by rw [written]; exact lines⟩

end PacketSmith.Code
