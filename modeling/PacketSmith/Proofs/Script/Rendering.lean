import PacketSmith.Proofs.Script.Lexing

/-!
# Rendered statements are read back

The text of every statement that serializers emit is read as the instruction or block that the
statement stands for, in both targets.

Lexemes that end a sentence are read on their own, whatever follows (`Says`); this is a matter of
where sentences end (`isSentenceFrom`). The lexemes of a statement are those of its fixed parts,
which are computed, and of the names inside it. Each `says_` lemma gives them and reads them.
-/

namespace PacketSmith.Script

open PacketSmith.Code
open PacketSmith.TypeName (isNameStart isNamePart isNameList isName)

/-! ### Sentences -/

/-- What the lexemes say, whatever follows them. -/
def Says (t : Target) (ls : List Lexeme) (ps : List Piece) : Prop :=
  ∀ more, pieces? t (ls ++ more) = (pieces? t more).map (ps ++ ·)

/-- No lexemes say nothing. -/
theorem Says.nil (t : Target) : Says t [] [] := by
  intro more
  simp

/-- What lexemes say follows what the lexemes before say. -/
theorem Says.append {t : Target} {ls ks : List Lexeme} {ps qs : List Piece} (h : Says t ls ps)
    (k : Says t ks qs) : Says t (ls ++ ks) (ps ++ qs) := by
  intro more
  rw [List.append_assoc, h, k, Option.map_map]
  congr 1
  funext rest
  simp

/-- What lexemes say is what they say when nothing follows. -/
theorem Says.pieces {t : Target} {ls : List Lexeme} {ps : List Piece} (h : Says t ls ps) :
    pieces? t ls = some ps := by
  have whole := h []
  rw [List.append_nil] at whole
  rw [whole]
  simp [pieces?, sentences, sentencesFrom]

/-- The lexemes, behind a number of open parentheses, end one sentence and no other. -/
def isSentenceFrom : Nat → List Lexeme → Bool
  | _, [] => false
  | depth, l :: ls =>
    if l = .mark '\x7b' ∨ l = .mark '\x7d' ∨ (l = .mark ';' ∧ depth = 0) then ls.isEmpty
    else if l = .mark '(' then isSentenceFrom (depth + 1) ls
    else if l = .mark ')' then isSentenceFrom (depth - 1) ls
    else isSentenceFrom depth ls

/-- A sentence ends where its lexemes do. -/
theorem sentencesFrom_of_isSentenceFrom {depth : Nat} {ls : List Lexeme}
    (h : isSentenceFrom depth ls = true) (current more : List Lexeme) :
    sentencesFrom depth current (ls ++ more) =
      (current.reverse ++ ls) :: sentencesFrom 0 [] more := by
  fun_induction isSentenceFrom depth ls generalizing current with
  | case1 => simp at h
  | case2 depth l ls last =>
    obtain rfl : ls = [] := by simpa using h
    rw [List.singleton_append, sentencesFrom, if_pos last]
    simp
  | case3 depth ls _ ih =>
    rw [List.cons_append, sentencesFrom, if_neg (by simp), if_pos rfl, ih h]
    simp
  | case4 depth ls _ _ ih =>
    rw [List.cons_append, sentencesFrom, if_neg (by simp), if_neg (by simp), if_pos rfl, ih h]
    simp
  | case5 depth l ls inner opening closing ih =>
    rw [List.cons_append, sentencesFrom, if_neg inner, if_neg opening, if_neg closing, ih h]
    simp

/-- A sentence says its piece. -/
theorem says_sentence {t : Target} {ls : List Lexeme} {p : Piece} (h : isSentenceFrom 0 ls = true)
    (piece : piece? t ls = some p) : Says t ls [p] := by
  intro more
  have cut := sentencesFrom_of_isSentenceFrom h [] more
  rw [List.reverse_nil, List.nil_append] at cut
  rw [pieces?, sentences, cut, List.mapM_cons, piece, pieces?, sentences]
  cases (sentencesFrom 0 [] more).mapM (piece? t) <;> rfl

/-- The lexeme can stand anywhere in a sentence: it neither ends it nor is a parenthesis. -/
def isQuiet (l : Lexeme) : Bool :=
  l != .mark '\x7b' && l != .mark '\x7d' && l != .mark ';' && l != .mark '(' && l != .mark ')'

/-- Quiet lexemes at the front do not matter to where a sentence ends. -/
theorem isSentenceFrom_append {ls : List Lexeme} (h : ls.all isQuiet = true) (depth : Nat)
    (rest : List Lexeme) : isSentenceFrom depth (ls ++ rest) = isSentenceFrom depth rest := by
  induction ls with
  | nil => rfl
  | cons l ls ih =>
    rw [List.all_cons, Bool.and_eq_true] at h
    obtain ⟨quiet, all⟩ := h
    simp only [isQuiet, Bool.and_eq_true, bne_iff_ne, ne_eq] at quiet
    obtain ⟨⟨⟨⟨opens, closes⟩, ends⟩, left⟩, right⟩ := quiet
    rw [List.cons_append, isSentenceFrom, if_neg (by simp [opens, closes, ends]), if_neg left,
      if_neg right, ih all]

/-! ### Expressions -/

/-- The operand that an expression denotes. -/
def operandOf : Expr → Operand
  | .text s => .temp s
  | .field f => .field f
  | .element n => .temp (numbered "element" n)
  | .key n => .temp (numbered "key" n)
  | .value n => .temp (numbered "value" n)
  | .result n => .temp (numbered "result" n)

/-- The expression is a variable, or a field with a name. -/
def isPlain : Expr → Bool
  | .text _ => false
  | .field f => isName f
  | _ => true

/-- The path denotes the operand, and no operand if it goes on. -/
structure Denotes (t : Target) (p : String) (names : List String) (o : Operand) : Prop where
  /-- The text is the path. -/
  spells : Spells p names
  /-- The path denotes the operand. -/
  operand : operand? t names = some o
  /-- A longer path denotes none. -/
  alone : ∀ s, operand? t (names ++ [s]) = none

/-- A variable's name denotes the variable. -/
theorem denotes_numbered (t : Target) {word : String} (n : Nat) (h : isName word = true) :
    Denotes t (numbered word n) [numbered word n] (.temp (numbered word n)) := by
  have packet : numbered word n ≠ "packet" := numbered_ne n (by decide)
  have message : numbered word n ≠ "message" := numbered_ne n (by decide)
  refine ⟨.single (isSegment_of_isName (isName_numbered h n)), ?_, fun s => ?_⟩
  · cases t <;> simp [operand?]
  · cases t <;> simp [operand?, packet, message]

/-- A variable's name is one lexeme. -/
theorem lexemes_numbered (word : String) (n : Nat) (h : isName word = true) :
    lexemes (numbered word n) = [.path [numbered word n]] :=
  lexemes_of_isSegment (isSegment_of_isName (isName_numbered h n))

/-- The text of a plain expression denotes its operand. -/
theorem denotes_expression (t : Target) {e : Expr} (h : isPlain e = true) :
    ∃ names, Denotes t (t.expression e) names (operandOf e) := by
  cases e with
  | text s => cases h
  | field f =>
    have name := isSegment_of_isName (h : isName f = true)
    cases t with
    | cpp =>
      have path : Spells ("message" ++ "->" ++ f) ["message", f] :=
        .arrow (.single (by decide)) name
      exact ⟨["message", f], path, rfl, fun s => by simp [operand?]⟩
    | typescript =>
      have path : Spells ("packet" ++ "." ++ f) ["packet", f] := .dot (.single (by decide)) name
      exact ⟨["packet", f], path, rfl, fun s => by simp [operand?]⟩
  | element n => cases t <;> exact ⟨_, denotes_numbered _ n (by decide)⟩
  | key n => cases t <;> exact ⟨_, denotes_numbered _ n (by decide)⟩
  | value n => cases t <;> exact ⟨_, denotes_numbered _ n (by decide)⟩
  | result n => cases t <;> exact ⟨_, denotes_numbered _ n (by decide)⟩

/-! ### Writing -/

/-- The end of the names of the buffer's functions for a scalar. -/
def suffixOf : Target → Scalar → String
  | .cpp => Cpp.suffix
  | .typescript => TypeScript.suffix

theorem scalar?_suffixOf (t : Target) (k : Scalar) :
    scalar? t "write" ("write" ++ suffixOf t k) = some k ∧
      scalar? t "read" ("read" ++ suffixOf t k) = some k := by
  cases t <;> cases k <;> exact ⟨rfl, rfl⟩

/-- A function of the buffer is one path. -/
theorem lexemes_buffer {name : String} (h : isSegment name = true) :
    lexemes ("buffer." ++ name) = [.path ["buffer", name]] :=
  (Spells.dot (p := "buffer") (.single (by decide)) h).lexemes

theorem isSegment_write (t : Target) (k : Scalar) : isSegment ("write" ++ suffixOf t k) = true := by
  cases t <;> cases k <;> decide

/-- Writing a scalar is read back. -/
theorem says_writeScalar (t : Target) (k : Scalar) {e : Expr} (h : isPlain e = true) :
    Says t (lexemes (t.statement (.writeScalar k e))) [.plain (.write k (operandOf e))] := by
  obtain ⟨names, denotes⟩ := denotes_expression t h
  have text : t.statement (.writeScalar k e) =
      "buffer." ++ ("write" ++ suffixOf t k) ++ "(" ++ t.expression e ++ ");" := by
    simp only [← String.append_assoc, String.reduceAppend]
    cases t <;> rfl
  have lexed : lexemes (t.statement (.writeScalar k e)) =
      [.path ["buffer", "write" ++ suffixOf t k], .mark '(', .path names, .mark ')',
        .mark ';'] := by
    rw [text, lexemes_append_right (by decide), lexemes_around (by decide),
      lexemes_buffer (isSegment_write t k), denotes.spells.lexemes]
    rfl
  have name : "write" ++ suffixOf t k ≠ "writePacket" := by
    cases t <;> cases k <;> decide
  rw [lexed]
  refine says_sentence rfl ?_
  simp [piece?, memberSentence?, call?, name, (scalar?_suffixOf t k).1, denotes.operand]

/-- How a target asks a container for its size. -/
def measureOf : Target → Container → Measure
  | .cpp, _ => .any
  | .typescript, .sequence .array => .length
  | .typescript, .sequence .list => .length
  | .typescript, .sequence .set => .size
  | .typescript, .map => .size

/-- Writing a size is read back. -/
theorem says_writeSize (t : Target) (c : Container) {e : Expr} (h : isPlain e = true) :
    Says t (lexemes (t.statement (.writeSize c e)))
      [.plain (.writeSize (measureOf t c) (operandOf e))] := by
  obtain ⟨names, denotes⟩ := denotes_expression t h
  cases t with
  | cpp =>
    have text : Target.cpp.statement (.writeSize c e) =
        "buffer.writeInt(" ++ (Target.cpp.expression e ++ "." ++ "size") ++ "());" := by
      change "buffer.writeInt(" ++ Target.cpp.expression e ++ ".size());" = _
      simp only [String.append_assoc, String.reduceAppend]
    have lexed : lexemes (Target.cpp.statement (.writeSize c e)) =
        [.path ["buffer", "writeInt"], .mark '(', .path (names ++ ["size"]), .mark '(', .mark ')',
          .mark ')', .mark ';'] := by
      rw [text, lexemes_append_right (by decide), lexemes_append_left (by decide),
        (denotes.spells.dot (by decide)).lexemes]
      rfl
    have kind : scalar? .cpp "write" "writeInt" = some .int := rfl
    rw [lexed]
    refine says_sentence rfl ?_
    simp [piece?, memberSentence?, call?, kind, writeSize?, measure?, denotes.operand, measureOf]
  | typescript =>
    have text : Target.typescript.statement (.writeSize c e) =
        "buffer.writeInt(" ++ (Target.typescript.expression e ++ "." ++ TypeScript.sizeOf c) ++
          ");" := by
      simp only [← String.append_assoc]
      rfl
    have property : isSegment (TypeScript.sizeOf c) = true := by
      cases c with
      | sequence k => cases k <;> decide
      | map => decide
    have lexed : lexemes (Target.typescript.statement (.writeSize c e)) =
        [.path ["buffer", "writeInt"], .mark '(', .path (names ++ [TypeScript.sizeOf c]), .mark ')',
          .mark ';'] := by
      rw [text, lexemes_append_right (by decide), lexemes_append_left (by decide),
        (denotes.spells.dot property).lexemes]
      rfl
    have kind : scalar? .typescript "write" "writeInt" = some .int := rfl
    have measure : measure? .typescript (TypeScript.sizeOf c) = some (measureOf .typescript c) := by
      cases c with
      | sequence k => cases k <;> rfl
      | map => rfl
    rw [lexed]
    refine says_sentence rfl ?_
    simp [piece?, memberSentence?, call?, kind, denotes.alone, writeSize?, measure, denotes.operand]

/-- A loop over the elements of a sequence is read back. -/
theorem says_forElements (t : Target) (n : Nat) {e : Expr} (h : isPlain e = true) :
    Says t (lexemes (t.statement (.forElements n e)))
      [.opening (.forEach (numbered "element" n) (operandOf e))] := by
  obtain ⟨names, denotes⟩ := denotes_expression t h
  have element := lexemes_numbered "element" n (by decide)
  have operand := denotes.operand
  cases t with
  | cpp =>
    have text : Target.cpp.statement (.forElements n e) =
        "for (const auto &" ++ numbered "element" n ++ " : " ++ Target.cpp.expression e ++
          ") \x7b" := by
      simp only [numbered, ← String.append_assoc, String.reduceAppend]
      rfl
    have lexed : lexemes (Target.cpp.statement (.forElements n e)) =
        [.path ["for"], .mark '(', .path ["const"], .path ["auto"], .mark '&',
          .path [numbered "element" n], .mark ':', .path names, .mark ')', .mark '\x7b'] := by
      rw [text, lexemes_append_right (by decide), lexemes_around (by decide),
        lexemes_append_left (by decide), element, denotes.spells.lexemes]
      rfl
    rw [lexed]
    refine says_sentence rfl ?_
    simp [piece?, wordSentence?, loop?, cppLoop?, operand]
  | typescript =>
    have text : Target.typescript.statement (.forElements n e) =
        "for (const " ++ numbered "element" n ++ " of " ++ Target.typescript.expression e ++
          ") \x7b" := by
      simp only [numbered, ← String.append_assoc, String.reduceAppend]
      rfl
    have lexed : lexemes (Target.typescript.statement (.forElements n e)) =
        [.path ["for"], .mark '(', .path ["const"], .path [numbered "element" n], .path ["of"],
          .path names, .mark ')', .mark '\x7b'] := by
      rw [text, lexemes_append_right (by decide), lexemes_around (by decide),
        lexemes_append_left (by decide), element, denotes.spells.lexemes]
      rfl
    rw [lexed]
    refine says_sentence rfl ?_
    simp [piece?, wordSentence?, loop?, typeScriptLoop?, operand]

/-- A loop over the entries of a map is read back. -/
theorem says_forEntries (t : Target) (n : Nat) {e : Expr} (h : isPlain e = true) :
    Says t (lexemes (t.statement (.forEntries n e)))
      [.opening (.forPairs (numbered "key" n) (numbered "value" n) (operandOf e))] := by
  obtain ⟨names, denotes⟩ := denotes_expression t h
  have key := lexemes_numbered "key" n (by decide)
  have value := lexemes_numbered "value" n (by decide)
  have operand := denotes.operand
  cases t with
  | cpp =>
    have text : Target.cpp.statement (.forEntries n e) =
        "for (const auto &[" ++ numbered "key" n ++ ", " ++ numbered "value" n ++ "] : " ++
          Target.cpp.expression e ++ ") \x7b" := by
      refine String.toList_inj.mp ?_
      dsimp only [Target.statement, Cpp.statement, Target.expression]
      simp [numbered]
    have lexed : lexemes (Target.cpp.statement (.forEntries n e)) =
        [.path ["for"], .mark '(', .path ["const"], .path ["auto"], .mark '&', .mark '[',
          .path [numbered "key" n], .mark ',', .path [numbered "value" n], .mark ']', .mark ':',
          .path names, .mark ')', .mark '\x7b'] := by
      rw [text, lexemes_append_right (by decide), lexemes_around (by decide),
        lexemes_around (by decide), lexemes_append_left (by decide), key, value,
        denotes.spells.lexemes]
      rfl
    rw [lexed]
    refine says_sentence rfl ?_
    simp [piece?, wordSentence?, loop?, cppLoop?, operand]
  | typescript =>
    have text : Target.typescript.statement (.forEntries n e) =
        "for (const [" ++ numbered "key" n ++ ", " ++ numbered "value" n ++ "] of " ++
          Target.typescript.expression e ++ ") \x7b" := by
      refine String.toList_inj.mp ?_
      dsimp only [Target.statement, TypeScript.statement, Target.expression]
      simp [numbered]
    have lexed : lexemes (Target.typescript.statement (.forEntries n e)) =
        [.path ["for"], .mark '(', .path ["const"], .mark '[', .path [numbered "key" n], .mark ',',
          .path [numbered "value" n], .mark ']', .path ["of"], .path names, .mark ')',
          .mark '\x7b'] := by
      rw [text, lexemes_append_right (by decide), lexemes_around (by decide),
        lexemes_around (by decide), lexemes_append_left (by decide), key, value,
        denotes.spells.lexemes]
      rfl
    rw [lexed]
    refine says_sentence rfl ?_
    simp [piece?, wordSentence?, loop?, typeScriptLoop?, operand]

/-- The text of an id is quiet, and is read back. -/
theorem id?_lexemes (id : MessageId) :
    (lexemes id.text).all isQuiet = true ∧
      ∀ rest, id? (lexemes id.text ++ rest) = some (id.text, rest) := by
  rcases lexemes_id id with alone | ⟨s, text, dashed⟩
  · rw [alone]
    exact ⟨rfl, fun rest => rfl⟩
  · rw [dashed, text]
    exact ⟨rfl, fun rest => rfl⟩

/-- Writing a nested message is read back. -/
theorem says_writeMessage (t : Target) (id : MessageId) {e : Expr} (h : isPlain e = true) :
    Says t (lexemes (t.statement (.writeMessage e id)))
      [.plain (.writePacket (operandOf e) id.text)] := by
  obtain ⟨names, denotes⟩ := denotes_expression t h
  obtain ⟨quiet, read⟩ := id?_lexemes id
  have operand := denotes.operand
  cases t with
  | cpp =>
    have lexed : lexemes (Target.cpp.statement (.writeMessage e id)) =
        .path ["buffer", "writePacket"] :: .mark '(' :: .mark '&' :: .path names :: .mark ',' ::
          (lexemes id.text ++ [.mark ')', .mark ';']) := by
      change lexemes ("buffer.writePacket(&" ++ Target.cpp.expression e ++ ", " ++ id.text ++
        ");") = _
      rw [lexemes_append_right (by decide), lexemes_around (by decide),
        lexemes_append_left (by decide), denotes.spells.lexemes]
      rfl
    rw [lexed]
    refine says_sentence ?_ ?_
    · change isSentenceFrom 1 (lexemes id.text ++ _) = true
      rw [isSentenceFrom_append quiet]
      rfl
    · simp [piece?, memberSentence?, call?, writePacket?, operand, read]
  | typescript =>
    have lexed : lexemes (Target.typescript.statement (.writeMessage e id)) =
        .path ["buffer", "writePacket"] :: .mark '(' :: .path names :: .mark ',' ::
          (lexemes id.text ++ [.mark ')', .mark ';']) := by
      change lexemes ("buffer.writePacket(" ++ Target.typescript.expression e ++ ", " ++ id.text ++
        ");") = _
      rw [lexemes_append_right (by decide), lexemes_around (by decide),
        lexemes_append_left (by decide), denotes.spells.lexemes]
      rfl
    rw [lexed]
    refine says_sentence ?_ ?_
    · change isSentenceFrom 1 (lexemes id.text ++ _) = true
      rw [isSentenceFrom_append quiet]
      rfl
    · simp [piece?, memberSentence?, call?, writePacket?, operand, read]

/-! ### Reading -/

theorem isSegment_read (t : Target) (k : Scalar) : isSegment ("read" ++ suffixOf t k) = true := by
  cases t <;> cases k <;> decide

/-- The text can be the type of a declared scalar: a word that begins no other sentence. -/
def isScalarType (s : String) : Bool :=
  isSegment s && s != "return" && s != "if" && s != "for"

/-- Reading a scalar is read back. -/
theorem says_readScalar (t : Target) (n : Nat) (k : Scalar) (type : Option String)
    (h : t.annotates = true → ∃ s, type = some s ∧ isScalarType s = true) :
    Says t (lexemes (t.statement (.readScalar n k type)))
      [.plain (.read (numbered "result" n) k)] := by
  have result := lexemes_numbered "result" n (by decide)
  have function := lexemes_buffer (isSegment_read t k)
  have kind := (scalar?_suffixOf t k).2
  cases t with
  | cpp =>
    obtain ⟨s, rfl, hs⟩ := h rfl
    simp only [isScalarType, Bool.and_eq_true, bne_iff_ne, ne_eq] at hs
    obtain ⟨⟨⟨segment, notReturn⟩, notIf⟩, notFor⟩ := hs
    have text : Target.cpp.statement (.readScalar n k (some s)) =
        s ++ " " ++ numbered "result" n ++ " = " ++ ("buffer." ++ ("read" ++ suffixOf .cpp k)) ++
          "();" := by
      refine String.toList_inj.mp ?_
      dsimp only [Target.statement, Cpp.statement, Option.getD, suffixOf]
      simp [numbered]
    have lexed : lexemes (Target.cpp.statement (.readScalar n k (some s))) =
        [.path [s], .path [numbered "result" n], .mark '=',
          .path ["buffer", "read" ++ suffixOf .cpp k], .mark '(', .mark ')', .mark ';'] := by
      rw [text, lexemes_append_right (by decide), lexemes_around (by decide),
        lexemes_around (by decide), lexemes_of_isSegment segment, result, function]
      rfl
    rw [lexed]
    refine says_sentence rfl ?_
    simp [piece?, wordSentence?, notReturn, notIf, notFor, declaration?, cppDeclaration?, kind]
  | typescript =>
    have text : Target.typescript.statement (.readScalar n k type) =
        "const " ++ numbered "result" n ++ " = " ++
          ("buffer." ++ ("read" ++ suffixOf .typescript k)) ++ "();" := by
      refine String.toList_inj.mp ?_
      dsimp only [Target.statement, TypeScript.statement, suffixOf]
      simp [numbered]
    have lexed : lexemes (Target.typescript.statement (.readScalar n k type)) =
        [.path ["const"], .path [numbered "result" n], .mark '=',
          .path ["buffer", "read" ++ suffixOf .typescript k], .mark '(', .mark ')', .mark ';'] := by
      rw [text, lexemes_append_right (by decide), lexemes_around (by decide),
        lexemes_append_left (by decide), result, function]
      rfl
    have name : "read" ++ suffixOf .typescript k ≠ "readPacket" := by
      cases k <;> decide
    rw [lexed]
    refine says_sentence rfl ?_
    simp [piece?, wordSentence?, declaration?, typeScriptDeclaration?, name, kind]

/-- The text is the type of a container, which a target declares as a collection. -/
structure DeclaresCollection (t : Target) (type : String) (kind : Collection) : Prop where
  /-- The text is a head with arguments between brackets. -/
  lexemes : ∃ head args, lexemes type = .path [head] :: .mark '<' :: args ∧
    collection? t head = some kind ∧ args.all isQuiet = true ∧
    ∀ more, afterArguments? 1 (args ++ more) = some more

/-- Declaring an empty container is read back. -/
theorem says_newContainer (t : Target) (n : Nat) {type : String} {kind : Collection}
    (h : DeclaresCollection t type kind) :
    Says t (lexemes (t.statement (.newContainer n type)))
      [.plain (.create (numbered "result" n) kind)] := by
  obtain ⟨head, args, lexedType, collection, quiet, closes⟩ := h.lexemes
  have result := lexemes_numbered "result" n (by decide)
  cases t with
  | cpp =>
    have text : Target.cpp.statement (.newContainer n type) =
        type ++ " " ++ numbered "result" n ++ ";" := by
      refine String.toList_inj.mp ?_
      dsimp only [Target.statement, Cpp.statement]
      simp [numbered]
    have lexed : lexemes (Target.cpp.statement (.newContainer n type)) =
        .path [head] :: .mark '<' :: (args ++ [.path [numbered "result" n], .mark ';']) := by
      rw [text, lexemes_append_right (by decide), lexemes_around (by decide), lexedType, result]
      simp [show lexemes " " = [] from rfl, show lexemes ";" = [.mark ';'] from rfl]
    have words : head ≠ "return" ∧ head ≠ "if" ∧ head ≠ "for" := by
      refine ⟨?_, ?_, ?_⟩ <;> rintro rfl <;> cases collection
    rw [lexed]
    refine says_sentence ?_ ?_
    · change isSentenceFrom 0 (args ++ _) = true
      rw [isSentenceFrom_append quiet]
      rfl
    · simp [piece?, wordSentence?, words, declaration?, cppDeclaration?, collection, closes]
  | typescript =>
    have text : Target.typescript.statement (.newContainer n type) =
        "const " ++ numbered "result" n ++ " = new " ++ type ++ "();" := by
      refine String.toList_inj.mp ?_
      dsimp only [Target.statement, TypeScript.statement]
      simp [numbered]
    have lexed : lexemes (Target.typescript.statement (.newContainer n type)) =
        .path ["const"] :: .path [numbered "result" n] :: .mark '=' :: .path ["new"] ::
          .path [head] :: .mark '<' :: (args ++ [.mark '(', .mark ')', .mark ';']) := by
      rw [text, lexemes_append_right (by decide), lexemes_around (by decide),
        lexemes_append_left (by decide), lexedType, result]
      simp [show lexemes "const " = [.path ["const"]] from rfl,
        show lexemes " = new " = [.mark '=', .path ["new"]] from rfl,
        show lexemes "();" = [.mark '(', .mark ')', .mark ';'] from rfl]
    rw [lexed]
    refine says_sentence ?_ ?_
    · change isSentenceFrom 0 (args ++ _) = true
      rw [isSentenceFrom_append quiet]
      rfl
    · simp [piece?, wordSentence?, declaration?, typeScriptDeclaration?, collection, closes]

/-- Reading a size is read back. -/
theorem says_readSize (t : Target) (n : Nat) :
    Says t (lexemes (t.statement (.readSize n))) [.plain (.read (numbered "size" n) .int)] := by
  have size := lexemes_numbered "size" n (by decide)
  cases t with
  | cpp =>
    have text : Target.cpp.statement (.readSize n) =
        "auto " ++ numbered "size" n ++ " = buffer.readInt();" := by
      simp only [numbered, ← String.append_assoc, String.reduceAppend]
      rfl
    have lexed : lexemes (Target.cpp.statement (.readSize n)) =
        [.path ["auto"], .path [numbered "size" n], .mark '=', .path ["buffer", "readInt"],
          .mark '(', .mark ')', .mark ';'] := by
      rw [text, lexemes_append_right (by decide), lexemes_append_left (by decide), size]
      rfl
    rw [lexed]
    exact says_sentence rfl rfl
  | typescript =>
    have text : Target.typescript.statement (.readSize n) =
        "const " ++ numbered "size" n ++ " = buffer.readInt();" := by
      simp only [numbered, ← String.append_assoc, String.reduceAppend]
      rfl
    have lexed : lexemes (Target.typescript.statement (.readSize n)) =
        [.path ["const"], .path [numbered "size" n], .mark '=', .path ["buffer", "readInt"],
          .mark '(', .mark ')', .mark ';'] := by
      rw [text, lexemes_append_right (by decide), lexemes_append_left (by decide), size]
      rfl
    rw [lexed]
    exact says_sentence rfl rfl

/-- A loop that counts is read back. -/
theorem says_forCount (t : Target) (n : Nat) :
    Says t (lexemes (t.statement (.forCount n)))
      [.opening (.forCount (numbered "index" n) (numbered "size" n))] := by
  have index := lexemes_numbered "index" n (by decide)
  have size := lexemes_numbered "size" n (by decide)
  obtain ⟨word, text, segment, reads⟩ : ∃ word, t.statement (.forCount n) =
      "for (" ++ word ++ " " ++ numbered "index" n ++ " = 0; " ++ numbered "index" n ++ " < " ++
        numbered "size" n ++ "; " ++ numbered "index" n ++ "++) \x7b" ∧
      isSegment word = true ∧ ∀ ls, loop? t (.path [word] :: ls) = countLoop? ls := by
    cases t with
    | cpp =>
      refine ⟨"int", String.toList_inj.mp ?_, by decide, fun ls => rfl⟩
      dsimp only [Target.statement, Cpp.statement]
      simp [numbered]
    | typescript =>
      refine ⟨"let", String.toList_inj.mp ?_, by decide, fun ls => rfl⟩
      dsimp only [Target.statement, TypeScript.statement]
      simp [numbered]
  have lexed : lexemes (t.statement (.forCount n)) =
      [.path ["for"], .mark '(', .path [word], .path [numbered "index" n], .mark '=', .path ["0"],
        .mark ';', .path [numbered "index" n], .mark '<', .path [numbered "size" n], .mark ';',
        .path [numbered "index" n], .mark '+', .mark '+', .mark ')', .mark '\x7b'] := by
    rw [text, lexemes_append_right (by decide), lexemes_around (by decide),
      lexemes_around (by decide), lexemes_around (by decide), lexemes_around (by decide),
      lexemes_append_left (by decide), lexemes_of_isSegment segment, index, size]
    rfl
  rw [lexed]
  refine says_sentence rfl ?_
  simp [piece?, wordSentence?, reads, countLoop?]

/-- What adding an element to a sequence does. -/
def insertionOf : Sequence → String → String → Instruction
  | .array => .append
  | .list => .append
  | .set => .addMember

/-- Adding an element is read back. -/
theorem says_addElement (t : Target) (n : Nat) (k : Sequence) (m : Nat) :
    Says t (lexemes (t.statement (.addElement n k (.result m))))
      [.plain (insertionOf k (numbered "result" n) (numbered "result" m))] := by
  have item := lexemes_numbered "result" m (by decide)
  have owner : numbered "result" n ≠ "buffer" := numbered_ne n (by decide)
  obtain ⟨name, text, segment, reads⟩ : ∃ name, t.statement (.addElement n k (.result m)) =
      (numbered "result" n ++ "." ++ name) ++ "(" ++ numbered "result" m ++ ");" ∧
      isSegment name = true ∧ ∀ x y, insertion? t x name [.path [y], .mark ')', .mark ';'] =
        some (insertionOf k x y) := by
    cases t with
    | cpp => exact ⟨Cpp.insertion k, rfl, by cases k <;> decide, by cases k <;> intros <;> rfl⟩
    | typescript =>
      exact ⟨TypeScript.insertion k, rfl, by cases k <;> decide, by cases k <;> intros <;> rfl⟩
  have path : Spells (numbered "result" n ++ "." ++ name) [numbered "result" n, name] :=
    .dot (denotes_numbered t n (by decide)).spells segment
  rw [text, lexemes_append_right (by decide), lexemes_around (by decide), path.lexemes, item]
  refine says_sentence rfl ?_
  change memberSentence? t (numbered "result" n) name
    [.mark '(', .path [numbered "result" m], .mark ')', .mark ';'] = _
  simp [memberSentence?, owner, reads]

/-- What adding an entry to a map does. -/
def entryOf : Target → String → String → String → Instruction
  | .cpp => .putNew
  | .typescript => .put

/-- Adding an entry is read back. -/
theorem says_addEntry (t : Target) (n k v : Nat) :
    Says t (lexemes (t.statement (.addEntry n (.result k) (.result v))))
      [.plain (entryOf t (numbered "result" n) (numbered "result" k) (numbered "result" v))] := by
  have key := lexemes_numbered "result" k (by decide)
  have value := lexemes_numbered "result" v (by decide)
  have owner : numbered "result" n ≠ "buffer" := numbered_ne n (by decide)
  obtain ⟨name, text, segment, reads⟩ : ∃ name,
      t.statement (.addEntry n (.result k) (.result v)) =
        (numbered "result" n ++ "." ++ name) ++ "(" ++ numbered "result" k ++ ", " ++
          numbered "result" v ++ ");" ∧
      isSegment name = true ∧ ∀ x y z, insertion? t x name
        [.path [y], .mark ',', .path [z], .mark ')', .mark ';'] = some (entryOf t x y z) := by
    cases t with
    | cpp =>
      refine ⟨"emplace", String.toList_inj.mp ?_, by decide, fun _ _ _ => rfl⟩
      dsimp only [Target.statement, Cpp.statement, Cpp.expression, Expr.render]
      simp [numbered]
    | typescript =>
      refine ⟨"set", String.toList_inj.mp ?_, by decide, fun _ _ _ => rfl⟩
      dsimp only [Target.statement, TypeScript.statement, TypeScript.expression, Expr.render]
      simp [numbered]
  have path : Spells (numbered "result" n ++ "." ++ name) [numbered "result" n, name] :=
    .dot (denotes_numbered t n (by decide)).spells segment
  rw [text, lexemes_append_right (by decide), lexemes_around (by decide),
    lexemes_around (by decide), path.lexemes, key, value]
  refine says_sentence rfl ?_
  change memberSentence? t (numbered "result" n) name
    [.mark '(', .path [numbered "result" k], .mark ',', .path [numbered "result" v], .mark ')',
      .mark ';'] = _
  simp [memberSentence?, owner, reads]

/-- Reading a nested message is read back. -/
theorem says_readMessage (t : Target) (n : Nat) (id : MessageId) (type : Option String)
    (h : t.annotates = true → ∃ s, type = some s ∧ isSegment s = true) :
    Says t (lexemes (t.statement (.readMessage n id type)))
      [.plain (.readPacket (numbered "result" n) id.text)] := by
  have result := lexemes_numbered "result" n (by decide)
  obtain ⟨quiet, read⟩ := id?_lexemes id
  cases t with
  | cpp =>
    obtain ⟨s, rfl, segment⟩ := h rfl
    have text : Target.cpp.statement (.readMessage n id (some s)) =
        "auto " ++ numbered "result" n ++ " = *((" ++ s ++ " *) buffer.readPacket(" ++ id.text ++
          ").get());" := by
      simp only [numbered, ← String.append_assoc, String.reduceAppend]
      rfl
    have lexed : lexemes (Target.cpp.statement (.readMessage n id (some s))) =
        .path ["auto"] :: .path [numbered "result" n] :: .mark '=' :: .mark '*' :: .mark '(' ::
          .mark '(' :: .path [s] :: .mark '*' :: .mark ')' :: .path ["buffer", "readPacket"] ::
          .mark '(' :: (lexemes id.text ++
            [.mark ')', .path ["", "get"], .mark '(', .mark ')', .mark ')', .mark ';']) := by
      rw [text, lexemes_append_right (by decide), lexemes_around (by decide),
        lexemes_around (by decide), lexemes_append_left (by decide), result,
        lexemes_of_isSegment segment, List.append_assoc _ (lexemes id.text)]
      rfl
    rw [lexed]
    refine says_sentence ?_ ?_
    · change isSentenceFrom 2 (lexemes id.text ++ _) = true
      rw [isSentenceFrom_append quiet]
      rfl
    · simp [piece?, wordSentence?, declaration?, cppDeclaration?, read]
  | typescript =>
    have text : Target.typescript.statement (.readMessage n id type) =
        "const " ++ numbered "result" n ++ " = buffer.readPacket(" ++ id.text ++ ");" := by
      simp only [numbered, ← String.append_assoc, String.reduceAppend]
      rfl
    have lexed : lexemes (Target.typescript.statement (.readMessage n id type)) =
        .path ["const"] :: .path [numbered "result" n] :: .mark '=' ::
          .path ["buffer", "readPacket"] :: .mark '(' ::
          (lexemes id.text ++ [.mark ')', .mark ';']) := by
      rw [text, lexemes_append_right (by decide), lexemes_around (by decide),
        lexemes_append_left (by decide), result, List.append_assoc _ (lexemes id.text)]
      rfl
    rw [lexed]
    refine says_sentence ?_ ?_
    · change isSentenceFrom 1 (lexemes id.text ++ _) = true
      rw [isSentenceFrom_append quiet]
      rfl
    · simp [piece?, wordSentence?, declaration?, typeScriptDeclaration?, read]

/-- Storing a value is read back. -/
theorem says_store (t : Target) {f : String} (h : isName f = true) (m : Nat) :
    Says t (lexemes (t.statement (.store f (.result m))))
      [.plain (.store f (numbered "result" m))] := by
  have item := lexemes_numbered "result" m (by decide)
  have segment := isSegment_of_isName h
  obtain ⟨path, spells, text⟩ : ∃ path, Spells path ["packet", f] ∧
      t.statement (.store f (.result m)) = path ++ " = " ++ numbered "result" m ++ ";" := by
    cases t with
    | cpp => exact ⟨"packet" ++ "->" ++ f, .arrow (.single (by decide)) segment, rfl⟩
    | typescript => exact ⟨"packet" ++ "." ++ f, .dot (.single (by decide)) segment, rfl⟩
  rw [text, lexemes_append_right (by decide), lexemes_around (by decide), spells.lexemes, item]
  exact says_sentence rfl rfl

/-- Closing a block is read back. -/
theorem says_close (t : Target) : Says t (lexemes (t.statement .close)) [.closing] := by
  cases t <;> exact says_sentence rfl rfl

/-- The check before a field is one block in both targets, however it is laid out. -/
theorem says_guard (t : Target) (depth : Int) :
    Says t ((t.guard depth).flatMap fun l => lexemes (t.statement l.statement))
      [.opening .ifUnreadable, .plain .finish, .closing] := by
  have opening : Says t (lexemes "if (!buffer.isReadable()) \x7b") [.opening .ifUnreadable] := by
    cases t <;> exact says_sentence rfl rfl
  have finish : Says t (lexemes "return packet;") [.plain .finish] := by
    cases t <;> exact says_sentence rfl rfl
  have all := opening.append (finish.append (says_close t))
  cases t with
  | cpp =>
    have lexed : lexemes "if (!buffer.isReadable()) \x7b return packet; \x7d" =
        lexemes "if (!buffer.isReadable()) \x7b" ++
          (lexemes "return packet;" ++ lexemes (Target.cpp.statement .close)) := rfl
    simp only [Target.guard, Cpp.guard, List.flatMap_cons, List.flatMap_nil, List.append_nil]
    rw [← lexed] at all
    exact all
  | typescript =>
    simp only [Target.guard, TypeScript.guard, List.flatMap_cons, List.flatMap_nil, List.append_nil]
    exact all

end PacketSmith.Script
