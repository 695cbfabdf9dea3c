import PacketSmith.Proofs.Script.Transfer

/-!
# Generated functions invert each other

The function that reads a message inverts the function that writes it, in each target. Both are
taken as the texts that generated files have, read and run by the rules of `Script`.

* `exists_read_written`: what is written for the fields of a message is read back, and nothing is
  left in the buffer.
* `exists_read_versions`: a message may gain fields at its end. What was written without them can be
  read if a check stands in front of the first of them, and fails at the end of the input if not;
  what is written with them can be read without them.

Both rest on the tokens of a message being those of its fields, one after the other, and on every
field having tokens, so that no check returns early.
-/

namespace PacketSmith.Script

open PacketSmith.Code
open PacketSmith.TypeName (isName)

variable {α : Type} [DecidableEq α]

/-- The text writes the message to an empty buffer as the given tokens. -/
def Writes (t : Target) (text : String) (message : String → Value α) (tokens : List (Token α)) :
    Prop :=
  execute t text ⟨[], [], message⟩ = some (.on ⟨tokens, [], message⟩)

/-- The text reads from the given tokens into a message that begins as `initial`, and returns with
the message `final` and the tokens that are left. -/
def Reads (t : Target) (text : String) (tokens : List (Token α)) (initial : String → Value α)
    (left : List (Token α)) (final : String → Value α) : Prop :=
  ∃ temps, execute t text ⟨tokens, [], initial⟩ = some (.on ⟨left, temps, final⟩) ∨
    execute t text ⟨tokens, [], initial⟩ = some (.back ⟨left, temps, final⟩)

section Bodies

variable {t : Target} {text : String} {code : List Code} {n next : Nat} {fs : List Field}
  {message : String → Value α}

/-- A text with the code of fields writes their tokens. -/
theorem writes_of_writeFields (read : Code.ofText? t text = some code)
    (form : WriteFields t fs n code next) (fits : ∀ f ∈ fs, Fits f.type (message (shown f.name))) :
    Writes t text message (encodeFields fs message) := by
  rw [Writes, execute, read, Option.map_some, runAll_writeFields form (by exact fits)]
  rfl

/-- A text with the code of fields takes them over from their tokens and leaves what follows. -/
theorem reads_of_readFields (read : Code.ofText? t text = some code)
    (form : ReadFields t false fs n code next)
    (fits : ∀ f ∈ fs, Fits f.type (message (shown f.name))) (left : List (Token α))
    (initial : String → Value α) :
    Reads t text (encodeFields fs message ++ left) initial left (overlay fs message initial) := by
  obtain ⟨temps, ran⟩ := runAll_readFields form fits left [] initial
  exact ⟨temps, .inl (by rw [execute, read, Option.map_some, ran])⟩

end Bodies

omit [DecidableEq α] in
/-- The fields that are taken over are those of the message. -/
theorem overlay_of_mem {fs : List Field} {f : Field} (h : f ∈ fs)
    (message initial : String → Value α) :
    overlay fs message initial (shown f.name) = message (shown f.name) :=
  if_pos (List.mem_map_of_mem h)

/-- What the write body of a message writes, its read body reads back, for usable fields and values
that fit: every field then has the value that was written, and the buffer is empty. The bodies are
those of every file that is laid out for a message with these fields. -/
theorem exists_read_written (t : Target) {ids : TypeName.MessageIds} {fs : List Field}
    (usable : ∀ f ∈ fs, IsUsable ids f) {message : String → Value α}
    (fits : ∀ f ∈ fs, Fits f.type (message (shown f.name))) (initial : String → Value α) :
    ∃ c write read tokens final, Generator.prepare t = .ok c ∧ bodies c fs = .ok (write, read) ∧
      (∀ (x : OutputContext) r m p, x.coder = c → m.fields = fs → x.messageParts r m = .ok p →
        p.writeBody = write ∧ p.readBody = read) ∧
      Writes t write message tokens ∧ Reads t read tokens initial [] final ∧
      ∀ f ∈ fs, final (shown f.name) = message (shown f.name) := by
  obtain ⟨c, prepared, rfl, std⟩ := exists_prepare t
  obtain ⟨write, read, writeCode, readCode, n, next, texts, writeText, writeForm, readText,
    readForm⟩ := ofText?_bodies std usable
  have reads := reads_of_readFields readText readForm fits [] initial
  rw [List.append_nil] at reads
  refine ⟨c, write, read, encodeFields fs message, overlay fs message initial, prepared, texts, ?_,
    writes_of_writeFields writeText writeForm fits, reads,
    fun f mem => overlay_of_mem mem message initial⟩
  rintro x r m p rfl rfl parts
  have same := (bodies_of_messageParts parts).symm.trans texts
  simpa using same

/-! ### A message to try -/

namespace Sample

/-- A message with values for both fields. -/
def message : String → Value Nat
  | "places" => .collection .map [
      .pair (.scalar (.int 3)) (.collection .set [.message 7, .message 8]),
      .pair (.scalar (.int 4)) (.collection .set [])]
  | _ => .collection .list [.scalar (.string "a"), .scalar (.string "a")]

theorem fits_places : Fits places.type (message "places") := by
  have set : ∀ items : List (Value Nat), (∀ v ∈ items, ∃ i, v = .message i) → items.Nodup →
      Fits itemSet (.collection .set items) := by
    intro items messages distinct
    refine .sequence (k := .set) (fun v mem => ?_) fun _ => distinct
    obtain ⟨i, rfl⟩ := messages v mem
    exact .message
  have entries : message "places" = .collection .map (List.map (fun p => .pair p.1 p.2)
      [(.scalar (.int 3), .collection .set [.message 7, .message 8]),
        (.scalar (.int 4), .collection .set [])]) := rfl
  rw [entries]
  refine .map ?_ ?_ (by decide)
  · simp only [List.forall_mem_cons]
    exact ⟨.scalar rfl, .scalar rfl, by simp⟩
  · simp only [List.forall_mem_cons]
    exact ⟨set _ (by simp) (by decide), set _ (by simp) (by decide), by simp⟩

theorem fits_tags (compatible : Bool) : Fits (tags compatible).type (message "tags") := by
  refine .sequence (k := .array) (fun v mem => ?_) (by simp)
  obtain rfl : v = .scalar (.string "a") := by simpa using mem
  exact .scalar rfl

/-- The values fit both fields. -/
theorem fits (compatible : Bool) :
    ∀ f ∈ [places] ++ [tags compatible], Fits f.type (message (shown f.name)) := by
  simp only [List.cons_append, List.nil_append, List.forall_mem_cons]
  exact ⟨fits_places, fits_tags compatible, by simp⟩

end Sample

/-- A map of sets of messages and an array that older messages lack are read back. -/
theorem exists_read_written_sample :
    ∃ c write read tokens final, Generator.prepare .cpp = .ok c ∧
      bodies c ([Sample.places] ++ [Sample.tags true]) = .ok (write, read) ∧
      Writes .cpp write Sample.message tokens ∧
      Reads .cpp read tokens (fun _ => .message 0) [] final ∧
      final "places" = Sample.message "places" ∧ final "tags" = Sample.message "tags" := by
  obtain ⟨c, write, read, tokens, final, prepared, texts, -, writes, reads, same⟩ :=
    exists_read_written .cpp (Sample.usable true) (Sample.fits true) fun _ => .message 0
  exact ⟨c, write, read, tokens, final, prepared, texts, writes, reads,
    same Sample.places (by simp), same (Sample.tags true) (by simp)⟩

/-! ### Versions -/

section Versions

variable {t : Target} {text : String} {code : List Code} {n next : Nat} {old new : List Field}
  {message : String → Value α}

/-- A text with the code of fields reads the tokens of the first of them, if a check stands in front
of the others. -/
theorem reads_of_guarded (read : Code.ofText? t text = some code)
    (form : ReadFields t false (old ++ new) n code next)
    (fits : ∀ f ∈ old, Fits f.type (message (shown f.name)))
    (guarded : (old ++ new.take 1).any Field.isCompatible = true) (initial : String → Value α) :
    Reads t text (encodeFields old message) initial [] (overlay old message initial) := by
  cases new with
  | nil =>
    rw [List.append_nil] at form
    have reads := reads_of_readFields read form fits [] initial
    rwa [List.append_nil] at reads
  | cons g new =>
    obtain ⟨temps, ran⟩ := runAll_readFields_back form fits (by simpa using guarded) [] initial
    exact ⟨temps, .inr (by rw [execute, read, Option.map_some, ran])⟩

/-- A text with the code of fields fails on the tokens of the first of them, if no check stands in
front of the others. -/
theorem execute_of_unguarded (read : Code.ofText? t text = some code)
    (form : ReadFields t false (old ++ new) n code next)
    (fits : ∀ f ∈ old, Fits f.type (message (shown f.name))) (more : new ≠ [])
    (unguarded : (old ++ new.take 1).any Field.isCompatible = false) (initial : String → Value α) :
    execute t text ⟨encodeFields old message, [], initial⟩ = some (.failed .endOfInput) := by
  cases new with
  | nil => exact absurd rfl more
  | cons g new =>
    have ran := runAll_readFields_failed form fits (by simpa using unguarded) [] initial
    rw [execute, read, Option.map_some, ran]

end Versions

/-- Two versions of a message, of which the second has more fields at its end. What the first one
writes, the second one reads if one of the fields up to the first new one is compatible: the old
fields then have the values that were written and the new ones their initial values. If none is, it
fails at the end of the input. What the second one writes, the first one reads, and the tokens of
the new fields are left. -/
theorem exists_read_versions (t : Target) {ids : TypeName.MessageIds} {old new : List Field}
    (usable : ∀ f ∈ old ++ new, IsUsable ids f)
    (distinct : ((old ++ new).map fun f => shown f.name).Nodup) {message : String → Value α}
    (fits : ∀ f ∈ old ++ new, Fits f.type (message (shown f.name))) (initial : String → Value α) :
    ∃ c write read writeOld readOld writeNew readNew tokens tokensOld tokensNew,
      Generator.prepare t = .ok c ∧ bodies c (old ++ new) = .ok (write, read) ∧
      bodies c old = .ok (writeOld, readOld) ∧ bodies c new = .ok (writeNew, readNew) ∧
      Writes t write message tokens ∧ Writes t writeOld message tokensOld ∧
      Writes t writeNew message tokensNew ∧
      ((old ++ new.take 1).any Field.isCompatible = true →
        ∃ final, Reads t read tokensOld initial [] final ∧
          (∀ f ∈ old, final (shown f.name) = message (shown f.name)) ∧
          ∀ f ∈ new, final (shown f.name) = initial (shown f.name)) ∧
      (∃ final, Reads t readOld tokens initial tokensNew final ∧
        ∀ f ∈ old, final (shown f.name) = message (shown f.name)) ∧
      (new ≠ [] → (old ++ new.take 1).any Field.isCompatible = false →
        execute t read ⟨tokensOld, [], initial⟩ = some (.failed .endOfInput)) := by
  obtain ⟨c, prepared, rfl, std⟩ := exists_prepare t
  obtain ⟨usableOld, usableNew⟩ := List.forall_mem_append.mp usable
  obtain ⟨fitsOld, fitsNew⟩ := List.forall_mem_append.mp fits
  obtain ⟨write, read, _, _, _, _, texts, writeText, writeForm, readText, readForm⟩ :=
    ofText?_bodies std usable
  obtain ⟨writeOld, readOld, _, _, _, _, textsOld, writeTextOld, writeFormOld, readTextOld,
    readFormOld⟩ := ofText?_bodies std usableOld
  obtain ⟨writeNew, readNew, _, _, _, _, textsNew, writeTextNew, writeFormNew, -, -⟩ :=
    ofText?_bodies std usableNew
  have split : encodeFields (old ++ new) message =
      encodeFields old message ++ encodeFields new message := List.flatMap_append
  refine ⟨c, write, read, writeOld, readOld, writeNew, readNew, encodeFields (old ++ new) message,
    encodeFields old message, encodeFields new message, prepared, texts, textsOld, textsNew,
    writes_of_writeFields writeText writeForm fits,
    writes_of_writeFields writeTextOld writeFormOld fitsOld,
    writes_of_writeFields writeTextNew writeFormNew fitsNew, fun guarded => ?_, ?_,
    fun more unguarded => execute_of_unguarded readText readForm fitsOld more unguarded initial⟩
  · refine ⟨overlay old message initial,
      reads_of_guarded readText readForm fitsOld guarded initial,
      fun f mem => overlay_of_mem mem message initial, fun f mem => if_neg fun inside => ?_⟩
    rw [List.map_append] at distinct
    exact List.disjoint_of_nodup_append distinct inside (List.mem_map_of_mem mem)
  · rw [split]
    exact ⟨overlay old message initial,
      reads_of_readFields readTextOld readFormOld fitsOld (encodeFields new message) initial,
      fun f mem => overlay_of_mem mem message initial⟩

/-- The two versions of a message without and with an array, which is read as long as it is
compatible and else fails. -/
theorem exists_read_versions_sample :
    (∃ c write read writeOld readOld tokensOld final, Generator.prepare .typescript = .ok c ∧
      bodies c ([Sample.places] ++ [Sample.tags true]) = .ok (write, read) ∧
      bodies c [Sample.places] = .ok (writeOld, readOld) ∧
      Writes .typescript writeOld Sample.message tokensOld ∧
      Reads .typescript read tokensOld (fun _ => .message 0) [] final ∧
      final "places" = Sample.message "places" ∧ final "tags" = .message 0) ∧
    ∃ c write read writeOld readOld tokensOld, Generator.prepare .typescript = .ok c ∧
      bodies c ([Sample.places] ++ [Sample.tags false]) = .ok (write, read) ∧
      bodies c [Sample.places] = .ok (writeOld, readOld) ∧
      Writes .typescript writeOld Sample.message tokensOld ∧
      execute .typescript read ⟨tokensOld, [], fun _ => .message 0⟩ =
        some (.failed .endOfInput) := by
  constructor
  · obtain ⟨c, write, read, writeOld, readOld, _, _, _, tokensOld, _, prepared, texts, textsOld, -,
      -, writesOld, -, backward, -, -⟩ := exists_read_versions .typescript (Sample.usable true)
        (by decide) (Sample.fits true) fun _ => .message 0
    obtain ⟨final, reads, same, kept⟩ := backward (by decide)
    exact ⟨c, write, read, writeOld, readOld, tokensOld, final, prepared, texts, textsOld,
      writesOld, reads, same Sample.places (by simp), kept (Sample.tags true) (by simp)⟩
  · obtain ⟨c, write, read, writeOld, readOld, _, _, _, tokensOld, _, prepared, texts, textsOld, -,
      -, writesOld, -, -, -, fails⟩ := exists_read_versions .typescript (Sample.usable false)
        (by decide) (Sample.fits false) fun _ => .message 0
    exact ⟨c, write, read, writeOld, readOld, tokensOld, prepared, texts, textsOld, writesOld,
      fails (by simp) (by decide)⟩

end PacketSmith.Script
