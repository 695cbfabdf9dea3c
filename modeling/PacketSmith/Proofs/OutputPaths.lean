import PacketSmith.Generator
import PacketSmith.Proofs.ResolvedTypes
import PacketSmith.Proofs.UpperCase

/-!
# Paths of generated files

A path is handled by its segments. Joining texts with slashes and splitting again gives the segments
of the texts one after the other (`segments_join`), so it does not matter how often slashes are
joined or squeezed in between. The segments of a module stay segments when they are capitalized: no
upper-case form of a character has a slash or a dot (`not_mem_of_mem_directorySegments`).

The way from one directory to another leads there (`foldl_relative`), and the path of a message
is the root, the segments of its module, and its name with the target's ending (`messagePath_eq`).
What a generator has once it is started is told by `Generator.exists_context`.
-/

namespace PacketSmith

namespace Path

variable {isSeparator : Char → Bool}

/-! ### Runs between separators -/

/-- Closing a run puts it before the runs that follow. -/
theorem closeRun_append (run : List Char) (runs more : List (List Char)) :
    closeRun run (runs ++ more) = closeRun run runs ++ more := by
  unfold closeRun
  split <;> rfl

/-- A separator divides the runs before it from those behind it. -/
theorem runsFrom_append {c : Char} (h : isSeparator c = true) (run a b : List Char) :
    runsFrom isSeparator run (a ++ c :: b) =
      runsFrom isSeparator run a ++ runsFrom isSeparator [] b := by
  induction a generalizing run with
  | nil =>
    rw [List.nil_append, runsFrom, runsFrom, if_pos h, ← closeRun_append, List.nil_append]
  | cons d a ih =>
    rw [List.cons_append, runsFrom, runsFrom]
    by_cases separates : isSeparator d = true
    · rw [if_pos separates, if_pos separates, ih, closeRun_append]
    · rw [if_neg separates, if_neg separates, ih]

/-- Characters that are no separators make the run longer. -/
theorem runsFrom_of_forall {cs : List Char} (h : ∀ c ∈ cs, isSeparator c = false)
    (run : List Char) : runsFrom isSeparator run cs = closeRun (cs.reverse ++ run) [] := by
  induction cs generalizing run with
  | nil => rfl
  | cons c cs ih =>
    obtain ⟨first, rest⟩ := List.forall_mem_cons.mp h
    rw [runsFrom, if_neg (by simp [first]), ih rest]
    simp

/-- A run is not empty and has no separators. -/
theorem of_mem_runsFrom {run cs r : List Char} (h : ∀ c ∈ run, isSeparator c = false)
    (mem : r ∈ runsFrom isSeparator run cs) : r ≠ [] ∧ ∀ c ∈ r, isSeparator c = false := by
  have closed : ∀ (run : List Char) (runs : List (List Char)), (∀ c ∈ run, isSeparator c = false) →
      r ∈ closeRun run runs → (r ≠ [] ∧ ∀ c ∈ r, isSeparator c = false) ∨ r ∈ runs := by
    intro run runs good mem
    unfold closeRun at mem
    split at mem
    · exact .inr mem
    · rename_i some
      rcases List.mem_cons.mp mem with rfl | inside
      · exact .inl ⟨by simpa using some, by simpa using good⟩
      · exact .inr inside
  induction cs generalizing run with
  | nil =>
    rcases closed run [] h mem with good | none
    · exact good
    · cases none
  | cons c cs ih =>
    rw [runsFrom] at mem
    split at mem
    · rcases closed run _ h mem with good | inside
      · exact good
      · exact ih (by simp) inside
    · rename_i other
      exact ih (List.forall_mem_cons.mpr ⟨by simpa using other, h⟩) mem

/-- Squeezing slashes keeps the runs between them. -/
theorem runsFrom_squeezeSlashes (run cs : List Char) :
    runsFrom isSlash run (squeezeSlashes cs) = runsFrom isSlash run cs := by
  induction cs generalizing run with
  | nil => rfl
  | cons c cs ih =>
    rw [squeezeSlashes]
    split
    · rename_i double
      obtain ⟨rfl, next⟩ : c = '/' ∧ cs.head? = some '/' := by simpa using double
      obtain ⟨rest, rfl⟩ : ∃ rest, cs = '/' :: rest := by
        cases cs with
        | nil => cases next
        | cons d ds => exact ⟨ds, by simpa using next⟩
      rw [ih]
      rfl
    · rw [runsFrom, runsFrom, ih, ih]

/-! ### Segments -/

/-- Joined texts have the segments of the texts, if a slash is one of the separators. -/
theorem segments_joined_of (slash : isSeparator '/' = true) (parts : List String) :
    segments isSeparator (joined parts) = parts.flatMap (segments isSeparator) := by
  induction parts with
  | nil => rfl
  | cons a parts ih =>
    cases parts with
    | nil => simp [joined]
    | cons b rest =>
      unfold joined at ih ⊢
      rw [String.intercalate_cons_cons, List.flatMap_cons, ← ih]
      unfold segments
      rw [String.append_assoc, String.toList_append, String.toList_append, ← List.map_append]
      exact congrArg _ (runsFrom_append slash [] _ _)

/-- Joined texts have the segments of the texts. -/
theorem segments_joined (parts : List String) :
    segments isSlash (joined parts) = parts.flatMap (segments isSlash) :=
  segments_joined_of rfl parts

/-- A text without separators is its only segment. -/
theorem segments_eq_singleton {s : String} (some : s ≠ "")
    (plain : ∀ c ∈ s.toList, isSeparator c = false) : segments isSeparator s = [s] := by
  rw [segments, runsFrom_of_forall plain, closeRun, if_neg (by simpa using some)]
  simp

/-- Texts without separators are their only segments. -/
theorem flatMap_segments_eq_self {segs : List String}
    (h : ∀ s ∈ segs, s ≠ "" ∧ ∀ c ∈ s.toList, isSeparator c = false) :
    segs.flatMap (segments isSeparator) = segs := by
  induction segs with
  | nil => rfl
  | cons s segs ih =>
    obtain ⟨first, rest⟩ := List.forall_mem_cons.mp h
    rw [List.flatMap_cons, segments_eq_singleton first.1 first.2, ih rest, List.singleton_append]

/-- Texts that are joined have their segments one after the other. -/
theorem segments_join (parts : List String) :
    segments isSlash (join parts) = parts.flatMap (segments isSlash) := by
  have squeezed : segments isSlash (join parts) =
      segments isSlash (joined (parts.filter (!·.isEmpty))) := by
    unfold segments join
    rw [String.toList_ofList, runsFrom_squeezeSlashes]
  have kept : (parts.filter (!·.isEmpty)).flatMap (segments isSlash) =
      parts.flatMap (segments isSlash) := by
    clear squeezed
    induction parts with
    | nil => rfl
    | cons a parts ih =>
      by_cases empty : a = ""
      · subst empty
        exact ih
      · rw [List.filter_cons_of_pos (by simpa using empty), List.flatMap_cons,
          List.flatMap_cons, ih]
  rw [squeezed, segments_joined, kept]

/-- Squeezing slashes leaves a text without slashes as it is. -/
theorem squeezeSlashes_eq_self {cs : List Char} (plain : '/' ∉ cs) : squeezeSlashes cs = cs := by
  induction cs with
  | nil => rfl
  | cons c cs ih =>
    rw [List.mem_cons, not_or] at plain
    rw [squeezeSlashes, if_neg (by simp [Ne.symm plain.1]), ih plain.2]

/-- Squeezing slashes leaves an ending without slashes as it is. -/
theorem squeezeSlashes_append {ending : List Char} (plain : '/' ∉ ending) (cs : List Char) :
    squeezeSlashes (cs ++ ending) = squeezeSlashes cs ++ ending := by
  induction cs with
  | nil => exact squeezeSlashes_eq_self plain
  | cons c cs ih =>
    have next : ((cs ++ ending).head? == some '/') = (cs.head? == some '/') := by
      cases cs with
      | nil =>
        cases ending with
        | nil => rfl
        | cons d ds =>
          rw [List.mem_cons, not_or] at plain
          simp [Ne.symm plain.1]
      | cons d ds => rfl
    rw [List.cons_append, squeezeSlashes, squeezeSlashes, next, ih]
    split <;> rfl

/-- The end of a joined path may be added before the last part is joined. -/
theorem join_append {last ending : String} (some : last ≠ "") (plain : '/' ∉ ending.toList)
    (parts : List String) :
    join (parts ++ [last]) ++ ending = join (parts ++ [last ++ ending]) := by
  have joined_append : ∀ xs : List String,
      joined (xs ++ [last]) ++ ending = joined (xs ++ [last ++ ending]) := by
    intro xs
    unfold joined
    cases xs with
    | nil => simp
    | cons x xs =>
      rw [String.intercalate_append_of_ne_nil (by simp) (by simp),
        String.intercalate_append_of_ne_nil (by simp) (by simp)]
      simp [String.append_assoc]
  have kept : ∀ s : String, s ≠ "" → (parts ++ [s]).filter (!·.isEmpty) =
      parts.filter (!·.isEmpty) ++ [s] := by
    intro s whole
    rw [List.filter_append, List.filter_cons_of_pos (by simpa using whole), List.filter_nil]
  unfold join
  rw [kept last some, kept (last ++ ending) (by simp [some]), ← joined_append,
    String.toList_append, squeezeSlashes_append plain, String.ofList_append, String.ofList_toList]

/-- The text is a segment of a path that leads down: it is not empty, has no slash, and is no dot
and no two dots. -/
structure IsSegment (s : String) : Prop where
  /-- The text is not empty. -/
  some : s ≠ ""
  /-- There is no slash in it. -/
  plain : '/' ∉ s.toList
  /-- It is not the directory itself. -/
  dot : s ≠ "."
  /-- It is not the directory above. -/
  dots : s ≠ ".."

namespace IsSegment

variable {s : String}

/-- No character of a segment is a slash. -/
theorem isSlash_eq_false (h : IsSegment s) : ∀ c ∈ s.toList, isSlash c = false := by
  intro c mem
  simp only [isSlash, beq_eq_false_iff_ne]
  rintro rfl
  exact h.plain mem

/-- A segment is its only segment. -/
theorem segments (h : IsSegment s) : segments isSlash s = [s] :=
  segments_eq_singleton h.some h.isSlash_eq_false

/-- Segments lead down. -/
theorem foldl_descend {segs : List String} (h : ∀ s ∈ segs, IsSegment s) (base : List String) :
    segs.foldl descend base = base ++ segs := by
  induction segs generalizing base with
  | nil => simp
  | cons s segs ih =>
    obtain ⟨first, rest⟩ := List.forall_mem_cons.mp h
    rw [List.foldl_cons, ih rest, descend, if_neg (by simpa using first.dot),
      if_neg (by simpa using first.dots), List.append_assoc, List.singleton_append]

/-- The segments of segments. -/
theorem flatMap_segments {segs : List String} (h : ∀ s ∈ segs, IsSegment s) :
    segs.flatMap (Path.segments isSlash) = segs :=
  flatMap_segments_eq_self fun s mem => ⟨(h s mem).some, (h s mem).isSlash_eq_false⟩

end IsSegment

/-- Runs between separators have no other characters than the text. -/
theorem mem_of_mem_runsFrom {run cs r : List Char} {c : Char}
    (mem : r ∈ runsFrom isSeparator run cs) (inside : c ∈ r) : c ∈ run ∨ c ∈ cs := by
  have closed : ∀ (run : List Char) (runs : List (List Char)),
      r ∈ closeRun run runs → c ∈ run ∨ r ∈ runs := by
    intro run runs mem
    unfold closeRun at mem
    split at mem
    · exact .inr mem
    · rcases List.mem_cons.mp mem with rfl | rest
      · exact .inl (by simpa using inside)
      · exact .inr rest
  induction cs generalizing run with
  | nil =>
    rcases closed run [] mem with first | none
    · exact .inl first
    · cases none
  | cons d cs ih =>
    rw [runsFrom] at mem
    split at mem
    · rcases closed run _ mem with first | rest
      · exact .inl first
      · rcases ih rest with none | behind
        · cases none
        · exact .inr (List.mem_cons_of_mem _ behind)
    · rcases ih mem with first | behind
      · rcases List.mem_cons.mp first with rfl | first
        · exact .inr List.mem_cons_self
        · exact .inl first
      · exact .inr (List.mem_cons_of_mem _ behind)

/-- Joined segments have their characters, and slashes. -/
theorem mem_joined_iff {c : Char} (slash : c ≠ '/') (segments : List String) :
    c ∈ (joined segments).toList ↔ ∃ s ∈ segments, c ∈ s.toList := by
  induction segments with
  | nil => simp [joined]
  | cons a segments ih =>
    cases segments with
    | nil => simp [joined]
    | cons b rest =>
      unfold joined at ih ⊢
      rw [String.intercalate_cons_cons, String.toList_append, String.toList_append,
        List.mem_append, List.mem_append, ih]
      simp [slash]

/-- Parts that are joined have their characters, and slashes. -/
theorem exists_mem_of_mem_join {c : Char} (slash : c ≠ '/') {parts : List String}
    (mem : c ∈ (join parts).toList) : ∃ s ∈ parts, c ∈ s.toList := by
  have squeezed : ∀ cs : List Char, c ∈ squeezeSlashes cs → c ∈ cs := by
    intro cs
    induction cs with
    | nil => exact id
    | cons d cs ih =>
      rw [squeezeSlashes]
      split
      · exact fun inside => List.mem_cons_of_mem d (ih inside)
      · exact fun inside => List.mem_cons.mpr ((List.mem_cons.mp inside).imp_right ih)
  rw [join, String.toList_ofList] at mem
  obtain ⟨s, kept, inside⟩ := (mem_joined_iff slash _).mp (squeezed _ mem)
  exact ⟨s, (List.mem_filter.mp kept).1, inside⟩

/-! ### Capitalized segments -/

/-- A segment of a module is not empty and has no separators. -/
theorem of_mem_moduleSegments {module s : String} (mem : s ∈ moduleSegments module) :
    s ≠ "" ∧ ∀ c ∈ s.toList, isModuleSeparator c = false := by
  obtain ⟨r, run, rfl⟩ := List.mem_map.mp mem
  obtain ⟨some, plain⟩ := of_mem_runsFrom (by simp) run
  exact ⟨by simpa using some, by simpa using plain⟩

/-- The segments of the directory of a module. -/
def directorySegments (module : String) : List String :=
  (moduleSegments module).map Text.capitalize

/-- A segment of a module stays without separators and not empty when it is capitalized. -/
theorem of_mem_directorySegments {module s : String} (mem : s ∈ directorySegments module) :
    s ≠ "" ∧ ∀ c ∈ s.toList, isModuleSeparator c = false := by
  obtain ⟨u, inside, rfl⟩ := List.mem_map.mp mem
  obtain ⟨some, plain⟩ := of_mem_moduleSegments inside
  refine ⟨Text.capitalize_ne_empty some, fun c here => ?_⟩
  rw [← Bool.not_eq_true]
  intro separates
  refine Text.not_mem_capitalize ?_ (fun there => ?_) here
  · simp only [isModuleSeparator, Bool.or_eq_true, beq_iff_eq] at separates
    rcases separates with (rfl | rfl) | rfl <;> decide
  · rw [plain c there] at separates
    cases separates

/-- A mark is in the segments of a module's directory only if it is in the module. -/
theorem not_mem_directorySegments {c : Char} {module s : String}
    (mark : Text.isMark c.toNat = true) (out : c ∉ module.toList)
    (mem : s ∈ directorySegments module) : c ∉ s.toList := by
  obtain ⟨u, inside, rfl⟩ := List.mem_map.mp mem
  obtain ⟨run, isRun, rfl⟩ := List.mem_map.mp inside
  refine Text.not_mem_capitalize mark ?_
  rw [String.toList_ofList]
  intro there
  rcases mem_of_mem_runsFrom isRun there with none | whole
  · cases none
  · exact out whole

/-- The segments of a module's directory have no dots. -/
theorem not_mem_of_mem_directorySegments {module s : String} (mem : s ∈ directorySegments module) :
    '.' ∉ s.toList := by
  intro dot
  cases (of_mem_directorySegments mem).2 '.' dot

/-- The segments of a directory lead down. -/
theorem isSegment_of_mem {module s : String} (mem : s ∈ directorySegments module) :
    IsSegment s := by
  obtain ⟨some, plain⟩ := of_mem_directorySegments mem
  have dot := not_mem_of_mem_directorySegments mem
  refine ⟨some, fun slash => absurd (plain '/' slash) (by decide), ?_, ?_⟩
  · rintro rfl
    exact dot (by decide)
  · rintro rfl
    exact dot (by decide)

/-- The directory of a module has its segments. -/
theorem segments_directory (module : String) :
    segments isSlash (directory module) = directorySegments module := by
  rw [directory, segments_joined]
  exact IsSegment.flatMap_segments fun s mem => isSegment_of_mem mem

/-! ### The way between directories -/

/-- What two directories have in common is the start of both. -/
theorem take_commonLength (a b : List String) :
    commonLength a b ≤ a.length ∧ a.take (commonLength a b) = b.take (commonLength a b) := by
  fun_induction commonLength a b with
  | case1 x xs y ys same ih =>
    obtain rfl : x = y := by simpa using same
    exact ⟨by simpa using ih.1, by simpa using ih.2⟩
  | case2 x xs y ys other => simp
  | case3 => simp

/-- Steps up drop the last segments. -/
theorem foldl_descend_up (base down : List String) (n : Nat) (enough : n ≤ down.length) :
    (List.replicate n "..").foldl descend (base ++ down) =
      base ++ down.take (down.length - n) := by
  induction n generalizing down with
  | zero => simp
  | succ n ih =>
    have some : down ≠ [] := by
      rintro rfl
      simp at enough
    have up : descend (base ++ down) ".." = base ++ down.dropLast := by
      rw [descend, if_neg (by decide), if_pos (by decide), List.dropLast_append_of_ne_nil some]
    rw [List.replicate_succ, List.foldl_cons, up, ih _ (by rw [List.length_dropLast]; omega),
      List.length_dropLast, List.dropLast_eq_take, List.take_take]
    congr 2
    omega

/-- The steps between two directories lead from the one to the other, below any base. -/
theorem foldl_stepsBetween (source : List String) {target : List String}
    (h : ∀ s ∈ target, IsSegment s) (base : List String) :
    (stepsBetween source target).foldl descend (base ++ source) = base ++ target := by
  obtain ⟨small, same⟩ := take_commonLength source target
  rw [stepsBetween, List.foldl_append, foldl_descend_up _ _ _ (Nat.sub_le ..),
    IsSegment.foldl_descend fun s mem => h s (List.mem_of_mem_drop mem), List.append_assoc,
    Nat.sub_sub_self small, same, List.take_append_drop]

/-- A step is its only segment. -/
theorem flatMap_segments_stepsBetween (source : List String) {target : List String}
    (h : ∀ s ∈ target, IsSegment s) :
    (stepsBetween source target).flatMap (segments isSlash) = stepsBetween source target := by
  have up : ∀ n, (List.replicate n "..").flatMap (segments isSlash) = List.replicate n ".." := by
    intro n
    induction n with
    | zero => rfl
    | succ n ih =>
      rw [List.replicate_succ, List.flatMap_cons, ih]
      rfl
  rw [stepsBetween, List.flatMap_append, up,
    IsSegment.flatMap_segments fun s mem => h s (List.mem_of_mem_drop mem)]

/-- A step along one more segment keeps segments that lead down. -/
theorem isSegment_of_mem_descend {above : List String} {segment s : String}
    (h : ∀ u ∈ above, IsSegment u) (some : segment ≠ "") (plain : '/' ∉ segment.toList)
    (mem : s ∈ descend above segment) : IsSegment s := by
  unfold descend at mem
  split at mem
  · exact h s mem
  · rename_i dot
    split at mem
    · exact h s (List.dropLast_subset above mem)
    · rename_i dots
      rcases List.mem_append.mp mem with before | last
      · exact h s before
      · obtain rfl := List.mem_singleton.mp last
        exact ⟨some, plain, by simpa using dot, by simpa using dots⟩

/-- Steps along several segments keep segments that lead down. -/
theorem isSegment_of_mem_foldl_descend {way above : List String} {s : String}
    (h : ∀ u ∈ above, IsSegment u) (steps : ∀ u ∈ way, u ≠ "" ∧ '/' ∉ u.toList)
    (mem : s ∈ way.foldl descend above) : IsSegment s := by
  induction way generalizing above with
  | nil => exact h s mem
  | cons u way ih =>
    obtain ⟨⟨some, plain⟩, others⟩ := List.forall_mem_cons.mp steps
    exact ih (fun v inside => isSegment_of_mem_descend h some plain inside) others mem

/-- The segments of a directory seen from the root lead down. -/
theorem isSegment_of_mem_fromRoot {directory s : String} (mem : s ∈ fromRoot directory) :
    IsSegment s := by
  refine isSegment_of_mem_foldl_descend (by simp) (fun u inside => ?_) mem
  obtain ⟨r, run, rfl⟩ := List.mem_map.mp inside
  obtain ⟨some, chars⟩ := of_mem_runsFrom (by simp) run
  refine ⟨by simpa using some, fun slash => ?_⟩
  rw [String.toList_ofList] at slash
  simpa [isSlash] using chars '/' slash

/-- The segments of a relative way are the steps, behind a single dot unless the first of them
starts with two dots. -/
theorem segments_relative (source target : String) :
    segments isSlash (relative source target) =
      if "..".toList.isPrefixOf
          (joined (stepsBetween (fromRoot source) (fromRoot target))).toList = true then
        stepsBetween (fromRoot source) (fromRoot target)
      else "." :: stepsBetween (fromRoot source) (fromRoot target) := by
  have below : ∀ s ∈ fromRoot target, IsSegment s := fun s mem => isSegment_of_mem_fromRoot mem
  have single := flatMap_segments_stepsBetween (fromRoot source) below
  rw [relative]
  generalize stepsBetween (fromRoot source) (fromRoot target) = steps at single
  cases steps with
  | nil => rfl
  | cons s rest =>
    rw [if_neg (by simp)]
    split
    · rw [segments_joined, single]
    · have dotted : "./" ++ joined (s :: rest) = joined ("." :: s :: rest) := by
        rw [joined, joined, String.intercalate_cons_cons]
        rfl
      rw [dotted, segments_joined, List.flatMap_cons, single]
      rfl

/-- The relative way between two directories leads from the one to the other, below any base. -/
theorem foldl_relative (source target : String) (base : List String) :
    (segments isSlash (relative source target)).foldl descend (base ++ fromRoot source) =
      base ++ fromRoot target := by
  have below : ∀ s ∈ fromRoot target, IsSegment s := fun s mem => isSegment_of_mem_fromRoot mem
  have leads := foldl_stepsBetween (fromRoot source) below base
  rw [← leads, segments_relative]
  split
  · rfl
  · -- a single dot stays where it is
    rfl

/-- The directory of a module has the same segments seen from the root. -/
theorem fromRoot_directory (module : String) :
    fromRoot (directory module) = directorySegments module := by
  rw [fromRoot, segments_directory, IsSegment.foldl_descend fun s mem => isSegment_of_mem mem,
    List.nil_append]

/-- The way to a module's directory has the characters of its segments, slashes and dots. -/
theorem exists_mem_of_mem_relative {c : Char} (slash : c ≠ '/') (dot : c ≠ '.')
    {source module : String} (mem : c ∈ (relative source (directory module)).toList) :
    ∃ s ∈ directorySegments module, c ∈ s.toList := by
  have steps : ∀ s ∈ stepsBetween (fromRoot source) (fromRoot (directory module)), c ∈ s.toList →
      s ∈ directorySegments module := by
    intro s step inside
    rcases List.mem_append.mp step with up | down
    · rw [List.eq_of_mem_replicate up] at inside
      simp [dot] at inside
    · rw [← fromRoot_directory]
      exact List.mem_of_mem_drop down
  have way : c ∈ (joined (stepsBetween (fromRoot source) (fromRoot (directory module)))).toList := by
    unfold relative at mem
    dsimp only at mem
    split at mem
    · simp [dot] at mem
    split at mem
    · exact mem
    · simpa [slash, dot] using mem
  obtain ⟨s, step, inside⟩ := (mem_joined_iff slash _).mp way
  exact ⟨s, steps s step inside, inside⟩

/-- Joined segments do not start with a slash. -/
theorem head?_joined_ne {segs : List String} (h : ∀ s ∈ segs, IsSegment s) :
    (joined segs).toList.head? ≠ some '/' := by
  cases segs with
  | nil => decide
  | cons s rest =>
    obtain ⟨first, -⟩ := List.forall_mem_cons.mp h
    cases chars : s.toList with
    | nil => exact absurd (String.toList_eq_nil_iff.mp chars) first.some
    | cons c cs =>
      have starts : ∃ more, (joined (s :: rest)).toList = c :: more := by
        cases rest with
        | nil => exact ⟨cs, by simpa [joined] using chars⟩
        | cons u us => exact ⟨_, by rw [joined, String.intercalate_cons_cons, String.append_assoc,
            String.toList_append, chars, List.cons_append]⟩
      obtain ⟨more, starts⟩ := starts
      rw [starts, List.head?_cons]
      rintro same
      have plain := first.plain
      rw [chars, Option.some.inj same] at plain
      exact plain List.mem_cons_self

end Path

/-! ### File paths -/

namespace FilePath

open PacketSmith.Path

/-- The path that a way leads to from a directory: a single dot stays, and two dots go up. -/
def follow (base : FilePath) (way : String) : FilePath :=
  ⟨base.start, (Path.segments isSlash way).foldl descend base.segments⟩

/-- A text that does not start with a slash has no start of its own. -/
theorem startOf_eq_here {cs : List Char} (h : cs.head? ≠ some '/') : startOf cs = .here := by
  unfold startOf
  split
  · simp at h
  · simp at h
  · simp at h
  · rfl

/-- A path goes on by segments that lead down. -/
theorem child_eq (p : FilePath) {s : String} {segs : List String}
    (first : s.toList.head? ≠ some '/') (split : Path.segments isSlash s = segs)
    (down : ∀ u ∈ segs, IsSegment u) : p.child s = ⟨p.start, p.segments ++ segs⟩ := by
  have kept : segs.filter (· != ".") = segs :=
    List.filter_eq_self.mpr fun u mem => by simpa using (down u mem).dot
  have text : ofText s = ⟨.here, segs⟩ := by
    rw [ofText, startOf_eq_here first, split, kept]
  rw [child, text]

/-- A path goes on by one segment. -/
theorem child_of_isSegment (p : FilePath) {s : String} (h : IsSegment s) :
    p.child s = ⟨p.start, p.segments ++ [s]⟩ := by
  refine child_eq p ?_ h.segments (by simpa using h)
  intro first
  exact h.plain (List.mem_of_head? first)

/-- A path goes on by the directory of a module. -/
theorem child_directory (p : FilePath) (module : String) :
    p.child (directory module) = ⟨p.start, p.segments ++ directorySegments module⟩ :=
  child_eq p (head?_joined_ne fun _ mem => isSegment_of_mem mem) (segments_directory module)
    fun _ mem => isSegment_of_mem mem

/-- A way along segments leads down. -/
theorem follow_eq (base : FilePath) {way : String} {segs : List String}
    (split : Path.segments isSlash way = segs) (down : ∀ u ∈ segs, IsSegment u) :
    base.follow way = ⟨base.start, base.segments ++ segs⟩ := by
  rw [follow, split, IsSegment.foldl_descend down]

end FilePath

/-! ### Paths of messages -/

/-- A message with a module has the directory of the module. -/
theorem Message.directory_eq {m : Message} (h : m.module ≠ none) :
    m.directory = .ok (Path.directory (m.module.getD "")) := by
  obtain ⟨module, given⟩ := Option.ne_none_iff_exists'.mp h
  rw [directory, given]
  rfl

/-- The segments of the directory of a message. -/
def Message.segments (m : Message) : List String := Path.directorySegments (m.module.getD "")

/-- A name with an ending is a segment. -/
theorem isSegment_of_isName {name ending : String} (h : TypeName.isName name = true)
    (plain : '/' ∉ ending.toList) : Path.IsSegment (name ++ ending) := by
  have parts : ∀ c ∈ name.toList, TypeName.isNamePart c = true :=
    fun c mem => TypeName.isNamePart_of_isNameList h mem
  have out : ∀ c, TypeName.isNamePart c = false → c ∉ name.toList := by
    intro c other mem
    simp [parts c mem] at other
  cases chars : name.toList with
  | nil =>
    rw [TypeName.isName, chars] at h
    cases h
  | cons c cs =>
    have dot : c ≠ '.' := by
      rintro rfl
      exact out '.' (by decide) (chars ▸ List.mem_cons_self)
    have text : (name ++ ending).toList = c :: (cs ++ ending.toList) := by
      rw [String.toList_append, chars, List.cons_append]
    -- the first character alone tells the text from the empty text and from dots
    have other : ∀ s : String, s.toList.head? ≠ some c → name ++ ending ≠ s := by
      rintro s differs rfl
      rw [text] at differs
      exact differs rfl
    refine ⟨other _ (by simp), ?_, other _ (by simp [Ne.symm dot]), other _ (by simp [Ne.symm dot])⟩
    rw [String.toList_append, List.mem_append, not_or]
    exact ⟨out '/' (by decide), plain⟩

/-- A path that ends with a name has the name with its ending as its last segment. -/
theorem segments_join_name {name ending : String} (h : TypeName.isName name = true)
    (plain : '/' ∉ ending.toList) (parts : List String) :
    Path.segments Path.isSlash (Path.join (parts ++ [name]) ++ ending) =
      parts.flatMap (Path.segments Path.isSlash) ++ [name ++ ending] := by
  have some : name ≠ "" := by
    rintro rfl
    cases h
  rw [Path.join_append some plain, Path.segments_join, List.flatMap_append,
    List.flatMap_singleton, (isSegment_of_isName h plain).segments]

namespace OutputContext

/-- The path of a message: the root, the directory of its module, and its name with the ending. -/
def pathOf (x : OutputContext) (m : Message) : FilePath :=
  ⟨x.root.start, x.root.segments ++ (m.segments ++ [shown m.name ++ "." ++ x.target.extension])⟩

/-- The file of a message is at its path. -/
theorem messagePath_eq (x : OutputContext) {m : Message} (module : m.module ≠ none)
    (name : TypeName.isName (shown m.name) = true) : x.messagePath m = .ok (x.pathOf m) := by
  have ending : Path.IsSegment (shown m.name ++ "." ++ x.target.extension) := by
    rw [String.append_assoc]
    refine isSegment_of_isName name ?_
    cases x.target <;> decide
  unfold messagePath pathOf Message.segments
  rw [Message.directory_eq module, ← List.append_assoc]
  show Except.ok ((x.root.child (Path.directory _)).child _) = _
  rw [FilePath.child_directory, FilePath.child_of_isSegment _ ending]

end OutputContext

/-! ### Started generators -/

/-- A result of two actions is one of the second behind a result of the first. -/
theorem exists_of_run_bind {α β : Type} {a : FileAction α} {f : α → FileAction β} {b : β}
    {tree after : FileTree} (h : (a >>= f).run tree = (.ok b, after)) :
    ∃ v middle, a.run tree = (.ok v, middle) ∧ (f v).run middle = (.ok b, after) := by
  rw [ExceptT.run_bind] at h
  cases first : a.run tree with
  | mk result middle =>
    simp only [bind, StateT.bind, first] at h
    cases result with
    | error e => cases h
    | ok v => exact ⟨v, middle, rfl, h⟩

/-- A generator that is started has a context with the coder of its target. Its root is the target's
directory in the output directory. -/
theorem Generator.exists_context {g h : Generator} {directory : String} {clean : Bool}
    {tree after : FileTree} (started : (g.start directory clean).run tree = (.ok h, after)) :
    ∃ x, h.context = some x ∧ x.target = g.target ∧ prepare x.target = .ok x.coder ∧
      x.root = (FilePath.ofText directory).child x.target.rootDirectory := by
  unfold start at started
  obtain ⟨coder, begun, prepared, started⟩ := exists_of_run_bind started
  have same : prepare g.target = .ok coder := congrArg Prod.fst prepared
  have target : coder.target = g.target := by
    unfold prepare at same
    obtain ⟨table, -, same⟩ := exists_of_bind_eq_ok same
    obtain ⟨-, -, same⟩ := exists_of_bind_eq_ok same
    obtain ⟨-, -, same⟩ := exists_of_bind_eq_ok same
    cases same
    rfl
  -- whatever is removed before, the last step makes the directory and gives the generator
  have finish : ∀ there : FileTree,
      (FileAction.makeDirectories ((FilePath.ofText directory).child g.target.rootDirectory) >>=
        fun _ => (pure ⟨g.target, some ⟨(FilePath.ofText directory).child g.target.rootDirectory,
          coder, g.logs⟩, g.logs⟩ : FileAction Generator)).run there = (.ok h, after) →
      ∃ x, h.context = some x ∧ x.target = g.target ∧ prepare x.target = .ok x.coder ∧
        x.root = (FilePath.ofText directory).child x.target.rootDirectory := by
    intro there made
    obtain ⟨-, last, -, made⟩ := exists_of_run_bind made
    obtain rfl := Except.ok.inj (congrArg Prod.fst made)
    refine ⟨_, rfl, target, ?_, ?_⟩
    · show prepare coder.target = .ok coder
      rw [target, same]
    · show _ = (FilePath.ofText directory).child coder.target.rootDirectory
      rw [target]
  by_cases emptied : clean = true
  · simp only [if_pos emptied] at started
    obtain ⟨now, seen, -, started⟩ := exists_of_run_bind started
    obtain ⟨there, found, -, started⟩ := exists_of_run_bind started
    split at started
    · obtain ⟨-, removed, -, started⟩ := exists_of_run_bind started
      exact finish removed started
    · exact finish found started
  · simp only [if_neg emptied] at started
    exact finish begun started

end PacketSmith
