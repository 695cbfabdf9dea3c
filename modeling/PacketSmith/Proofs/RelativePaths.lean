import PacketSmith.Proofs.OutputPaths

/-!
# The shortest way between directories

The relative way from one directory to another goes up to the last directory above both and down
from there. Nothing leads there in fewer steps (`relative_shortest`): a step changes the distance
between two directories by at most one (`distance_le_descend`), and the steps of the relative way
are as many as the distance says (`length_stepsBetween`).

The text of the way tells where it leads: it starts with a single dot if the target is the source or
below it, and with two dots otherwise, as long as no segment of the target has a dot of its own.
-/

namespace PacketSmith.Path

/-! ### What two directories have in common -/

/-- The first directory is the longest start that the two others have in common. -/
structure IsLongestCommon (common a b : List String) : Prop where
  /-- It is a start of the first directory. -/
  left : common <+: a
  /-- It is a start of the second directory. -/
  right : common <+: b
  /-- No common start is longer. -/
  longest : ∀ start, start <+: a → start <+: b → start.length ≤ common.length

/-- A common start is no longer than what two directories have in common. -/
theorem length_le_commonLength {start a b : List String} (left : start <+: a)
    (right : start <+: b) : start.length ≤ commonLength a b := by
  induction start generalizing a b with
  | nil => simp
  | cons s start ih =>
    obtain ⟨as, rfl⟩ := left
    obtain ⟨bs, rfl⟩ := right
    have rest := ih (List.prefix_append start as) (List.prefix_append start bs)
    simpa [commonLength] using rest

/-- What two directories have in common is a start of the second one, too. -/
theorem isPrefix_take_commonLength (a b : List String) : a.take (commonLength a b) <+: b := by
  rw [(take_commonLength a b).2]
  exact List.take_prefix _ _

/-- What two directories have in common has the length that is counted. -/
theorem length_take_commonLength (a b : List String) :
    (a.take (commonLength a b)).length = commonLength a b := by
  rw [List.length_take, Nat.min_eq_left (take_commonLength a b).1]

/-- The segments that are counted as common are the longest common start. -/
theorem isLongestCommon_take (a b : List String) :
    IsLongestCommon (a.take (commonLength a b)) a b where
  left := List.take_prefix _ _
  right := isPrefix_take_commonLength a b
  longest start left right := by
    rw [length_take_commonLength]
    exact length_le_commonLength left right

/-- What is in common is not longer than the second directory. -/
theorem commonLength_le_length_right (a b : List String) : commonLength a b ≤ b.length := by
  have short := (isPrefix_take_commonLength a b).length_le
  rwa [length_take_commonLength] at short

/-- A directory has all of its segments in common with those below it and no others. -/
theorem commonLength_eq_length_iff {a b : List String} : commonLength a b = a.length ↔ a <+: b := by
  constructor
  · intro all
    have start := isPrefix_take_commonLength a b
    rwa [all, List.take_length] at start
  · intro below
    have most := length_le_commonLength List.prefix_rfl below
    have least := (take_commonLength a b).1
    omega

/-! ### Distances -/

/-- The number of steps between two directories: up to what they have in common, and down again. -/
def distance (a b : List String) : Nat :=
  (a.length - commonLength a b) + (b.length - commonLength a b)

/-- The steps between two directories are as many as the distance says. -/
theorem length_stepsBetween (a b : List String) : (stepsBetween a b).length = distance a b := by
  simp [stepsBetween, distance]

/-- A directory has no distance from itself. -/
theorem distance_self (a : List String) : distance a a = 0 := by
  have all : commonLength a a = a.length := commonLength_eq_length_iff.mpr List.prefix_rfl
  simp [distance, all]

/-- A directory above has no more in common with a third one. -/
theorem commonLength_le_of_prefix {a above : List String} (h : above <+: a) (b : List String) :
    commonLength above b ≤ commonLength a b := by
  have start := (List.take_prefix (commonLength above b) above).trans h
  have shared := length_le_commonLength start (isPrefix_take_commonLength above b)
  rwa [length_take_commonLength] at shared

/-- One more segment adds at most one to what is in common. -/
theorem commonLength_concat_le (a b : List String) (s : String) :
    commonLength (a ++ [s]) b ≤ commonLength a b + 1 := by
  have short := (take_commonLength (a ++ [s]) b).1
  rw [List.length_append, List.length_singleton] at short
  -- without the last of them, the common segments are a start of the shorter directory
  have same : (a ++ [s]).take (commonLength (a ++ [s]) b - 1) =
      a.take (commonLength (a ++ [s]) b - 1) := List.take_append_of_le_length (by omega)
  have left : a.take (commonLength (a ++ [s]) b - 1) <+: a := List.take_prefix _ _
  have right : a.take (commonLength (a ++ [s]) b - 1) <+: b := by
    rw [← same]
    refine List.IsPrefix.trans ?_ (isPrefix_take_commonLength (a ++ [s]) b)
    exact List.take_prefix_take_left (Nat.sub_le ..)
  have shared := length_le_commonLength left right
  rw [List.length_take] at shared
  omega

/-- A step brings a directory nearer to another by at most one. -/
theorem distance_le_descend (a b : List String) (s : String) :
    distance a b ≤ distance (descend a s) b + 1 := by
  have below := commonLength_le_length_right a b
  unfold descend distance
  by_cases dot : (s == ".") = true
  · rw [if_pos dot]
    omega
  · rw [if_neg dot]
    by_cases dots : (s == "..") = true
    · rw [if_pos dots]
      have fewer := commonLength_le_of_prefix (List.dropLast_prefix a) b
      rw [List.length_dropLast]
      omega
    · rw [if_neg dots]
      have more := commonLength_concat_le a b s
      have inside := commonLength_le_length_right (a ++ [s]) b
      rw [List.length_append, List.length_singleton]
      omega

/-- Steps bring a directory nearer to another by at most their number. -/
theorem distance_le_foldl_descend (way a b : List String) :
    distance a b ≤ distance (way.foldl descend a) b + way.length := by
  induction way generalizing a with
  | nil => simp
  | cons s way ih =>
    have first := distance_le_descend a b s
    have rest := ih (descend a s)
    rw [List.foldl_cons, List.length_cons]
    omega

/-- Whatever leads from one directory to another has as many steps as the distance says, or more. -/
theorem distance_le_of_leads {way a b : List String} (leads : way.foldl descend a = b) :
    distance a b ≤ way.length := by
  have steps := distance_le_foldl_descend way a b
  rw [leads, distance_self] at steps
  omega

/-! ### The text of the way -/

/-- A way goes on from a directory by its own segments. -/
theorem fromRoot_append (directory way : String) :
    fromRoot (directory ++ "/" ++ way) =
      (segments isSlash way).foldl descend (fromRoot directory) := by
  have split : segments isSlash (directory ++ "/" ++ way) =
      segments isSlash directory ++ segments isSlash way := by
    have parts := segments_joined [directory, way]
    simpa [joined, String.intercalate_cons_cons] using parts
  rw [fromRoot, split, List.foldl_append, fromRoot]

/-- Joined segments start with the first of them. -/
theorem prefix_joined (s : String) (rest : List String) :
    s.toList <+: (joined (s :: rest)).toList := by
  cases rest with
  | nil => simp [joined]
  | cons u us =>
    rw [joined, String.intercalate_cons_cons, String.append_assoc, String.toList_append]
    exact List.prefix_append _ _

/-- A way to a directory that is not below starts with two dots. -/
theorem head?_relative_of_not_below {source target : String}
    (apart : ¬fromRoot source <+: fromRoot target) :
    (segments isSlash (relative source target)).head? = some ".." := by
  have short := (take_commonLength (fromRoot source) (fromRoot target)).1
  have other : commonLength (fromRoot source) (fromRoot target) ≠ (fromRoot source).length :=
    fun all => apart (commonLength_eq_length_iff.mp all)
  obtain ⟨n, up⟩ : ∃ n, (fromRoot source).length -
      commonLength (fromRoot source) (fromRoot target) = n + 1 :=
    ⟨_, (Nat.succ_pred (by omega)).symm⟩
  rw [segments_relative, stepsBetween, up, List.replicate_succ, List.cons_append]
  have dots := List.isPrefixOf_iff_prefix.mpr (prefix_joined ".." (List.replicate n ".." ++
    (fromRoot target).drop (commonLength (fromRoot source) (fromRoot target))))
  rw [if_pos dots, List.head?_cons]

/-- A way to the directory itself or below it starts with a single dot, if the segments of the
target have no dots. -/
theorem head?_relative_of_below {source target : String}
    (below : fromRoot source <+: fromRoot target) (plain : ∀ s ∈ fromRoot target, '.' ∉ s.toList) :
    (segments isSlash (relative source target)).head? = some "." := by
  have all := commonLength_eq_length_iff.mpr below
  rw [segments_relative, stepsBetween, all, Nat.sub_self, List.replicate_zero, List.nil_append]
  have steps : ∀ s ∈ (fromRoot target).drop (fromRoot source).length, s ≠ "" ∧ '.' ∉ s.toList :=
    fun s mem => ⟨(isSegment_of_mem_fromRoot (List.mem_of_mem_drop mem)).some,
      plain s (List.mem_of_mem_drop mem)⟩
  generalize (fromRoot target).drop (fromRoot source).length = way at steps
  rw [if_neg, List.head?_cons]
  intro dots
  cases way with
  | nil => simp [joined] at dots
  | cons s rest =>
    obtain ⟨⟨some, out⟩, -⟩ := List.forall_mem_cons.mp steps
    -- the first character of the way is one of the target's, which is no dot
    obtain ⟨more, start⟩ := prefix_joined s rest
    rw [← start] at dots
    cases chars : s.toList with
    | nil => exact some (String.toList_eq_nil_iff.mp chars)
    | cons c cs =>
      rw [chars, List.mem_cons, not_or] at out
      rw [chars] at dots
      simp [out.1] at dots

/-- The relative way leads from one directory to the other. Its steps, which a single dot may
precede, go up from the source to the longest start that both have in common and down to the target,
and no other way has fewer. If the segments of the target have no dots, as those of a module's
directory, then the first segment is a single dot for the source itself and all directories below
it, and two dots for all others. -/
theorem relative_shortest (source target : String) :
    fromRoot (source ++ "/" ++ relative source target) = fromRoot target ∧
    (∃ common steps, IsLongestCommon common (fromRoot source) (fromRoot target) ∧
      steps = List.replicate ((fromRoot source).length - common.length) ".." ++
        (fromRoot target).drop common.length ∧
      (segments isSlash (relative source target) = steps ∨
        segments isSlash (relative source target) = "." :: steps) ∧
      ∀ way : List String, way.foldl descend (fromRoot source) = fromRoot target →
        steps.length ≤ way.length) ∧
    ((∀ s ∈ fromRoot target, '.' ∉ s.toList) →
      ((segments isSlash (relative source target)).head? = some "." ∧
          fromRoot source <+: fromRoot target) ∨
        ((segments isSlash (relative source target)).head? = some ".." ∧
          ¬fromRoot source <+: fromRoot target)) ∧
    ∀ module, ∀ s ∈ fromRoot (directory module), '.' ∉ s.toList := by
  refine ⟨?_, ⟨_, _, isLongestCommon_take _ _, rfl, ?_, ?_⟩, ?_, ?_⟩
  · rw [fromRoot_append]
    simpa using foldl_relative source target []
  · rw [length_take_commonLength, segments_relative]
    split
    · exact .inl rfl
    · exact .inr rfl
  · intro way leads
    have steps := length_stepsBetween (fromRoot source) (fromRoot target)
    rw [stepsBetween] at steps
    rw [length_take_commonLength, steps]
    exact distance_le_of_leads leads
  · intro plain
    by_cases below : fromRoot source <+: fromRoot target
    · exact .inl ⟨head?_relative_of_below below plain, below⟩
    · exact .inr ⟨head?_relative_of_not_below below, below⟩
  · intro module s mem
    rw [fromRoot_directory] at mem
    exact not_mem_of_mem_directorySegments mem

/-- A way between directories whose names begin alike, given with superfluous segments. -/
theorem relative_shortest_siblings :
    relative "Packet/./Sub/../Item//" "/Packet/Items/Rare" = "../Items/Rare" ∧
    fromRoot ("Packet/./Sub/../Item//" ++ "/" ++ "../Items/Rare") = ["Packet", "Items", "Rare"] ∧
    (∀ way : List String, way.foldl descend ["Packet", "Item"] = ["Packet", "Items", "Rare"] →
      3 ≤ way.length) ∧
    ¬["Packet", "Item"] <+: ["Packet", "Items", "Rare"] := by
  have text : relative "Packet/./Sub/../Item//" "/Packet/Items/Rare" = "../Items/Rare" := by decide
  have source : fromRoot "Packet/./Sub/../Item//" = ["Packet", "Item"] := by decide
  have target : fromRoot "/Packet/Items/Rare" = ["Packet", "Items", "Rare"] := by decide
  have three : segments isSlash "../Items/Rare" = ["..", "Items", "Rare"] := by decide
  have main := relative_shortest "Packet/./Sub/../Item//" "/Packet/Items/Rare"
  rw [text, source, target, three] at main
  obtain ⟨leads, ⟨common, steps, -, -, shape, shortest⟩, dots, -⟩ := main
  have count : steps.length = 3 := by
    rcases shape with same | dotted
    · rw [← same]
      rfl
    · simp at dotted
  refine ⟨text, leads, fun way there => count ▸ shortest way there, ?_⟩
  rcases dots (by decide) with ⟨here, -⟩ | ⟨-, apart⟩
  · simp at here
  · exact apart

end PacketSmith.Path
