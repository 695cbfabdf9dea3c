/-!
# Similar words

How alike two words are, for the suggestions that follow an unknown word. The longest block of
characters that two words share is matched first, the earliest one of several, and then what stands
before it and what stands behind it. Two words are similar when the matched characters make up
three fifths of both words or more.
-/

namespace PacketSmith.Text

/-- How many characters two lists start with alike. -/
def sharedStart : List Char → List Char → Nat
  | a :: as, b :: bs => if a == b then sharedStart as bs + 1 else 0
  | _, _ => 0

/-- A block of characters that two words share. -/
structure Block where
  /-- Where it stands in the first word. -/
  first : Nat
  /-- Where it stands in the second word. -/
  second : Nat
  /-- How many characters it has. -/
  size : Nat
deriving DecidableEq, Repr

/-- Every block of two words: one for each pair of places, in their order. -/
def blocks (a b : List Char) : List Block :=
  (List.range a.length).flatMap fun i =>
    (List.range b.length).map fun j => ⟨i, j, sharedStart (a.drop i) (b.drop j)⟩

/-- The longest block of two words, the earliest one of several. -/
def longestBlock (a b : List Char) : Block :=
  (blocks a b).foldl (fun best x => if best.size < x.size then x else best) ⟨0, 0, 0⟩

/-- How many characters of two words are matched. -/
def matched (a b : List Char) : Nat :=
  let m := longestBlock a b
  if _h : 0 < m.size ∧ m.first < a.length then
    matched (a.take m.first) (b.take m.second) + m.size
      + matched (a.drop (m.first + m.size)) (b.drop (m.second + m.size))
  else 0
termination_by a.length
decreasing_by
  · simp +zetaDelta only [List.length_take] at *; omega
  · simp +zetaDelta only [List.length_drop] at *; omega

/-- The words among some that are similar to a word, three at most, the most similar first and of
two that are alike similar the later one in the order of characters. -/
def similarTo (word : String) (words : List String) : List String :=
  let scored := words.map fun w =>
    (w, matched w.toList word.toList, w.length + word.length)
  let close := scored.filter fun (_, m, n) => 3 * n ≤ 10 * m
  let best := close.mergeSort fun (v, m, n) (w, k, l) =>
    decide (k * n < m * l) || (k * n == m * l && decide (w ≤ v))
  (best.take 3).map (·.1)

end PacketSmith.Text
