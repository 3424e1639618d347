/-!
# Similarity of texts

The characters that match in two texts are those of the longest block that both have, and then those
that match in what is left of the block in both and in what is right of it in both.  Among the
longest blocks the earliest in the first text counts, and among these the earliest in the second.
Texts are similar if at least three fifths of the characters of both match.
-/

namespace KotlinStubs.Text

/-- The number of characters at the start of two texts that are the same. -/
def commonStart : List Char → List Char → Nat
  | c :: cs, d :: ds => if c = d then commonStart cs ds + 1 else 0
  | _, _ => 0

/-- A block of characters that two texts have: its place in each, and its length. -/
structure Block where
  left : Nat
  right : Nat
  length : Nat

/-- The longer of two blocks, the first if none is longer. -/
def Block.longer (b c : Block) : Block := if b.length < c.length then c else b

/-- The longest block of two texts. -/
def longestBlock (as bs : List Char) : Block :=
  (List.range as.length).foldl (fun best i =>
    (List.range bs.length).foldl (fun best j =>
      best.longer ⟨i, j, commonStart (as.drop i) (bs.drop j)⟩) best) ⟨0, 0, 0⟩

/-- The number of characters that match in two texts. -/
def matching (as bs : List Char) : Nat :=
  match longestBlock as bs with
  | ⟨left, right, length⟩ =>
    if _h : 0 < length ∧ left < as.length then
      matching (as.take left) (bs.take right) + length +
        matching (as.drop (left + length)) (bs.drop (right + length))
    else
      0
termination_by as.length
decreasing_by
  · rw [List.length_take]
    omega
  · rw [List.length_drop]
    omega

/-- How similar a candidate is to a text: the characters that match, out of those of both. -/
structure Likeness where
  candidate : String
  matched : Nat
  total : Nat

/-- The likeness of a candidate to a text. -/
def Likeness.of (text candidate : String) : Likeness :=
  ⟨candidate, matching candidate.toList text.toList, candidate.length + text.length⟩

/-- Whether at least three fifths of the characters match. -/
def Likeness.isClose (a : Likeness) : Bool := 3 * a.total ≤ 10 * a.matched

/-- Whether a candidate goes before another one: it is more similar or, if equally similar, not the
smaller one. -/
def Likeness.precedes (a b : Likeness) : Bool :=
  b.matched * a.total < a.matched * b.total ||
    (b.matched * a.total == a.matched * b.total && b.candidate ≤ a.candidate)

/-- The most similar candidates, at most a number of them. -/
def similarTexts (limit : Nat) (text : String) (candidates : List String) : List String :=
  ((((candidates.map (Likeness.of text)).filter Likeness.isClose).mergeSort
    Likeness.precedes).take limit).map Likeness.candidate

end KotlinStubs.Text
