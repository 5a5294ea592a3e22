/-
Likeness of words by the Jaro measure. Two characters match when they are equal and their places
differ by less than half the longer word; matches out of order count half.
-/

namespace CachingGateway.Similarity

/-- The first place within a window at which a character stands and which no match has taken. -/
def findMatch? (character : Char) (word : List Char) (taken : List Nat) (first last : Nat) :
    Option Nat :=
  (word.zipIdx.find? fun (candidate, place) =>
    candidate = character && first ≤ place && place < last && !taken.contains place).map Prod.snd

/-- The matches of two words: each character of the left one that has a partner, with the place of
the partner in the right one. -/
def partners (left right : List Char) (window : Nat) : List (Char × Nat) :=
  (left.zipIdx.foldl (fun found (character, place) =>
    match findMatch? character right (found.map Prod.snd) (place - window)
        (min right.length (place + window + 1)) with
    | some index => (character, index) :: found
    | none => found) []).reverse

/-- The likeness of two words, between zero and one. -/
def jaro (left right : List Char) : Rat :=
  if left.isEmpty && right.isEmpty then 1
  else if left.isEmpty || right.isEmpty then 0
  else
    let window := max left.length right.length / 2 - 1
    let found := partners left right window
    if found.isEmpty then 0
    else
      let inOrder := (found.map Prod.snd).mergeSort.map fun place => right.getD place ' '
      let swapped := ((found.map Prod.fst).zip inOrder).countP fun (first, second) => first ≠ second
      let count : Rat := found.length
      (count / left.length + count / right.length + (count - (swapped / 2 : Nat)) / count) / 3

end CachingGateway.Similarity
