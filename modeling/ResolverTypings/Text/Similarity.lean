/-!
# Similar words

How much two words have in common: the longest stretch that stands in both, and what
the parts before it and the parts behind it have in common in turn. A word is close to
another if at least three fifths of their characters are of that kind.
-/
namespace ResolverTypings.Text

/-- The length of the common beginning of two texts. -/
def commonFront : List Char → List Char → Nat
  | a :: as, b :: bs => if a = b then commonFront as bs + 1 else 0
  | _, _ => 0

/-- A stretch that stands in two texts. -/
structure Stretch where
  first : Nat
  second : Nat
  length : Nat
  deriving Repr, DecidableEq, Inhabited

/-- The longest stretch that two texts share; of several the one that comes first in
the first text, and then in the second. -/
def longestStretch (as bs : List Char) : Stretch :=
  let starts := (List.range as.length).flatMap fun i => (List.range bs.length).map fun j => (i, j)
  starts.foldl (fun best (i, j) =>
    let length := commonFront (as.drop i) (bs.drop j)
    if best.length < length then ⟨i, j, length⟩ else best) ⟨0, 0, 0⟩

/-- The number of characters that two texts have in common. The bound is on the number
of splits. -/
def sharedCount : (bound : Nat) → List Char → List Char → Nat
  | 0, _, _ => 0
  | bound + 1, as, bs =>
    let best := longestStretch as bs
    if best.length = 0 then 0
    else
      sharedCount bound (as.take best.first) (bs.take best.second) + best.length +
        sharedCount bound (as.drop (best.first + best.length)) (bs.drop (best.second + best.length))

/-- How similar two words are, as a fraction. -/
def similarity (a b : String) : Nat × Nat :=
  (2 * sharedCount (a.length + 1) a.toList b.toList, a.length + b.length)

/-- The most words that are given as close ones. -/
def maxCloseWords : Nat := 3

/-- Whether the first of two scored words ranks at least as high as the second: by
score, and then by the later place in the alphabet. -/
def ranksBefore (x y : (Nat × Nat) × String) : Bool :=
  let left := x.1.1 * y.1.2
  let right := y.1.1 * x.1.2
  right < left || (left == right && !decide (x.2 < y.2))

/-- The words that are close to a given one, the closest first. -/
def closeWords (word : String) (words : List String) : List String :=
  let scored := (words.map fun other => (similarity other word, other)).filter fun entry =>
    3 * entry.1.2 ≤ 5 * entry.1.1
  ((scored.mergeSort ranksBefore).take maxCloseWords).map (·.2)

end ResolverTypings.Text
