import ObjectStorage.Number.Binary64

/-! The Jaro similarity of two words, for suggesting the option that was probably meant. -/

namespace ObjectStorage.Text

/-- The first position in a window of unused places of `word` that holds `c`. -/
def findUnused (word : List Char) (used : List Nat) (low high : Nat) (c : Char) : Option Nat :=
  (word.zipIdx.find? fun (d, place) =>
    low ≤ place && place < high && d == c && !used.contains place).map (·.2)

/-- Pairs off equal characters of two words from left to right: each place of the first word takes
the first free place of the second that is at most `reach` away. The pairs come in the order of the
first word. -/
def pairing (first second : List Char) (reach : Nat) : List (Nat × Nat) :=
  first.zipIdx.foldl (fun pairs (c, place) =>
    match findUnused second (pairs.map (·.2)) (place - reach) (place + reach + 1) c with
    | some partner => pairs ++ [(place, partner)]
    | none => pairs) []

/-- How many paired characters of the two words differ when both are read in their own order. -/
def displaced (first second : List Char) (pairs : List (Nat × Nat)) : Nat :=
  let ownOrder := (pairs.map (·.2)).mergeSort (· ≤ ·)
  ((pairs.map fun pair => first[pair.1]?).zip (ownOrder.map fun place => second[place]?)).countP
    fun (c, d) => c != d

/-- The Jaro similarity of two words, every step rounded to 53 bits: the mean of the shares of
paired characters in both words and of the pairs that are in order. -/
def jaro (first second : String) : Rat :=
  let a := first.toList
  let b := second.toList
  let reach := max a.length b.length / 2 - 1
  let pairs := pairing a b reach
  let matched := pairs.length
  if a.isEmpty && b.isEmpty then 1
  else if matched = 0 then 0
  else
    -- Two characters that changed places count as one that is out of order.
    let inOrder := matched - displaced a b pairs / 2
    let share (part whole : Nat) : Rat := Number.binary64 (mkRat part whole)
    let shares := Number.binary64 (share matched a.length + share matched b.length)
    Number.binary64 (Number.binary64 (shares + share inOrder matched) / 3)

/-- A candidate is suggested only above this similarity: the 53-bit number nearest to 0.7. -/
def similarityThreshold : Rat := Number.binary64 (mkRat 7 10)

/-- The candidate most similar to a word, if one is similar enough; of equals the last. -/
def mostSimilar (word : String) (candidates : List String) : Option String :=
  (candidates.foldl (fun (best : Option (Rat × String)) candidate =>
    let score := jaro word candidate
    -- A later candidate replaces one that is only as similar.
    if score ≤ similarityThreshold then best
    else match best with
      | some (top, _) => if score < top then best else some (score, candidate)
      | none => some (score, candidate)) none).map (·.2)

end ObjectStorage.Text
