/-!
# Similarity of words

How alike two words are, after Jaro: characters **match** if they are equal and not too far apart,
each with at most one of the other word; the similarity is the mean of the share of matching
characters in either word and of the share of matching characters that are in order.
-/

namespace FeedSync.Text

/-- The matching characters of a word, from its `i`th one on, each with the place of its match in
another word. Places that are taken are not used again. -/
def matchFrom (reach : Nat) (other : List Char) :
    (i : Nat) → (taken : List Nat) → List Char → List (Char × Nat)
  | _, _, [] => []
  | i, taken, c :: cs =>
    let place := (List.range other.length).find? fun j =>
      i ≤ j + reach && j ≤ i + reach && other[j]? == some c && !taken.contains j
    match place with
    | some j => (c, j) :: matchFrom reach other (i + 1) (j :: taken) cs
    | none => matchFrom reach other (i + 1) taken cs

/-- The similarity of two words, from zero to one. -/
def similarity (a b : String) : Rat :=
  let (a, b) := (a.toList, b.toList)
  let found := matchFrom (max a.length b.length / 2 - 1) b 0 [] a
  let there := (found.map (·.2)).mergeSort.filterMap (b[·]?)
  let unordered := ((found.map (·.1)).zip there).countP (fun (c, d) => c != d) / 2
  let matching : Rat := found.length
  if found.isEmpty then 0
  else (matching / a.length + matching / b.length + (matching - unordered) / matching) / 3

end FeedSync.Text
