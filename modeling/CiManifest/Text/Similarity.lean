/-!
# Similar words

The Jaro similarity of two words, used to suggest a known name for a
mistyped one. Two characters match when they are equal and no further apart
than half the longer word's length, less one; each character of the second word
matches at most once, and the first free one is taken. With `m` matches and
`t` half the number of matched pairs that are out of order, the similarity is
`(m / |a| + m / |b| + (m - t) / m) / 3`, computed in binary64 in that order,
and `0` when nothing matches. Two empty words are fully similar.
-/

namespace CiManifest.Text

/-- The first position in `[low, high)` of `ys` that holds `c` and is not
taken yet. -/
def firstFree (ys : List Char) (taken : List Bool) (c : Char) (low high : Nat) : Option Nat :=
  (List.range' low (high - low)).find? fun j => ys.getD j ' ' == c && !taken.getD j true

/-- Which characters of `xs` and of `ys` are matched, scanning `xs` in order. -/
def matchFlags (xs ys : List Char) (range : Nat) : List Bool × List Bool :=
  xs.zipIdx.foldl
    (fun (flags : List Bool × List Bool) (entry : Char × Nat) =>
      let (c, i) := entry
      match firstFree ys flags.2 c (i - range) (min ys.length (i + range + 1)) with
      | some j => (flags.1 ++ [true], flags.2.set j true)
      | none => (flags.1 ++ [false], flags.2))
    ([], List.replicate ys.length false)

/-- The characters whose flag is set, in order. -/
def flagged (cs : List Char) (flags : List Bool) : List Char :=
  (cs.zip flags).filterMap fun p => if p.2 then some p.1 else none

/-- The Jaro similarity of two words. -/
def jaro (a b : String) : Float :=
  let xs := a.toList
  let ys := b.toList
  if xs.isEmpty && ys.isEmpty then 1.0
  else if xs.isEmpty || ys.isEmpty then 0.0
  else
    let (aFlags, bFlags) := matchFlags xs ys (max xs.length ys.length / 2 - 1)
    let common := (aFlags.filter id).length
    if common == 0 then 0.0
    else
      let pairs := (flagged xs aFlags).zip (flagged ys bFlags)
      let transpositions := (pairs.filter fun p => p.1 != p.2).length / 2
      let m := common.toFloat
      (m / xs.length.toFloat + m / ys.length.toFloat +
        (common - transpositions).toFloat / m) / 3.0

/-- The candidates more than 0.7 similar to a word, least similar first;
candidates equally similar keep their order. -/
def similarTo (word : String) (candidates : List String) : List String :=
  let scored := (candidates.map fun c => (jaro word c, c)).filter fun p => p.1 > 0.7
  (scored.mergeSort fun p q => p.1 ≤ q.1).map Prod.snd

/-- The candidate most similar to a word, the last of equals. -/
def mostSimilar? (word : String) (candidates : List String) : Option String :=
  (similarTo word candidates).getLast?

end CiManifest.Text
