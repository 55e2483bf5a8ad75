/-!
# Similar texts

Two texts are similar if long stretches of them agree. The longest common stretch is found first,
then those in front of it and those after it; the share of agreeing characters is the measure.
-/

namespace StyleUsage.Text

/-- The length of the common start of two texts. -/
def commonStart : List Char → List Char → Nat
  | a :: as, b :: bs => if a = b then commonStart as bs + 1 else 0
  | _, _ => 0

/-- A common stretch: where it starts in either text, and its length. -/
structure Match where
  left : Nat
  right : Nat
  size : Nat
  deriving Inhabited

/-- The longest common stretch; of several the one that starts first on the left, then first on
the right. -/
def longestMatch (as bs : List Char) : Match :=
  let starts := (List.range as.length).flatMap fun i => (List.range bs.length).map fun j => (i, j)
  starts.foldl (fun best (i, j) =>
    let n := commonStart (as.drop i) (bs.drop j)
    if best.size < n then ⟨i, j, n⟩ else best) ⟨0, 0, 0⟩

def agreeing : Nat → List Char → List Char → Nat
  | 0, _, _ => 0
  | fuel + 1, as, bs =>
    let m := longestMatch as bs
    if m.size = 0 then 0
    else agreeing fuel (as.take m.left) (bs.take m.right) + m.size +
      agreeing fuel (as.drop (m.left + m.size)) (bs.drop (m.right + m.size))

/-- Those of several texts that are similar to a text: at least three fifths of the characters
agree. At most three are given, the most similar first. -/
def similarTo (text : String) (candidates : List String) : List String :=
  let bs := text.toList
  -- the agreement and the number of characters of both texts
  let scored := candidates.map fun candidate =>
    let as := candidate.toList
    (candidate, agreeing (as.length + 1) as bs, as.length + bs.length)
  let near := scored.filter fun (_, n, total) => 3 * total ≤ 10 * n
  let sorted := near.mergeSort fun (s, m, p) (t, n, q) =>
    n * p < m * q || (n * p == m * q && t ≤ s)
  (sorted.take 3).map (·.1)

end StyleUsage.Text
