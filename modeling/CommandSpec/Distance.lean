/-!
# Distance — how many edits turn one text into another

An edit inserts, deletes or replaces one item, for texts a character, or exchanges two neighbours;
exchanged items may be moved apart by later insertions and deletions, so the distance is the
**unrestricted** one of Damerau and Levenshtein and a metric.

With `x :: as` and `y :: bs` the two texts, the distance is the least of

* one more than the distance of `as` and `y :: bs`, when `x` is deleted;
* one more than the distance of `x :: as` and `bs`, when `y` is inserted;
* the distance of `as` and `bs`, and one more when `x` is not `y`;
* when `as = p ++ y :: as'` and `bs = q ++ x :: bs'` at the first such places, the distance of `as'`
  and `bs'` and one more than the lengths of `p` and `q`: `p` is deleted, `x` and `y` are exchanged
  and `q` is inserted.

`distanceRows` tabulates it over the tails of both texts.
-/

namespace CommandSpec

variable {α : Type} [DecidableEq α]

/-- The cost of moving `x` behind the first `y` of `as` and `y` behind the first `x` of `bs`. The
rows `below` hold the distances of `as` and of each of its tails from the tails of the second text;
`y :: bs` is the tail in their place `k`. -/
def exchangeCost? (x y : α) (as bs : List α) (below : List (List Nat)) (k : Nat) :
    Option Nat :=
  match as.idxOf? y, bs.idxOf? x with
  | some p, some q => some ((below.getD (p + 1) []).getD (k + q + 2) 0 + p + q + 1)
  | _, _ => none

/-- The distances of `x :: as` from each tail of a text, longest first.  The text is itself the tail
in place `k` of the second text, and `row` holds the distances of `as` from its tails. -/
def distanceRow (x : α) (as : List α) (below : List (List Nat)) :
    (row : List Nat) → (k : Nat) → List α → List Nat
  | _, _, [] => [as.length + 1]
  | row, k, y :: bs =>
    let beside := distanceRow x as below row.tail (k + 1) bs
    let delete := row.headD 0 + 1
    let insert := beside.headD 0 + 1
    let replace := row.tail.headD 0 + if x = y then 0 else 1
    let plain := min delete (min insert replace)
    let least := match exchangeCost? x y as bs below k with
      | some n => min plain n
      | none => plain
    least :: beside

/-- For each tail of the first text, longest first, its distances from each tail of the second. -/
def distanceRows : List α → List α → List (List Nat)
  | [], bs => [(List.range (bs.length + 1)).reverse]
  | x :: as, bs =>
    let below := distanceRows as bs
    distanceRow x as below (below.headD []) 0 bs :: below

/-- **The number of edits between two texts.** -/
def editDistance (a b : List α) : Nat := ((distanceRows a b).headD []).headD 0

end CommandSpec
