import HingeRank.Loss.Ranking

/-!
# Ranking metrics

Ranking metrics of lists of scores, and of the arrays that scores and margins may come in.
-/

namespace HingeRank

/-!
## Quality of a ranking of scores

Two measures compare the scores of relevant items with those of the others.  The
first counts pairs in which the relevant score is strictly higher.  The second
walks down the list of all items and averages, over the relevant ones, the share
of relevant items seen so far; items with equal scores are listed with the
nonrelevant ones first, so that ties never help.

Scores that are no numbers count as the highest ones in the first measure, and
come last in the second.
-/

namespace Metrics

open Scalar

variable {K : Type} [Scalar K]

/-- Ascending order, with what is no number at the end. -/
def ascends (left right : K) : Bool :=
  !isNumber right || (isNumber left && left ≤ right)

/-- The left score is strictly lower; what is no number is the highest score. -/
def isBelow (left right : K) : Bool :=
  isNumber left && (!isNumber right || left < right)

/-- The first position from `low` on, below `high`, whose entry fails the test, in
a list that passes it up to some position and fails it from there on. -/
def firstFailing (passes : K → Bool) (sorted : Array K) (low high : Nat) : Nat :=
  if _open : low < high then
    let middle := low + (high - low) / 2
    if sorted[middle]?.any passes then firstFailing passes sorted (middle + 1) high
    else firstFailing passes sorted low middle
  else low
termination_by high - low
decreasing_by all_goals omega

/-- The number of pairs whose relevant score is strictly higher. -/
def correctPairs (relevant nonrelevant : List K) : Nat :=
  let sorted := (nonrelevant.mergeSort ascends).toArray
  (relevant.map fun score => firstFailing (isBelow · score) sorted 0 sorted.size).foldr (· + ·) 0

/-- All items from the highest to the lowest score, as marks for the relevant ones. -/
def relevanceByRank (relevant nonrelevant : List K) : List Bool :=
  let items := RankedItem.collect 0 (relevant.map (- ·)) (nonrelevant.map (- ·))
  (items.mergeSort RankedItem.precedes).map (·.relevant)

/-- For every relevant item, the share of relevant items up to its rank. -/
def precisions (marks : List Bool) : List K :=
  let ranks := (marks.zipIdx.filter (·.1)).map fun (_, position) => position + 1
  (ranks.zipIdx 1).map fun (rank, seen) => ratio seen rank

/-- The average precision of the relevant items, zero if there are none. -/
def averagePrecision (relevant nonrelevant : List K) : K :=
  if relevant.isEmpty then 0
  else
    Linear.sum (precisions (relevanceByRank relevant nonrelevant)) / (relevant.length : K)

end Metrics

/-!
## Counts and measures of scores given as arrays

Scores are given as arrays of any shape or as values that describe such arrays.
Counting pairs takes all entries in order.  The measures need lists of scores:
single numbers have no length, and deeper arrays do not line up.
-/

namespace Inversions

/-- Texts on their own or among numbers cannot be subtracted at all. -/
def isWording (values : List Value) : Bool :=
  values.any (· matches .text _ | .points _ | .bytes _) &&
    values.all (· matches .text _ | .points _ | .bytes _ | .bool _ | .int _ | .float _)

/-- The margin for each of so many scores.  It may be a list with a margin for each of
them or with a single one. -/
def margins? (count : Nat) (margin : Value) : Except Fault (List Float) := do
  let shape ← margin.shape? maximalDepth
  let values := margin.leaves
  if isWording values then throw .wrongType
  if (Tensor.align? [count] shape).isNone then throw .badValue
  let margins ← values.mapM fun value => do (← value.number?).toFloat?
  match margins, shape with
  | [single], [] | [single], [1] => return List.replicate count single
  | margins, shape => if shape = [count] then return margins else throw .badValue

/-- Count the pairs that miss a margin among the entries of two values.  The
margin matters only if there is a pair. -/
def ofValues? (relevant nonrelevant margin : Value) : Except Fault Inversions := do
  let relevant := (← relevant.toTensor?).entries
  let nonrelevant := (← nonrelevant.toTensor?).entries
  let lowered ←
    if relevant.isEmpty || nonrelevant.isEmpty then pure relevant
    else pure (relevant.zipWith (· - ·) (← margins? relevant.length margin))
  return count 0 lowered nonrelevant

end Inversions

namespace Metrics

/-- The average precision for arrays of scores. -/
def averagePrecision? (relevant nonrelevant : Tensor Float) : Except Fault Float :=
  match relevant.shape, nonrelevant.shape with
  | [], _ => .error .wrongType
  | 0 :: _, _ => .ok 0
  | [_], [_] => .ok (averagePrecision relevant.entries nonrelevant.entries)
  | _, _ => .error .badValue

/-- The number of pairs in the right order for arrays of scores. -/
def correctPairs? (relevant nonrelevant : Tensor Float) : Except Fault Nat :=
  match relevant.shape, nonrelevant.shape with
  | [], _ => .error .wrongType
  | 0 :: _, _ => .ok 0
  | _, [] => .error .wrongType
  | _, 0 :: _ => .ok 0
  | _, [_] => .ok (correctPairs relevant.entries nonrelevant.entries)
  | _, _ => .error .badValue

end Metrics

end HingeRank
