import HingeRank.Dataset.Access
import HingeRank.Loss.MaxAffine

/-!
# The ranking loss

The pairs that miss the margin are counted by sorting and sweeping, the queries are divided
among workers, and the sums of all parts are the risk of a dataset and its slope.
-/

namespace HingeRank

/-!
## Pairs in the wrong order

A relevant score should lie at least a margin above every other score of its
query.  The pairs that fail are counted for every score by sorting all scores
once and sweeping over them, instead of looking at each pair.

The keys are the relevant scores less the margin, and the other scores as they
are; a pair fails exactly when the first key is strictly below the second.  At
equal keys the nonrelevant items come first, so that "sorted before" means
"strictly below" for every relevant item.  Keys that are no numbers come last
and count as equal to one another.
-/

section

open Scalar

variable {K : Type} [Scalar K]

/-- A score in the common order, with its position in the list of all scores. -/
structure RankedItem (K : Type) where
  key : K
  relevant : Bool
  position : Nat

namespace RankedItem

/-- The left item may stand before the right one: keys ascend, and nonrelevant
items come first at equal keys. -/
def precedes (left right : RankedItem K) : Bool :=
  let inOrder := !left.relevant || right.relevant
  if isNumber left.key then
    !isNumber right.key || left.key < right.key || (left.key ≤ right.key && inOrder)
  else
    !isNumber right.key && inOrder

/-- Both kinds of items, the relevant ones first and lowered by the margin. -/
def collect (margin : K) (relevant nonrelevant : List K) : List (RankedItem K) :=
  (relevant.zipIdx.map fun (score, position) => ⟨score - margin, true, position⟩) ++
    (nonrelevant.zipIdx relevant.length).map fun (score, position) => ⟨score, false, position⟩

/-- Sweep over sorted items.  A relevant item counts the nonrelevant ones that
are still to come, a nonrelevant item the relevant ones already seen. -/
def sweep (relevantSeen nonrelevantLeft : Nat) : List (RankedItem K) → List (Nat × Nat)
  | [] => []
  | item :: rest =>
      if item.relevant then
        (item.position, nonrelevantLeft) :: sweep (relevantSeen + 1) nonrelevantLeft rest
      else
        (item.position, relevantSeen) :: sweep relevantSeen (nonrelevantLeft - 1) rest

end RankedItem

/-- For every score, the number of pairs it belongs to that miss the margin. -/
structure Inversions where
  relevant : List Nat
  nonrelevant : List Nat
  deriving DecidableEq, Repr

namespace Inversions

/-- Count the pairs whose scores differ by less than the margin, for each score
in its place. -/
def count (margin : K) (relevant nonrelevant : List K) : Inversions :=
  let sorted := (RankedItem.collect margin relevant nonrelevant).mergeSort RankedItem.precedes
  let swept := RankedItem.sweep 0 nonrelevant.length sorted
  let counts := (swept.mergeSort fun left right => left.1 ≤ right.1).map (·.2)
  ⟨counts.take relevant.length, counts.drop relevant.length⟩

end Inversions

end

/-!
## Dividing work into contiguous parts

Items are divided among workers in contiguous parts.  Bounds cut a list, and any
bounds that ascend from zero to the length lose nothing.  The bounds used here
divide the length evenly in double arithmetic and drop the fractions, so that
rounding may move a bound down by one.

Double arithmetic is carried out on whole numbers: a double that is not below one
is a whole multiple of the smallest step between doubles from one on.
-/

namespace Split

/-- The items between one bound and the next, for every bound but the last. -/
def cut {α : Type} (items : List α) : List Nat → List (List α)
  | first :: second :: rest =>
      ((items.take second).drop first) :: cut items (second :: rest)
  | _ => []

/-- At least one part, and at most one part per item. -/
def partCount (length : Nat) (requested : Int) : Nat :=
  (max 1 (min requested length)).toNat

/-- The number of bits in the significand of a double. -/
def significandBits : Nat := 53

/-- The parts into which the interval from one to two is divided by doubles. -/
def unitSteps : Nat := Nat.pow 2 (significandBits - 1)

/-- The quotient rounded to the nearest whole number that has no more significant
bits than a double, ties to the even significand. -/
def nearest (numerator denominator : Nat) : Nat :=
  let unit := Nat.pow 2 ((numerator / denominator).log2 + 1 - significandBits)
  Decimal.roundDiv numerator (denominator * unit) * unit

/-- Bounds of the given number of parts; the last one is the length itself. -/
def bounds (length parts : Nat) : List Nat :=
  let width := nearest (length * unitSteps) parts
  ((List.range parts).map fun part => nearest (part * width) 1 / unitSteps) ++ [length]

end Split

/-!
## The pairwise hinge loss of a ranking

The risk of a weight vector is the average, over all pairs of a relevant and a
nonrelevant vector of one query, of the amount by which the scores miss the
margin.  A subgradient is the average of the differences of the vectors in the
pairs that miss it.  Both follow from how often each vector occurs in such a
pair.

Queries are divided among workers; every worker adds up its own part, and the
parts are added in order.
-/

section

open Scalar

variable {K : Type} [Scalar K]

/-- The stacked vectors of a query that has pairs. -/
structure QueryBlock (K : Type) where
  relevant : FeatureStack K
  nonrelevant : FeatureStack K

/-- A loss that has not been divided by the number of pairs yet. -/
structure RawLoss (K : Type) where
  loss : K
  subgradient : List K

namespace RawLoss

def zero (dimension : Nat) : RawLoss K := ⟨0, Linear.zeros dimension⟩

def add (left right : RawLoss K) : RawLoss K :=
  ⟨left.loss + right.loss, Linear.add left.subgradient right.subgradient⟩

/-- The sum of several losses from left to right. -/
def total (dimension : Nat) (losses : List (RawLoss K)) : RawLoss K :=
  losses.foldl add (zero dimension)

end RawLoss

namespace QueryBlock

def ofQuery? (query : Query K) : Except Error (QueryBlock K) := do
  return ⟨← FeatureStack.ofVectors? query.relevant, ← FeatureStack.ofVectors? query.nonrelevant⟩

/-- Loss and subgradient of one query. -/
def rawLoss (margin : K) (weights : List K) (block : QueryBlock K) : RawLoss K :=
  let relevantScores := block.relevant.scores weights
  let nonrelevantScores := block.nonrelevant.scores weights
  let counts := Inversions.count margin relevantScores nonrelevantScores
  let relevantCounts : List K := counts.relevant.map fun (count : Nat) => (count : K)
  let nonrelevantCounts : List K := counts.nonrelevant.map fun (count : Nat) => (count : K)
  { loss := Linear.dot nonrelevantCounts nonrelevantScores -
      Linear.dot relevantCounts (relevantScores.map (· - margin))
    subgradient := Linear.sub (block.nonrelevant.weightedSum nonrelevantCounts)
      (block.relevant.weightedSum relevantCounts) }

end QueryBlock

/-- The number of parts for a number of workers as it was given.  One that is
neither whole nor more than enough cannot divide anything. -/
def Number.partCount? (workers : Number) (items : Nat) : Except Fault Nat :=
  match workers with
  | .whole count => .ok (Split.partCount items count)
  | .real count =>
      if Float.ofNat items < count then .ok (max 1 items)
      else if 1 < count then .error .wrongType
      else .ok 1

/-- Contiguous parts of a list, one for each worker that has something to do. -/
def divide? {α : Type} (workers : Number) (items : List α) : Except Fault (List (List α)) := do
  return Split.cut items (Split.bounds items.length (← workers.partCount? items.length))

/-- No list is longer than this. -/
def longestList : Nat := Nat.pow 2 63 - 1

/-- The numbers below a count in contiguous parts, both as they were given. -/
def divideRange? (count parts : Value) : Except Fault (List (List Nat)) := do
  let count ← count.position?
  if longestList < count then throw .tooLarge
  divide? (← parts.number?) (List.range count.toNat)

/-- A ranking loss, ready to be evaluated. -/
structure RankingLoss (K : Type) where
  dimension : Nat
  pairCount : Nat
  margin : K
  /-- The blocks of every worker. -/
  parts : List (List (QueryBlock K))

namespace RankingLoss

/-- The loss over the queries of a dataset that have pairs, of which there must be
one, divided among workers. -/
def ofDataset? (dataset : Dataset K) (margin : K) (workers : Number) :
    Except Error (RankingLoss K) := do
  let blocks ← dataset.rankingQueries.mapM QueryBlock.ofQuery?
  return {
    dimension := dataset.dimension.getD 0
    pairCount := dataset.pairCount
    margin
    parts := ← (divide? workers blocks).mapError .fault }

/-- Risk and subgradient at weights of the right dimension. -/
def risk (ranking : RankingLoss K) (weights : List K) : K × List K :=
  let rawParts := ranking.parts.map fun blocks =>
    RawLoss.total ranking.dimension (blocks.map (·.rawLoss ranking.margin weights))
  let raw := RawLoss.total ranking.dimension rawParts
  let factor : K := 1 / (ranking.pairCount : K)
  (raw.loss * factor, raw.subgradient.map (· * factor))

/-- Risk and subgradient, refused for weights of another length. -/
def risk? (ranking : RankingLoss K) (weights : List K) : Except Error (K × List K) :=
  if weights.length = ranking.dimension then .ok (ranking.risk weights)
  else .error (.dimensionMismatch (.int ranking.dimension) weights.length "weight vector")

/-- The loss as an oracle that counts its evaluations; a refused one does not count. -/
def oracle (ranking : RankingLoss K) : LossOracle K Nat where
  dimension := ranking.dimension
  evaluate weights evaluations :=
    match ranking.risk? weights with
    | .ok (risk, subgradient) => (.ok ⟨risk, .vector subgradient⟩, evaluations + 1)
    | .error problem => (.error problem, evaluations)

/-- The margin that training asks for. -/
def defaultMargin : K := 1

/-- The loss of samples with a number of workers and a margin as they were given.
There must be at least one worker. -/
def ofSamples? (samples : Samples Float) (workers margin : Value) :
    Except Error (RankingLoss Float) := do
  let count ← workers.comparand?.mapError .fault
  if count.below 1 then throw (.settingOutOfRange "num_threads" (.atLeast 1) workers)
  let dataset ← samples.toRankingProblem? .lossEvaluation
  ofDataset? dataset (← margin.toFloat?.mapError .fault) count

end RankingLoss

end

end HingeRank
