import HingeRank.Metrics.Arrays

/-!
# Evaluation and cross-validation

How good a model is on samples, and how good models are that were trained without the
queries on which they are judged.
-/

namespace HingeRank

/-!
## Evaluation of a model

A model is judged on samples by the share of pairs that it orders correctly, over
all queries together, and by the mean of the average precisions of the queries
that have relevant vectors.
-/

section

open Scalar

/-- The quality of a model on samples. -/
structure RankingAccuracy (K : Type) where
  /-- The share of pairs in the right order. -/
  rankingAccuracy : K
  meanAveragePrecision : K
  pairCount : Nat
  /-- The number of queries with relevant vectors. -/
  queryCount : Nat

/-- Sums from which accuracies are formed. -/
structure Tally (K : Type) where
  correctPairs : Nat
  totalPairs : Nat
  precisionSum : K
  judgedQueries : Nat

variable {K : Type} [Scalar K]

namespace Tally

def zero : Tally K := ⟨0, 0, 0, 0⟩

def add (left right : Tally K) : Tally K where
  correctPairs := left.correctPairs + right.correctPairs
  totalPairs := left.totalPairs + right.totalPairs
  precisionSum := left.precisionSum + right.precisionSum
  judgedQueries := left.judgedQueries + right.judgedQueries

/-- Shares are zero where there is nothing to share. -/
def summary (tally : Tally K) : RankingAccuracy K where
  rankingAccuracy :=
    if tally.totalPairs = 0 then 0 else ratio tally.correctPairs tally.totalPairs
  meanAveragePrecision :=
    if tally.judgedQueries = 0 then 0 else tally.precisionSum / (tally.judgedQueries : K)
  pairCount := tally.totalPairs
  queryCount := tally.judgedQueries

end Tally

namespace Model

/-- The scores of several vectors; no vectors have no scores. -/
def scoreAll? (model : Model K) (vectors : List (FeatureVector K)) : Except Error (List K) :=
  if vectors.isEmpty then .ok []
  else do return (← FeatureStack.ofVectors? vectors).scores model.weights

/-- What one query contributes. -/
def tallyQuery? (model : Model K) (query : Query K) : Except Error (Tally K) := do
  let relevant ← model.scoreAll? query.relevant
  let nonrelevant ← model.scoreAll? query.nonrelevant
  return {
    correctPairs := Metrics.correctPairs relevant nonrelevant
    totalPairs := query.pairCount
    precisionSum := Metrics.averagePrecision relevant nonrelevant
    judgedQueries := if relevant.isEmpty then 0 else 1 }

/-- What the queries of a dataset contribute together. -/
def tally? (model : Model K) (dataset : Dataset K) : Except Error (Tally K) := do
  match dataset.dimension with
  | some dimension =>
      if dimension ≠ model.dimension then
        throw (.dimensionMismatch (.int model.dimension) dimension "evaluation samples")
  | none => pure ()
  return (← dataset.queries.mapM model.tallyQuery?).foldl Tally.add .zero

/-- The accuracy of a model on samples, which must ask for some ordering. -/
def evaluate? (model : Model K) (samples : Samples K) : Except Error (RankingAccuracy K) := do
  let dataset ← samples.toRankingProblem? .evaluation
  return (← model.tally? dataset).summary

end Model

end

/-!
## Cross-validation

The queries of a dataset are cut into contiguous folds of nearly equal size.  For
every fold a model is trained on all other queries and judged on the fold.  The
results of all folds are pooled.

A learner is any function from datasets to models; it may keep a state, which
runs through all folds in order.  Before the first model is trained, every
training part is required to ask for some ordering.
-/

section

variable {K σ : Type} [Scalar K]

namespace Folds

/-- Bounds of folds whose sizes differ by at most one, the larger ones first. -/
def bounds (length folds : Nat) : List Nat :=
  (List.range (folds + 1)).map fun fold => fold * (length / folds) + min fold (length % folds)

/-- The items outside each fold and those inside. -/
def splits {α : Type} (items : List α) (folds : Nat) : List (List α × List α) :=
  let marks := bounds items.length folds
  (marks.zip (marks.drop 1)).map fun (first, last) =>
    (items.take first ++ items.drop last, (items.take last).drop first)

end Folds

/-- A training part and the fold that it leaves out. -/
structure FoldSplit (K : Type) where
  training : Dataset K
  heldOut : Dataset K

/-- The result of one fold. -/
structure FoldReport where
  fold : Nat
  correctPairs : Nat
  totalPairs : Nat
  deriving DecidableEq, Repr

/-- A function from datasets to models, with a state. -/
abbrev Learner (K σ : Type) := Dataset K → σ → Except Error (Model K) × σ

namespace CrossValidation

/-- The split at a fold; its training part must ask for some ordering. -/
def split? (fold : Nat) (queries : List (Query K) × List (Query K)) :
    Except Error (FoldSplit K) := do
  let training ← Dataset.ofQueries? queries.1
  if !training.isRankingProblem then throw (.foldWithoutPairs fold)
  return ⟨training, ← Dataset.ofQueries? queries.2⟩

/-- All splits, checked in the order of the folds. -/
def splits? (dataset : Dataset K) (folds : Nat) : Except Error (List (FoldSplit K)) :=
  (Folds.splits dataset.queries folds).zipIdx.mapM fun (queries, fold) => split? fold queries

/-- Train and judge fold by fold, from the one numbered `fold` on; each result is
shown to the learner's state before the next fold begins. -/
def judge (learner : Learner K σ) (observe : FoldReport → σ → σ) (fold : Nat)
    (total : Tally K) : List (FoldSplit K) → σ → Except Error (Tally K) × σ
  | [], state => (.ok total, state)
  | split :: rest, state =>
      let (model, state) := learner split.training state
      match model >>= fun model => model.tally? split.heldOut with
      | .error problem => (.error problem, state)
      | .ok tally =>
          let state := observe ⟨fold, tally.correctPairs, tally.totalPairs⟩ state
          judge learner observe (fold + 1) (total.add tally) rest state

/-- Cross-validate on a dataset with a number of folds that is at least two and
at most the number of queries. -/
def ofDataset (learner : Learner K σ) (observe : FoldReport → σ → σ) (dataset : Dataset K)
    (folds : Nat) (state : σ) : Except Error (RankingAccuracy K) × σ :=
  match splits? dataset folds with
  | .error problem => (.error problem, state)
  | .ok splits =>
      let (total, state) := judge learner observe 0 .zero splits state
      (total.map (·.summary), state)

/-- The number of folds that a value asks for.  Fractions are dropped once the
value is known to lie in range. -/
def folds? (queries : Nat) (given : Value) : Except Error Nat := do
  let number ← given.comparand?.mapError .fault
  if number.below 2 || number.above queries then throw (.foldsOutOfRange queries given)
  match ← given.number?.mapError .fault with
  | .whole count => return count.toNat
  | .real count => if count.isNaN then throw (.fault .badValue) else return count.toUInt64.toNat

/-- Cross-validate on samples with a number of folds as it was given. -/
def ofSamples (learner : Learner K σ) (observe : FoldReport → σ → σ) (samples : Samples K)
    (folds : Value) (state : σ) : Except Error (RankingAccuracy K) × σ :=
  let prepared : Except Error (Dataset K × Nat) := do
    let dataset ← samples.toRankingProblem? .crossValidation
    return (dataset, ← folds? dataset.size folds)
  match prepared with
  | .error problem => (.error problem, state)
  | .ok (dataset, folds) => ofDataset learner observe dataset folds state

end CrossValidation

end

end HingeRank
