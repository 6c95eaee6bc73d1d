import Mathlib
import HingeRank.Proofs.Exact.Sequence
import HingeRank.Proofs.Feature.Stacks
import HingeRank.Proofs.Loss
import HingeRank.Proofs.Samples.Reading

/-!
# A loss fits its weights

The risk is computed by products and sums that cut the longer operand.  Taken with arrays, the
same steps refuse operands of other lengths, or repeat a single entry.  Neither happens: both
stacks of a query have the dimension of the dataset, each of their rows has one count, and so
every subgradient has that dimension.  None of this depends on the numbers.
-/

namespace HingeRank

open Linear

variable {K : Type} [Scalar K]

/-! ## Counts -/

namespace RankedItem

@[simp] theorem length_collect (margin : K) (relevant nonrelevant : List K) :
    (collect margin relevant nonrelevant).length = relevant.length + nonrelevant.length := by
  simp [collect]

omit [Scalar K] in
@[simp] theorem length_sweep (relevantSeen nonrelevantLeft : Nat) (items : List (RankedItem K)) :
    (sweep relevantSeen nonrelevantLeft items).length = items.length := by
  induction items generalizing relevantSeen nonrelevantLeft with
  | nil => rfl
  | cons item items ih =>
      unfold sweep
      split
      next => exact congrArg (· + 1) (ih _ _)
      next => exact congrArg (· + 1) (ih _ _)

end RankedItem

namespace Inversions

variable (margin : K) (relevant nonrelevant : List K)

@[simp] theorem length_relevant :
    (count margin relevant nonrelevant).relevant.length = relevant.length := by
  simp [count]

@[simp] theorem length_nonrelevant :
    (count margin relevant nonrelevant).nonrelevant.length = nonrelevant.length := by
  simp [count]

end Inversions

/-! ## One query -/

namespace QueryBlock

variable {block : QueryBlock K} {dimension : Nat} {weights : List K}

/-- The loss of a query, refused where arrays do not fit together. -/
def fittedLoss? (margin : K) (weights : List K) (block : QueryBlock K) :
    Except Fault (RawLoss K) := do
  let relevantScores ← block.relevant.scores? (.vector weights)
  let nonrelevantScores ← block.nonrelevant.scores? (.vector weights)
  let counts := Inversions.count margin relevantScores nonrelevantScores
  let relevantCounts := Tensor.vector (counts.relevant.map fun (count : Nat) => (count : K))
  let nonrelevantCounts := Tensor.vector (counts.nonrelevant.map fun (count : Nat) => (count : K))
  let gained ← nonrelevantCounts.inner? (.vector nonrelevantScores)
  let lost ← relevantCounts.inner? (.vector (relevantScores.map (· - margin)))
  let subgradient ← Tensor.zipWith? (· - ·)
    (.vector (← block.nonrelevant.weightedSum? nonrelevantCounts))
    (.vector (← block.relevant.weightedSum? relevantCounts))
  return ⟨gained - lost, subgradient.entries⟩

/-- Both stacks of the block have rows of this width. -/
structure Fits (block : QueryBlock K) (dimension : Nat) : Prop where
  relevant : ∃ count, block.relevant.HasShape count dimension
  nonrelevant : ∃ count, block.nonrelevant.HasShape count dimension

/-- At weights of the block's width every array fits. -/
theorem Fits.fittedLoss?_eq (fits : block.Fits dimension) (weights_eq : weights.length = dimension)
    (margin : K) : block.fittedLoss? margin weights = .ok (block.rawLoss margin weights) := by
  obtain ⟨relevantCount, relevant⟩ := fits.relevant
  obtain ⟨nonrelevantCount, nonrelevant⟩ := fits.nonrelevant
  have relevantScores := relevant.length_scores weights
  have nonrelevantScores := nonrelevant.length_scores weights
  have sums (left right : List K) : (block.nonrelevant.weightedSum left).length =
      (block.relevant.weightedSum right).length := by
    rw [nonrelevant.length_weightedSum, relevant.length_weightedSum]
  simp only [fittedLoss?, relevant.scores?_eq weights_eq, nonrelevant.scores?_eq weights_eq,
    ok_bind]
  rw [Tensor.inner?_vector (by simp), Tensor.inner?_vector (by simp)]
  simp only [ok_bind]
  rw [nonrelevant.weightedSum?_eq (by simp [nonrelevantScores]),
    relevant.weightedSum?_eq (by simp [relevantScores])]
  simp only [ok_bind]
  rw [Tensor.zipWith?_vector _ (sums _ _)]
  rfl

theorem Fits.length_subgradient (fits : block.Fits dimension) (margin : K) (weights : List K) :
    (block.rawLoss margin weights).subgradient.length = dimension := by
  obtain ⟨relevantCount, relevant⟩ := fits.relevant
  obtain ⟨nonrelevantCount, nonrelevant⟩ := fits.nonrelevant
  refine (length_sub _ _).trans ?_
  rw [relevant.length_weightedSum, nonrelevant.length_weightedSum, min_self]

/-- A query with pairs whose vectors have one dimension makes a block of this width. -/
theorem ofQuery?_fits {query : Query K} (hasPairs : query.hasPairs = true)
    (same : ∀ vector ∈ query.vectors, vector.dimension = dimension) :
    ∃ block, ofQuery? query = .ok block ∧ block.Fits dimension := by
  obtain ⟨someRelevant, someNonrelevant⟩ := Query.hasPairs_eq_true_iff.mp hasPairs
  obtain ⟨relevant, relevantStacked, relevantShape⟩ := FeatureStack.ofVectors?_hasShape
    someRelevant fun vector member => same vector (List.mem_append_left _ member)
  obtain ⟨nonrelevant, nonrelevantStacked, nonrelevantShape⟩ := FeatureStack.ofVectors?_hasShape
    someNonrelevant fun vector member => same vector (List.mem_append_right _ member)
  refine ⟨⟨relevant, nonrelevant⟩, ?_, ⟨_, relevantShape⟩, ⟨_, nonrelevantShape⟩⟩
  rw [ofQuery?, relevantStacked, nonrelevantStacked]
  rfl

end QueryBlock

/-! ## Sums of losses -/

namespace RawLoss

variable {dimension : Nat} {left right : RawLoss K} {losses : List (RawLoss K)}

/-- The sum of two losses, the second of which must not extend the first. -/
def add? (left right : RawLoss K) : Except Fault (RawLoss K) := do
  let subgradient ← Tensor.update? (· + ·) (.vector left.subgradient) (.vector right.subgradient)
  return ⟨left.loss + right.loss, subgradient.entries⟩

/-- The sum of several losses, refused where one does not fit. -/
def total? (dimension : Nat) (losses : List (RawLoss K)) : Except Fault (RawLoss K) :=
  losses.foldlM add? (zero dimension)

/-- Each of the losses has a subgradient of this dimension. -/
def Aligned (losses : List (RawLoss K)) (dimension : Nat) : Prop :=
  ∀ loss ∈ losses, loss.subgradient.length = dimension

@[simp] theorem add?_eq (equal : left.subgradient.length = right.subgradient.length) :
    left.add? right = .ok (left.add right) := by
  simp only [add?, Tensor.update?_vector _ equal, ok_bind]
  rfl

theorem length_add_of_eq (leftEq : left.subgradient.length = dimension)
    (rightEq : right.subgradient.length = dimension) :
    (left.add right).subgradient.length = dimension := by
  refine (length_add _ _).trans ?_
  rw [leftEq, rightEq, min_self]

/-- Losses of one dimension are added up in any number. -/
theorem foldlM_add?_eq (aligned : Aligned losses dimension)
    (begins : left.subgradient.length = dimension) :
    losses.foldlM add? left = .ok (losses.foldl add left) ∧
      (losses.foldl add left).subgradient.length = dimension := by
  induction losses generalizing left with
  | nil => exact ⟨rfl, begins⟩
  | cons loss losses ih =>
      have loss_eq := aligned loss List.mem_cons_self
      have others : Aligned losses dimension :=
        fun other member => aligned other (List.mem_cons_of_mem _ member)
      rw [List.foldlM_cons, add?_eq (begins.trans loss_eq.symm)]
      exact ih others (length_add_of_eq begins loss_eq)

theorem total?_eq (aligned : Aligned losses dimension) :
    total? dimension losses = .ok (total dimension losses) :=
  (foldlM_add?_eq aligned (length_zeros dimension)).1

theorem length_total (aligned : Aligned losses dimension) :
    (total dimension losses).subgradient.length = dimension :=
  (foldlM_add?_eq aligned (length_zeros dimension)).2

end RawLoss

/-! ## A whole loss -/

namespace RankingLoss

variable {ranking : RankingLoss K} {dataset : Dataset K} {margin : K} {workers : Number}
  {weights : List K}

/-- What one worker adds up. -/
def part (ranking : RankingLoss K) (weights : List K) (blocks : List (QueryBlock K)) : RawLoss K :=
  RawLoss.total ranking.dimension (blocks.map (·.rawLoss ranking.margin weights))

/-- What one worker adds up, refused where arrays do not fit together. -/
def fittedPart? (ranking : RankingLoss K) (weights : List K) (blocks : List (QueryBlock K)) :
    Except Fault (RawLoss K) := do
  RawLoss.total? ranking.dimension (← blocks.mapM (·.fittedLoss? ranking.margin weights))

/-- Risk and subgradient, refused where arrays do not fit together. -/
def fittedRisk? (ranking : RankingLoss K) (weights : List K) : Except Fault (K × List K) := do
  let raw ← RawLoss.total? ranking.dimension (← ranking.parts.mapM (ranking.fittedPart? weights))
  let factor : K := 1 / (ranking.pairCount : K)
  return (raw.loss * factor, raw.subgradient.map (· * factor))

/-- The blocks of all workers have the dimension of the loss. -/
def Fits (ranking : RankingLoss K) : Prop :=
  ∀ blocks ∈ ranking.parts, ∀ block ∈ blocks, block.Fits ranking.dimension

namespace Fits

theorem aligned_losses (fits : ranking.Fits) (weights : List K) {blocks : List (QueryBlock K)}
    (member : blocks ∈ ranking.parts) :
    RawLoss.Aligned (blocks.map (·.rawLoss ranking.margin weights)) ranking.dimension := by
  intro loss lossMem
  obtain ⟨block, blockMem, rfl⟩ := List.mem_map.mp lossMem
  exact (fits blocks member block blockMem).length_subgradient ranking.margin weights

theorem aligned_parts (fits : ranking.Fits) (weights : List K) :
    RawLoss.Aligned (ranking.parts.map (ranking.part weights)) ranking.dimension := by
  intro loss lossMem
  obtain ⟨blocks, blocksMem, rfl⟩ := List.mem_map.mp lossMem
  exact RawLoss.length_total (fits.aligned_losses weights blocksMem)

theorem fittedPart?_eq (fits : ranking.Fits) (weights_eq : weights.length = ranking.dimension)
    {blocks : List (QueryBlock K)} (member : blocks ∈ ranking.parts) :
    ranking.fittedPart? weights blocks = .ok (ranking.part weights blocks) := by
  have losses : blocks.mapM (·.fittedLoss? ranking.margin weights) =
      .ok (blocks.map (·.rawLoss ranking.margin weights)) :=
    mapM_eq_pure fun block blockMem =>
      (fits blocks member block blockMem).fittedLoss?_eq weights_eq ranking.margin
  rw [fittedPart?, losses]
  exact RawLoss.total?_eq (fits.aligned_losses weights member)

/-- At weights of the loss's dimension every array fits. -/
theorem fittedRisk?_eq (fits : ranking.Fits) (weights_eq : weights.length = ranking.dimension) :
    ranking.fittedRisk? weights = .ok (ranking.risk weights) := by
  have parts : ranking.parts.mapM (ranking.fittedPart? weights) =
      .ok (ranking.parts.map (ranking.part weights)) :=
    mapM_eq_pure fun blocks member => fits.fittedPart?_eq weights_eq member
  simp only [fittedRisk?, parts, ok_bind, RawLoss.total?_eq (fits.aligned_parts weights)]
  rfl

theorem length_slope (fits : ranking.Fits) (weights : List K) :
    (ranking.risk weights).2.length = ranking.dimension :=
  (List.length_map _).trans (RawLoss.length_total (fits.aligned_parts weights))

end Fits

/-- The loss is evaluated at all weights of its dimension, where no array is refused, and counts
these evaluations.  It refuses all other weights without counting. -/
structure Evaluates (ranking : RankingLoss K) : Prop where
  answers : ∀ weights evaluations, weights.length = ranking.dimension →
    ∃ risk slope, ranking.fittedRisk? weights = .ok (risk, slope) ∧
      slope.length = ranking.dimension ∧
      ranking.oracle.evaluate weights evaluations = (.ok ⟨risk, .vector slope⟩, evaluations + 1)
  refuses : ∀ weights evaluations, weights.length ≠ ranking.dimension →
    ranking.oracle.evaluate weights evaluations =
      (.error (.dimensionMismatch (.int ranking.dimension) weights.length "weight vector"),
        evaluations)

theorem Fits.evaluates (fits : ranking.Fits) : ranking.Evaluates := by
  constructor
  · intro weights evaluations weights_eq
    have answered : ranking.risk? weights = .ok (ranking.risk weights) := if_pos weights_eq
    refine ⟨(ranking.risk weights).1, (ranking.risk weights).2, fits.fittedRisk?_eq weights_eq,
      fits.length_slope weights, ?_⟩
    simp only [oracle, answered]
  · intro weights evaluations weights_ne
    simp only [oracle, risk?, if_neg weights_ne]

/-- Every query with pairs makes a block of the dataset's dimension. -/
theorem exists_blocks (dataset : Dataset K) :
    ∃ blocks, dataset.rankingQueries.mapM QueryBlock.ofQuery? = .ok blocks ∧
      ∀ block ∈ blocks, block.Fits (dataset.dimension.getD 0) := by
  have stacked : ∀ query ∈ dataset.rankingQueries, ∃ block, QueryBlock.ofQuery? query = .ok block ∧
      (block.Fits (dataset.dimension.getD 0) ∧ True) := by
    intro query member
    obtain ⟨queryMem, hasPairs⟩ := List.mem_filter.mp member
    obtain ⟨block, made, fits⟩ :=
      QueryBlock.ofQuery?_fits hasPairs (dataset.haveDimension query queryMem)
    exact ⟨block, made, fits, trivial⟩
  obtain ⟨blocks, made, related⟩ := mapM_forall₂ stacked
  exact ⟨blocks, made, ((List.forall₂_and_left _ _).mp related).1⟩

/-- What a loss built from a dataset consists of. -/
theorem ofDataset?_parts (built : ofDataset? dataset margin workers = .ok ranking) :
    ∃ blocks parts, dataset.rankingQueries.mapM QueryBlock.ofQuery? = .ok blocks ∧
      divide? workers blocks = .ok parts ∧
      ranking = ⟨dataset.dimension.getD 0, dataset.pairCount, margin, parts⟩ := by
  obtain ⟨blocks, made, -⟩ := exists_blocks dataset
  cases divided : divide? workers blocks with
  | error fault =>
      simp only [ofDataset?, made, divided, mapError_error, ok_bind, error_bind] at built
      cases built
  | ok parts =>
      simp only [ofDataset?, made, divided, mapError_ok, ok_bind] at built
      cases built
      exact ⟨blocks, parts, made, divided, rfl⟩

theorem pairCount_of_built (built : ofDataset? dataset margin workers = .ok ranking) :
    ranking.pairCount = dataset.pairCount := by
  obtain ⟨-, -, -, -, rfl⟩ := ofDataset?_parts built
  rfl

theorem dimension_of_built (built : ofDataset? dataset margin workers = .ok ranking) :
    ranking.dimension = dataset.dimension.getD 0 := by
  obtain ⟨-, -, -, -, rfl⟩ := ofDataset?_parts built
  rfl

/-- A loss built from a dataset fits, whatever the workers. -/
theorem ofDataset?_fits (built : ofDataset? dataset margin workers = .ok ranking) :
    ranking.Fits := by
  obtain ⟨blocks, made, fits⟩ := exists_blocks dataset
  obtain ⟨others, parts, remade, divided, rfl⟩ := ofDataset?_parts built
  cases made.symm.trans remade
  intro part partMem block blockMem
  apply fits
  rw [← flatten_divide? divided]
  exact List.mem_flatten.mpr ⟨part, partMem, blockMem⟩

/-- A whole number of workers can always divide the queries. -/
theorem ofDataset?_whole (dataset : Dataset K) (margin : K) (count : Int) :
    ∃ ranking, ofDataset? dataset margin (.whole count) = .ok ranking := by
  obtain ⟨blocks, made, -⟩ := exists_blocks dataset
  simp only [ofDataset?, made, divide?, Number.partCount?, ok_bind]
  exact ⟨_, rfl⟩

end RankingLoss

end HingeRank
