import Mathlib
import HingeRank.Proofs.Optimizer.Convergence
import HingeRank.Proofs.Ranking.Risk

/-!
# Pairs decide the planes

A loss is a mean over pairs, pairs decide its planes, and their number bounds the steps of
a run.
-/

namespace HingeRank

/-!
## Losses are means over pairs

The answer of a loss is written out in the components of the vectors: the risk and each
component of the slope are means over the relevant and the nonrelevant vectors of every query.
The component of a slope at a position is its inner product with the unit vector of that
position, which is how it is found from the inner products that are known already.
-/

section

open Linear RankingPair

/-! ### Unit vectors -/

namespace Linear

/-- One at a position and zero elsewhere. -/
def unit (dimension position : Nat) : List ℚ := (zeros dimension).modify position (· + 1)

@[simp] theorem length_unit (dimension position : Nat) :
    (unit dimension position).length = dimension := by
  rw [unit, List.length_modify, length_zeros]

theorem dot_unit {dimension position : Nat} (inBounds : position < dimension) (vector : List ℚ) :
    dot vector (unit dimension position) = entry vector position := by
  rw [dot_comm, unit, dot_modify_add (by simpa using inBounds), dot_zeros_left, zero_add, one_mul]

end Linear

/-! ### Means -/

namespace Dataset

variable {dataset : Dataset ℚ} {margin : ℚ} {weights : List ℚ}

/-- The mean of a quantity over the relevant and the nonrelevant vectors of every query. -/
def pairMean (dataset : Dataset ℚ) (quantity : List ℚ → List ℚ → ℚ) : ℚ :=
  (dataset.queries.map fun query =>
    (query.relevant.map fun relevant =>
      (query.nonrelevant.map fun nonrelevant =>
        quantity relevant.components nonrelevant.components).sum).sum).sum /
  (dataset.queries.map fun query =>
    (query.relevant.length : ℚ) * (query.nonrelevant.length : ℚ)).sum

theorem sum_map_product {α β : Type} (left : List α) (right : List β) (value : α × β → ℚ) :
    ((left.product right).map value).sum =
      (left.map fun x => (right.map fun y => value (x, y)).sum).sum := by
  rw [List.product, List.map_flatMap, List.flatMap_def, List.sum_flatten]
  simp only [List.map_map, Function.comp_def]

theorem pairMean_eq (dataset : Dataset ℚ) (quantity : List ℚ → List ℚ → ℚ) :
    dataset.pairMean quantity =
      (dataset.pairs.map fun pair => quantity pair.1.components pair.2.components).sum /
        dataset.pairCount := by
  have counted : (dataset.pairCount : ℚ) = (dataset.queries.map fun query =>
      (query.relevant.length : ℚ) * (query.nonrelevant.length : ℚ)).sum := by
    rw [pairCount, ← List.sum_eq_foldr, Nat.cast_list_sum, List.map_map]
    simp only [Function.comp_def, Query.pairCount, Nat.cast_mul]
  rw [pairMean, counted, pairs, List.map_flatMap, List.flatMap_def, List.sum_flatten]
  simp only [List.map_map, Function.comp_def, Query.pairs, sum_map_product]

/-- The lead of a pair in terms of all components. -/
theorem lead_eq_dot {pair : RankingPair} (member : pair ∈ dataset.pairs)
    (equal : weights.length = dataset.width) :
    lead weights pair = dot weights pair.1.components - dot weights pair.2.components := by
  obtain ⟨first, second⟩ := dimension_of_mem_pairs member
  rw [lead, dot_comm weights, dot_comm weights,
    FeatureVector.dot_components _ (equal.trans first.symm),
    FeatureVector.dot_components _ (equal.trans second.symm)]

theorem risk_eq_pairMean (equal : weights.length = dataset.width) :
    dataset.risk margin weights = dataset.pairMean fun relevant nonrelevant =>
      max 0 (margin - (dot weights relevant - dot weights nonrelevant)) := by
  rw [pairMean_eq, risk]
  congr 2
  apply List.map_congr_left
  intro pair member
  rw [shortfall, lead_eq_dot member equal]

theorem entry_slopeOf_missed (equal : weights.length = dataset.width) {position : Nat}
    (inBounds : position < dataset.width) :
    entry (dataset.slopeOf (dataset.missed margin weights)) position =
      dataset.pairMean fun relevant nonrelevant =>
        if dot weights relevant - dot weights nonrelevant < margin then
          entry nonrelevant position - entry relevant position else 0 := by
  have known := dataset.missed_sublist margin weights
  rw [← dot_unit inBounds, dot_slopeOf known (length_unit _ _), missed, sum_map_filter,
    pairMean_eq, List.sum_neg, List.map_map]
  congr 2
  apply List.map_congr_left
  intro pair member
  rw [Function.comp_apply, isMissed, lead_eq_dot member equal,
    lead_eq_dot member (length_unit _ _), dot_comm (unit _ _), dot_comm (unit _ _),
    dot_unit inBounds, dot_unit inBounds]
  simp only [decide_eq_true_eq]
  split
  next => rw [neg_sub]
  next => rw [neg_zero]

/-- The slope of the missed pairs, component by component. -/
theorem slopeOf_missed_eq (equal : weights.length = dataset.width) :
    dataset.slopeOf (dataset.missed margin weights) =
      (List.range dataset.width).map fun position =>
        dataset.pairMean fun relevant nonrelevant =>
          if dot weights relevant - dot weights nonrelevant < margin then
            entry nonrelevant position - entry relevant position else 0 := by
  have length_eq := length_slopeOf (dataset.missed_sublist margin weights)
  apply List.ext_getElem
  · rw [length_eq, List.length_map, List.length_range]
  · intro position inBounds _
    rw [List.getElem_map, List.getElem_range, ← entry_eq_getElem inBounds,
      entry_slopeOf_missed equal (length_eq ▸ inBounds)]

end Dataset

/-- **A loss is the mean over the pairs.**  A dataset with pairs makes a loss, for any margin and
any number of workers, that answers with the mean shortfall of the pairs and the mean difference
of the vectors in the pairs that miss the margin. -/
theorem RankingLoss.evaluate_eq_pairMean {dataset : Dataset ℚ} {weights : List ℚ}
    (isProblem : 0 < dataset.pairCount) (known : dataset.dimension = some weights.length)
    (margin : ℚ) (workers : Int) :
    (Samples.dataset dataset).toRankingProblem? .lossEvaluation = .ok dataset ∧
    ∃ loss, ofDataset? dataset margin (.whole workers) = .ok loss ∧
      ∀ evaluations, loss.oracle.evaluate weights evaluations =
        (.ok {
          risk := dataset.pairMean fun relevant nonrelevant =>
            max 0 (margin - (dot weights relevant - dot weights nonrelevant))
          subgradient := .vector ((List.range weights.length).map fun position =>
            dataset.pairMean fun relevant nonrelevant =>
              if dot weights relevant - dot weights nonrelevant < margin then
                entry nonrelevant position - entry relevant position else 0) },
          evaluations + 1) := by
  have equal : weights.length = dataset.width := by
    rw [Dataset.width, known, Option.getD_some]
  constructor
  · have accepted : dataset.isRankingProblem = true := decide_eq_true isProblem
    exact (Samples.toRankingProblem?_of_read rfl _).trans (if_pos accepted)
  · obtain ⟨loss, built⟩ := ofDataset?_whole dataset margin workers
    refine ⟨loss, built, ?_⟩
    intro evaluations
    rw [(ofDataset?_averages built).oracle_eq]
    simp only [Dataset.pairOracle, if_pos equal]
    rw [Dataset.risk_eq_pairMean equal, Dataset.slopeOf_missed_eq equal, equal]

/-- With a negative margin one pair misses it and another one is exactly on it; the second query
has no pairs. -/
theorem RankingLoss.evaluate_eq_pairMean_on_margin :
    let dataset : Dataset ℚ := ⟨[⟨[.dense [1, 0], .sparse 2 [(1, 2)]], [.dense [0, 3]]⟩,
      ⟨[], [.dense [5, 5]]⟩], some 2, rfl⟩
    0 < dataset.pairCount ∧ dataset.dimension = some [1, 1].length ∧
    ∃ loss, ofDataset? dataset (-1) (.whole 3) = .ok loss ∧
      ∀ evaluations, loss.oracle.evaluate [1, 1] evaluations =
        (.ok ⟨1 / 2, .vector [-1 / 2, 3 / 2]⟩, evaluations + 1) := by
  intro dataset
  have isProblem : 0 < dataset.pairCount := by decide
  have known : dataset.dimension = some ([1, 1] : List ℚ).length := rfl
  obtain ⟨-, loss, built, answers⟩ := evaluate_eq_pairMean isProblem known (-1) 3
  refine ⟨isProblem, known, loss, built, ?_⟩
  intro evaluations
  rw [answers]
  congr 3
  · decide +kernel
  · apply congrArg Tensor.vector
    decide +kernel

end

/-!
## Rankings converge

The oracle of a dataset answers with the planes of missed pairs, of which there are two to
the number of pairs.  The optimizer therefore converges on a dataset within that many steps,
provided that subproblems are solved up to their tolerance and no plane is dropped.
-/

section

open Linear

namespace RankingLoss

variable {dataset : Dataset ℚ} {margin tradeoff : ℚ} {workers : Number} {loss : RankingLoss ℚ}
  {config : OptimizerConfig ℚ}

/-- Where the same pairs are missed the risk is touched by the same plane. -/
theorem Averages.same_plane (averages : loss.Averages dataset margin) {first second : List ℚ}
    (first_eq : first.length = dataset.width) (second_eq : second.length = dataset.width)
    (same : ∀ pair ∈ dataset.pairs,
      RankingPair.isMissed margin first pair = RankingPair.isMissed margin second pair) :
    ((loss.risk first).2, (loss.risk first).1 - dot (loss.risk first).2 first) =
      ((loss.risk second).2, (loss.risk second).1 - dot (loss.risk second).2 second) := by
  have missed_eq : dataset.missed margin first = dataset.missed margin second :=
    List.filter_congr same
  rw [averages.risk_eq, averages.risk_eq, (averages.isSlope first).plane_eq first_eq,
    (averages.isSlope second).plane_eq second_eq, missed_eq]

/-- The optimizer converges on a dataset within two to the number of pairs steps.  Every
step before adds a plane that is not there yet, and planes depend only on the missed
pairs. -/
theorem optimize_ranking (built : ofDataset? dataset margin workers = .ok loss)
    (valid : config.Valid) (fine : config.qpEpsilon < 1) (untimed : config.maxSeconds = none)
    (tradeoff_pos : 0 < tradeoff) (enough : 2 ^ dataset.pairCount ≤ config.maxIterations)
    (clock : Nat → ℚ) (readings evaluations : Nat)
    (settles : ∀ reached, config.Visited loss.oracle tradeoff evaluations reached →
      config.shouldStop reached.1 = false →
      ∀ solution, config.Finds loss.oracle tradeoff reached.1 reached.2 solution →
        solution.iterations < config.qpMaxIterations)
    (untrimmed : ∀ result,
      (config.optimize loss.oracle tradeoff clock readings evaluations).result = .ok result →
      result.iterations < config.inactivePlaneThreshold) :
    (∃ result,
      (config.optimize loss.oracle tradeoff clock readings evaluations).result = .ok result ∧
      result.converged = true ∧ result.iterations ≤ 2 ^ dataset.pairCount) ∧
    (∀ reached, config.Visited loss.oracle tradeoff evaluations reached →
      reached.1.converged = false →
      (reached.2.arena.gradients.zip reached.2.arena.offsets).Nodup ∧
        (reached.2.arena.gradients.zip reached.2.arena.offsets).length =
          reached.1.iteration + 1) ∧
    ∀ first second : List ℚ, first.length = loss.dimension → second.length = loss.dimension →
      (∀ pair ∈ dataset.pairs,
        RankingPair.isMissed margin first pair = RankingPair.isMissed margin second pair) →
      ((loss.risk first).2, (loss.risk first).1 - dot (loss.risk first).2 first) =
        ((loss.risk second).2, (loss.risk second).1 - dot (loss.risk second).2 second) := by
  have averages := ofDataset?_averages built
  have answers : loss.oracle.Answers (dataset.risk margin) (dataset.IsSlope margin) := by
    rw [averages.oracle_eq]
    exact dataset.pairOracle_answers margin
  have width_eq : loss.oracle.dimension = dataset.width := averages.dimension_eq
  rw [← dataset.length_planes margin] at enough
  obtain ⟨result, outcome, converged, bound, distinct⟩ :=
    OptimizerConfig.optimize_converges valid fine untimed tradeoff_pos answers
      (fun weights slope equal isSlope => isSlope.plane_mem_planes (equal.trans width_eq))
      (width_eq ▸ dataset.zero_mem_planes margin) enough clock readings evaluations settles
      untrimmed
  rw [dataset.length_planes] at bound
  refine ⟨⟨result, outcome, converged, bound⟩, distinct, ?_⟩
  intro first second first_eq second_eq same
  exact averages.same_plane (first_eq.trans averages.dimension_eq)
    (second_eq.trans averages.dimension_eq) same

/-- One pair is ranked in two steps. -/
theorem optimize_ranking_one_pair :
    let dataset : Dataset ℚ := ⟨[⟨[.dense [1]], [.dense [0]]⟩], some 1, rfl⟩
    let config : OptimizerConfig ℚ := .coarse
    ∃ loss, ofDataset? dataset 1 (.whole 1) = .ok loss ∧
      ∃ result, (config.optimize loss.oracle 1 (fun reading => reading) 0 0).result = .ok result ∧
        result.converged = true ∧ result.iterations ≤ 2 := by
  intro dataset config
  obtain ⟨loss, built⟩ := ofDataset?_whole dataset 1 1
  have oracle_eq : loss.oracle = dataset.pairOracle 1 := (ofDataset?_averages built).oracle_eq
  refine ⟨loss, built, ?_⟩
  have settles : ∀ reached, config.Visited loss.oracle 1 0 reached →
      config.shouldStop reached.1 = false →
      ∀ solution, config.Finds loss.oracle 1 reached.1 reached.2 solution →
        solution.iterations < config.qpMaxIterations := by
    rw [oracle_eq]
    intro reached visited going solution finds
    obtain ⟨steps, rfl, wanted⟩ := visited.exists_iterate
    have few : steps < 2 := by
      have stops : config.shouldStop ((config.following (dataset.pairOracle 1) 1)^[2]
          (OptimizerConfig.beginning (dataset.pairOracle 1) 0)).1 = true := by
        decide +kernel
      rcases lt_trichotomy steps 2 with less | rfl | more
      · exact less
      · exact absurd going (by rw [stops]; decide)
      · exact absurd (wanted 2 more) (by rw [stops]; decide)
    have all : ∀ steps < 2,
        let situation := (config.following (dataset.pairOracle 1) 1)^[steps]
          (OptimizerConfig.beginning (dataset.pairOracle 1) 0)
        (config.foundIterations? (dataset.pairOracle 1) 1 situation.1 situation.2).all
          (· < 10) = true := by
      decide +kernel
    have computed := all steps few
    simp only [finds.iterations_eq] at computed
    exact of_decide_eq_true computed
  have untrimmed : ∀ result,
      (config.optimize loss.oracle 1 (fun reading => reading) 0 0).result = .ok result →
      result.iterations < config.inactivePlaneThreshold := by
    have evaluated : ((config.optimize (dataset.pairOracle 1) 1
        (fun reading => reading) 0 0).result.toOption.all (·.iterations < 20)) = true := by
      decide +kernel
    rw [oracle_eq]
    intro result outcome
    rw [outcome] at evaluated
    exact of_decide_eq_true evaluated
  exact (optimize_ranking built OptimizerConfig.coarse_valid (by norm_num [OptimizerConfig.coarse])
    rfl one_pos (by decide) (fun reading => reading) 0 0 settles untrimmed).1

end RankingLoss

end

/-!
## Planes that support the risk

The answer of a loss at a weight vector is a plane that touches the risk there.  No weights lie
below it, because each pair that is missed at the first weights falls short at the others by what
its lead says at least.

The offset of the plane is the margin times the share of the pairs that are missed.  So which
pairs are missed decides the plane, slope and offset alike.
-/

section

open Linear RankingPair

/-- The relevant vector does not score above the other one by the margin. -/
def Violates (margin : ℚ) (weights : List ℚ) (relevant nonrelevant : FeatureVector ℚ) : Prop :=
  dot weights relevant.components - dot weights nonrelevant.components < margin

instance (margin : ℚ) (weights : List ℚ) (relevant nonrelevant : FeatureVector ℚ) :
    Decidable (Violates margin weights relevant nonrelevant) :=
  inferInstanceAs (Decidable (_ < _))

namespace Dataset

variable {dataset : Dataset ℚ} {margin : ℚ} {weights : List ℚ}

/-- The number of pairs, in all queries, that violate the margin. -/
def violations (dataset : Dataset ℚ) (margin : ℚ) (weights : List ℚ) : Nat :=
  (dataset.queries.map fun query =>
    (query.relevant.map fun relevant =>
      query.nonrelevant.countP fun nonrelevant =>
        Violates margin weights relevant nonrelevant).sum).sum

/-- The same pairs violate the margin at two weight vectors. -/
def SameViolations (dataset : Dataset ℚ) (margin : ℚ) (first second : List ℚ) : Prop :=
  ∀ query ∈ dataset.queries, ∀ relevant ∈ query.relevant, ∀ nonrelevant ∈ query.nonrelevant,
    (Violates margin first relevant nonrelevant ↔ Violates margin second relevant nonrelevant)

theorem isMissed_iff_violates {pair : RankingPair} (member : pair ∈ dataset.pairs)
    (equal : weights.length = dataset.width) :
    isMissed margin weights pair = true ↔ Violates margin weights pair.1 pair.2 := by
  rw [isMissed, lead_eq_dot member equal, decide_eq_true_eq]
  rfl

theorem length_missed (equal : weights.length = dataset.width) :
    (dataset.missed margin weights).length = dataset.violations margin weights := by
  have counted : dataset.pairs.countP (isMissed margin weights) =
      dataset.pairs.countP fun pair => Violates margin weights pair.1 pair.2 := by
    apply List.countP_congr
    intro pair member
    rw [isMissed_iff_violates member equal, decide_eq_true_eq]
  rw [missed, ← List.countP_eq_length_filter, counted, pairs, List.countP_flatMap, violations]
  congr 1
  apply List.map_congr_left
  intro query _
  exact (sum_countP_left (fun relevant nonrelevant =>
    decide (Violates margin weights relevant nonrelevant)) _ _).symm

theorem SameViolations.isMissed_eq {first second : List ℚ}
    (same : dataset.SameViolations margin first second) (first_eq : first.length = dataset.width)
    (second_eq : second.length = dataset.width) {pair : RankingPair}
    (member : pair ∈ dataset.pairs) : isMissed margin first pair = isMissed margin second pair := by
  obtain ⟨query, queryMem, pairMem⟩ := List.mem_flatMap.mp member
  obtain ⟨relevantMem, nonrelevantMem⟩ := List.pair_mem_product.mp pairMem
  rw [Bool.eq_iff_iff, isMissed_iff_violates member first_eq,
    isMissed_iff_violates member second_eq]
  exact same query queryMem pair.1 relevantMem pair.2 nonrelevantMem

end Dataset

/-- **A loss answers with planes that support a risk**, which is not negative.  This holds of every
dataset with pairs, for any margin and any number of workers, between any two weight vectors.  The
offset of a plane is the margin times the share of the pairs that violate it, and where the same
pairs violate the margin the plane is the same. -/
theorem RankingLoss.evaluate_supports {dataset : Dataset ℚ} (isProblem : 0 < dataset.pairCount)
    (margin : ℚ) (workers : Int) :
    ∃ loss, ofDataset? dataset margin (.whole workers) = .ok loss ∧
      dataset.dimension = some loss.dimension ∧
      ∀ weights others : List ℚ, weights.length = loss.dimension →
        others.length = loss.dimension → ∀ evaluations later,
        ∃ risk slope otherRisk otherSlope,
          loss.oracle.evaluate weights evaluations =
            (.ok ⟨risk, .vector slope⟩, evaluations + 1) ∧
          loss.oracle.evaluate others later = (.ok ⟨otherRisk, .vector otherSlope⟩, later + 1) ∧
          slope.length = loss.dimension ∧
          risk + dot slope (sub others weights) ≤ otherRisk ∧
          0 ≤ risk ∧
          risk - dot slope weights =
            margin * dataset.violations margin weights / dataset.pairCount ∧
          (dataset.SameViolations margin weights others →
            slope = otherSlope ∧
              risk - dot slope weights = otherRisk - dot otherSlope others) := by
  obtain ⟨loss, built⟩ := ofDataset?_whole dataset margin workers
  have averages := ofDataset?_averages built
  have isRankingProblem : dataset.isRankingProblem = true := decide_eq_true isProblem
  have known : dataset.dimension = some loss.dimension :=
    averages.dimension_eq ▸ Dataset.dimension_eq_some isRankingProblem
  refine ⟨loss, built, known, ?_⟩
  intro weights others weights_eq others_eq evaluations later
  have answer (point : List ℚ) (equal : point.length = loss.dimension) (asked : Nat) :
      loss.oracle.evaluate point asked =
        (.ok ⟨(loss.risk point).1, .vector (loss.risk point).2⟩, asked + 1) := by
    simp only [oracle, risk?, if_pos equal]
  refine ⟨_, _, _, _, answer weights weights_eq evaluations, answer others others_eq later, ?_⟩
  rw [averages.dimension_eq] at weights_eq others_eq ⊢
  have isSlope := averages.isSlope weights
  have plane := isSlope.plane_eq weights_eq
  refine ⟨isSlope.length_eq, ?_, ?_, ?_, ?_⟩
  · rw [averages.risk_eq, averages.risk_eq]
    exact isSlope.supports weights_eq others others_eq
  · rw [averages.risk_eq]
    exact dataset.risk_nonneg margin weights
  · rw [averages.risk_eq, ← Dataset.length_missed weights_eq]
    exact congrArg Prod.snd plane
  · intro same
    exact Prod.mk.inj (averages.same_plane weights_eq others_eq fun pair member =>
      same.isMissed_eq weights_eq others_eq member)

/-- Two weight vectors at which both pairs violate the margin, one of them in a query with a sparse
vector. -/
theorem RankingLoss.evaluate_supports_same_violations :
    let dataset : Dataset ℚ := ⟨[⟨[.dense [1, 0], .sparse 2 [(1, 2)]], [.dense [0, 3]]⟩,
      ⟨[], [.dense [5, 5]]⟩], some 2, rfl⟩
    0 < dataset.pairCount ∧ dataset.violations 2 [1, 1] = 2 ∧
    ∃ loss, ofDataset? dataset 2 (.whole 3) = .ok loss ∧
      ∃ risk slope otherRisk,
        loss.oracle.evaluate [1, 1] 0 = (.ok ⟨risk, .vector slope⟩, 1) ∧
        loss.oracle.evaluate [3, 1] 5 = (.ok ⟨otherRisk, .vector slope⟩, 6) ∧
        risk + dot slope (sub [3, 1] [1, 1]) ≤ otherRisk ∧ risk - dot slope [1, 1] = 2 := by
  intro dataset
  have isProblem : 0 < dataset.pairCount := by decide
  have counted : dataset.violations 2 [1, 1] = 2 := by decide +kernel
  have same : dataset.SameViolations 2 [1, 1] [3, 1] := by
    unfold Dataset.SameViolations
    decide +kernel
  obtain ⟨loss, built, known, supports⟩ := evaluate_supports isProblem 2 3
  have two : 2 = loss.dimension := Option.some.inj known
  obtain ⟨risk, slope, otherRisk, otherSlope, answer, otherAnswer, -, above, -, offset_eq, alike⟩ :=
    supports [1, 1] [3, 1] two two 0 5
  obtain ⟨rfl, -⟩ := alike same
  refine ⟨isProblem, counted, loss, built, risk, slope, otherRisk, answer, otherAnswer, above, ?_⟩
  rw [offset_eq, counted]
  decide +kernel

end

end HingeRank
