import Mathlib
import HingeRank.Proofs.Training.Guarantee

/-!
# How near the risk is after convergence

A run converges once the objective is within the accepted gap of its bound, and the accepted
gap is the tradeoff times epsilon.  The objective is then nearly optimal.  The risk alone need
not be: it may exceed the risk at the optimum by more than epsilon where the weights are
shorter than the optimum, since the objective counts their length as well.

The length that the weights lack is all that the risk can exceed epsilon by, and this lack is
limited.  A run never ends with a larger objective than that of the weights it begins with,
so that all weights in question are short, and its final weights are close to the optimum.
Together the risk exceeds that of the optimum by less than twice the square root of epsilon.
-/

namespace HingeRank

open Linear

/-! ## No worse than the beginning -/

namespace OptimizerState

variable {risk : List ℚ → ℚ} {tradeoff : ℚ} {dimension : Nat} {state : OptimizerState ℚ}

/-- The best evaluation has at most the objective of the weights that a run begins with. -/
structure NoWorse (state : OptimizerState ℚ) (risk : List ℚ → ℚ) (tradeoff : ℚ)
    (dimension : Nat) : Prop where
  fresh : state.best = none → state.weights = zeros dimension
  best_le : ∀ best, state.best = some best →
    best.objective ≤ regularized risk tradeoff (zeros dimension)

theorem initial_noWorse (risk : List ℚ → ℚ) (tradeoff : ℚ) (dimension : Nat) :
    (initial dimension : OptimizerState ℚ).NoWorse risk tradeoff dimension where
  fresh := fun _ => rfl
  best_le := by simp [initial]

/-- After an evaluation there is a best one, which is no worse. -/
theorem NoWorse.evaluated (noWorse : state.NoWorse risk tradeoff dimension) :
    ∃ chosen, (state.evaluated risk tradeoff).best = some chosen ∧
      chosen.objective ≤ regularized risk tradeoff (zeros dimension) := by
  obtain ⟨chosen, improved, -, atMostNew, atMostOld⟩ := improve_least state.best
    ⟨state.weights, regularized risk tradeoff state.weights, risk state.weights⟩
  refine ⟨chosen, improved, ?_⟩
  cases known : state.best with
  | none =>
      rw [← noWorse.fresh known]
      exact atMostNew
  | some old => exact (atMostOld old known).trans (noWorse.best_le old known)

end OptimizerState

namespace OptimizerConfig

variable {σ : Type} {config : OptimizerConfig ℚ} {oracle : LossOracle ℚ σ}
  {risk : List ℚ → ℚ} {allowed : List ℚ → List ℚ → Prop} {tradeoff : ℚ} {dimension : Nat}

/-- A step cannot make the best evaluation worse. -/
theorem Steps.noWorse {found : ModelSolution ℚ → Prop} {state next : OptimizerState ℚ}
    {ledger after : PlaneLedger}
    (steps : config.Steps risk allowed found tradeoff state ledger next after)
    (noWorse : state.NoWorse risk tradeoff dimension) :
    next.NoWorse risk tradeoff dimension := by
  obtain ⟨chosen, improved, atMost⟩ := noWorse.evaluated
  have best_eq : next.best = some chosen := by
    cases steps with
    | converge _ => exact improved
    | descend _ _ _ _ _ _ _ => exact improved
  constructor
  · intro none
    rw [best_eq] at none
    cases none
  · intro best known
    rw [best_eq] at known
    cases known
    exact atMost

/-- Certified states remain no worse than the beginning. -/
theorem noWorse_invariant (valid : config.Valid) (tradeoff_pos : 0 < tradeoff)
    (represents : oracle.Represents risk) :
    config.Invariant oracle tradeoff fun state workspace =>
      (state.Certified config risk tradeoff oracle.dimension ∧
        workspace.arena.Below risk oracle.dimension) ∧
      state.NoWorse risk tradeoff oracle.dimension where
  step := by
    intro state workspace holds wanted
    rcases holds with ⟨⟨certified, below⟩, noWorse⟩
    obtain ⟨next, outcome, counted, nextHolds⟩ :=
      (certified_invariant valid tradeoff_pos represents).step state workspace
        ⟨certified, below⟩ wanted
    rcases below with ⟨ledger, dimension_eq, matched, sound⟩
    obtain ⟨other, after, otherOutcome, steps, -⟩ := step_steps valid tradeoff_pos
      represents.answers matched sound.aligned dimension_eq certified.weights_admissible.length_eq
    have same : next = other := Except.ok.inj (outcome.symm.trans otherOutcome)
    subst same
    exact ⟨next, outcome, counted, nextHolds, steps.noWorse noWorse⟩
  interrupt := by
    intro limited state workspace holds
    refine ⟨(certified_invariant valid tradeoff_pos represents).interrupt limited state workspace
      holds.1, ?_⟩
    exact ⟨holds.2.fresh, holds.2.best_le⟩

end OptimizerConfig

/-! ## The risk of a dataset -/

namespace Dataset

/-- Weights that are zero score all vectors alike, and every pair lacks the margin. -/
theorem risk_zeros_le (dataset : Dataset ℚ) {margin : ℚ} (nonneg : 0 ≤ margin) :
    dataset.risk margin (zeros dataset.width) ≤ margin := by
  have shortfalls : dataset.pairs.map (RankingPair.shortfall margin (zeros dataset.width)) =
      dataset.pairs.map fun _ => margin := by
    refine List.map_congr_left fun pair member => ?_
    obtain ⟨first, second⟩ := dimension_of_mem_pairs member
    rw [RankingPair.shortfall, RankingPair.lead,
      ← FeatureVector.dot_components _ ((length_zeros _).trans first.symm),
      ← FeatureVector.dot_components _ ((length_zeros _).trans second.symm), dot_zeros_right,
      dot_zeros_right]
    simpa using nonneg
  rw [risk, shortfalls]
  apply div_le_of_le_mul₀ (Nat.cast_nonneg _) nonneg
  rw [List.map_const', List.sum_replicate, length_pairs, nsmul_eq_mul, mul_comm]

/-- With all weights zero the objective is at most the tradeoff. -/
theorem regularized_zeros_le (dataset : Dataset ℚ) {tradeoff : ℚ} (tradeoff_nonneg : 0 ≤ tradeoff) :
    regularized (dataset.risk 1) tradeoff (zeros dataset.width) ≤ tradeoff := by
  have atMost := mul_le_mul_of_nonneg_left (dataset.risk_zeros_le zero_le_one) tradeoff_nonneg
  rw [regularized, halfNorm_eq, dot_zeros_left]
  linarith

/-- The risk has a supporting slope everywhere. -/
theorem exists_supports (dataset : Dataset ℚ) (margin : ℚ) (weights : List ℚ)
    (equal : weights.length = dataset.width) :
    ∃ slope, Supports (dataset.risk margin) dataset.width weights slope := by
  obtain ⟨slope, -, supports, -⟩ :=
    (dataset.pairOracle_represents margin).answers weights equal 0
  exact ⟨slope, supports⟩

end Dataset

namespace TrainerConfig

variable {config : TrainerConfig ℚ} {overrides : OptimizerConfig ℚ} {dataset : Dataset ℚ}

/-- Weights with the least objective of training. -/
def Optimum (config : TrainerConfig ℚ) (dataset : Dataset ℚ) (optimum : List ℚ) : Prop :=
  Optimal (dataset.risk 1) config.tradeoff config.nonnegativeWeights dataset.width optimum

/-- What convergence says about the risk of weights. -/
structure RiskNear (config : TrainerConfig ℚ) (dataset : Dataset ℚ) (weights : List ℚ) :
    Prop where
  /-- The risk exceeds that of any weights by less than epsilon and what the weights lack in
  length. -/
  exceeds_less : ∀ others, Admissible config.nonnegativeWeights dataset.width others →
    dataset.risk 1 weights < dataset.risk 1 others + config.epsilon +
      (halfNorm others - halfNorm weights) / config.tradeoff
  /-- The weights are close to the optimum. -/
  close : ∀ optimum, config.Optimum dataset optimum →
    halfNorm (sub optimum weights) < config.tradeoff * config.epsilon
  /-- The risk is at most that at the optimum, or exceeds it by less than twice the square root
  of epsilon. -/
  excess_lt : ∀ optimum, config.Optimum dataset optimum →
    dataset.risk 1 weights ≤ dataset.risk 1 optimum ∨
      (dataset.risk 1 weights - dataset.risk 1 optimum) ^ 2 < 4 * config.epsilon

/-- Weights within the accepted gap that are no worse than the beginning have a risk near that
of the optimum. -/
theorem riskNear_of_near_optimum (valid : config.Valid) {weights : List ℚ}
    (allowed : Admissible config.nonnegativeWeights dataset.width weights)
    (noWorse : regularized (dataset.risk 1) config.tradeoff weights ≤
      regularized (dataset.risk 1) config.tradeoff (zeros dataset.width))
    (near : ∀ others, Admissible config.nonnegativeWeights dataset.width others →
      regularized (dataset.risk 1) config.tradeoff weights <
        regularized (dataset.risk 1) config.tradeoff others + config.tradeoff * config.epsilon) :
    config.RiskNear dataset weights where
  exceeds_less := by
    intro others othersAllowed
    have gap := near others othersAllowed
    have tradeoff_pos := valid.tradeoff_pos
    rw [← sub_lt_iff_lt_add', lt_div_iff₀ tradeoff_pos]
    simp only [regularized] at gap
    linarith
  close := by
    intro optimum optimal
    have distance := optimal.halfNorm_sub_le valid.tradeoff_pos (dataset.exists_supports 1) allowed
    have gap := near optimum optimal.admissible
    linarith
  excess_lt := by
    intro optimum optimal
    rcases le_or_gt (dataset.risk 1 weights) (dataset.risk 1 optimum) with atMost | more
    · exact .inl atMost
    · right
      have tradeoff_pos := valid.tradeoff_pos
      have beginning := dataset.regularized_zeros_le tradeoff_pos.le
      have optimum_le := (optimal.least _ (zeros_admissible _ _)).trans beginning
      have weights_le := noWorse.trans beginning
      have optimumRisk := dataset.risk_nonneg 1 optimum
      have optimumCost := mul_nonneg tradeoff_pos.le optimumRisk
      have short : halfNorm optimum ≤ config.tradeoff := by
        simp only [regularized] at optimum_le
        linarith
      have small : dataset.risk 1 weights ≤ 1 := by
        have length_nonneg := halfNorm_nonneg weights
        simp only [regularized] at weights_le
        apply le_of_mul_le_mul_left _ tradeoff_pos
        linarith
      exact optimal.sq_risk_excess_lt tradeoff_pos (dataset.exists_supports 1) allowed short more
        (by linarith) (near optimum optimal.admissible)

/-- A state that a run from the beginning ends in vouches for the risk after convergence. -/
theorem riskNear_of_certified (valid : config.Valid) {state : OptimizerState ℚ}
    (certified : state.Certified (config.optimizer overrides) (dataset.risk 1) config.tradeoff
      dataset.width)
    (noWorse : state.NoWorse (dataset.risk 1) config.tradeoff dataset.width)
    (converged : state.converged = true) :
    ∃ best, state.best = some best ∧ best.risk = dataset.risk 1 best.weights ∧
      config.RiskNear dataset best.weights := by
  obtain ⟨best, known, near⟩ := certified.near_optimum converged
  have objective_eq := certified.best_objective best known
  refine ⟨best, known, certified.best_risk best known, ?_⟩
  apply riskNear_of_near_optimum valid (certified.best_admissible best known)
  · rw [← objective_eq]
    exact noWorse.best_le best known
  · rw [← objective_eq]
    exact near

/-- Training on any dataset has a result.  If it reports convergence, the risk that it reports is
that of its weights, and it exceeds the risk at the optimum by less than epsilon and what the
weights lack in length, and by less than twice the square root of epsilon. -/
theorem train_riskNear (valid : config.Valid) (overridesValid : overrides.Valid)
    (dataset : Dataset ℚ) (clock : Nat → ℚ) (readings : Nat) :
    ∃ result, (config.train overrides dataset clock readings).result = .ok result ∧
      (result.report.converged = true →
        (∃ best, result.report.best = some best ∧
          best.risk = dataset.risk 1 result.model.weights) ∧
        config.RiskNear dataset result.model.weights) := by
  obtain ⟨count, -, workers⟩ := valid.workers_pos
  have represents := dataset.pairOracle_represents 1
  have optimizerValid := valid.optimizer overridesValid
  have invariant := OptimizerConfig.noWorse_invariant optimizerValid valid.tradeoff_pos represents
  have started : (OptimizerState.initial dataset.width).Certified (config.optimizer overrides)
      (dataset.risk 1) config.tradeoff dataset.width :=
    OptimizerState.initial_certified _ valid.tradeoff_pos represents.nonneg
  obtain ⟨report, state, workspace, outcome, reports, ⟨⟨certified, -⟩, noWorse⟩, -⟩ :=
    OptimizerConfig.optimize_reports invariant optimizerValid.computable clock readings 0
      ⟨⟨started, PlaneArena.initial_below _ represents.nonneg⟩,
        OptimizerState.initial_noWorse _ _ _⟩
  refine ⟨⟨⟨report.weights⟩, report⟩, ?_, ?_⟩
  · rw [train_result dataset clock readings workers, outcome]
    rfl
  · intro converged
    change report.converged = true at converged
    rw [reports.converged_eq] at converged
    obtain ⟨best, known, risk_eq, near⟩ := riskNear_of_certified valid certified noWorse converged
    have weights_eq : report.weights = best.weights := by
      rw [reports.weights_eq, known]
      rfl
    have best_eq : report.best = some best := reports.best_eq.trans known
    change (∃ best, report.best = some best ∧ best.risk = dataset.risk 1 report.weights) ∧
      config.RiskNear dataset report.weights
    rw [weights_eq]
    exact ⟨⟨best, best_eq, risk_eq⟩, near⟩

end TrainerConfig

/-! ## A risk that is not within epsilon -/

namespace OptimizerConfig

/-- The optimizer's settings that are in force unless others are given. -/
def usual : OptimizerConfig ℚ where
  epsilon := 1 / 1000
  maxIterations := 10000
  nonnegative := false
  qpEpsilon := 1 / 10
  qpMaxIterations := 50000
  inactivePlaneThreshold := 20
  maxSeconds := none
  verbose := false

theorem usual_valid : usual.Valid :=
  ⟨by norm_num [usual], by norm_num [usual], by norm_num [usual], by norm_num [usual],
    by simp [usual], rfl⟩

end OptimizerConfig

namespace TrainerConfig

/-- One query with a relevant vector on either side of the one that is not, but not equally far
from it. -/
def seesaw : Dataset ℚ := ⟨[⟨[.dense [3], .dense [-1]], [.dense [0]]⟩], some 1, rfl⟩

def rough : TrainerConfig ℚ where
  tradeoff := 1 / 2
  epsilon := 3 / 10
  maxIterations := 10000
  nonnegativeWeights := false
  verbose := false
  workers := .whole 1
  maxSeconds := none

theorem rough_valid : rough.Valid :=
  ⟨by norm_num [rough], by norm_num [rough], ⟨1, le_rfl, rfl⟩, by simp [rough], rfl⟩

theorem risk_seesaw (weight : ℚ) :
    seesaw.risk 1 [weight] = (max 0 (1 - weight * 3) + max 0 (1 + weight)) / 2 := by
  have count : seesaw.pairCount = 2 := rfl
  have pairs : seesaw.pairs = [(.dense [3], .dense [0]), (.dense [-1], .dense [0])] := rfl
  simp [Dataset.risk, count, pairs, RankingPair.shortfall, RankingPair.lead, FeatureVector.dot]

theorem optimum_seesaw : rough.Optimum seesaw [1 / 3] where
  admissible := ⟨rfl, by decide⟩
  least := by
    intro weights allowed
    obtain ⟨weight, rfl⟩ := List.length_eq_one_iff.mp allowed.length_eq
    -- At the optimum one pair just keeps the margin; this share of it balances the other.
    have kept : 7 / 9 * (1 - weight * 3) ≤ max 0 (1 - weight * 3) := by
      rcases le_total 0 (1 - weight * 3) with nonneg | nonpos
      · exact le_max_of_le_right (by linarith)
      · exact le_max_of_le_left (by linarith)
    have missed : 1 + weight ≤ max 0 (1 + weight) := le_max_right _ _
    have value : regularized (seesaw.risk 1) rough.tradeoff [1 / 3] = 7 / 18 := by
      rw [regularized, risk_seesaw, halfNorm_eq]
      norm_num [rough]
    have objective : regularized (seesaw.risk 1) rough.tradeoff [weight] =
        weight ^ 2 / 2 + (max 0 (1 - weight * 3) + max 0 (1 + weight)) / 4 := by
      rw [regularized, risk_seesaw, halfNorm_eq, dot_cons_cons, dot_nil_left, rough]
      ring
    rw [value, objective]
    linarith [sq_nonneg (weight - 1 / 3)]

theorem train_seesaw :
    ((rough.train .usual seesaw (fun reading => reading) 0).result.toOption.map fun result =>
      (result.model.weights, result.report.converged)) = some ([0], true) := by
  rw [train_result seesaw _ 0 rfl]
  decide +kernel

/-- Convergence does not bring the risk to within epsilon of the risk at the optimum.  The run
stops at weights that are zero, where the risk is one; at the optimum it is two thirds, and
epsilon is three tenths. -/
theorem train_risk_not_within_epsilon :
    rough.Valid ∧ OptimizerConfig.usual.Valid ∧ seesaw.isRankingProblem = true ∧
      ∃ result, (rough.train .usual seesaw (fun reading => reading) 0).result = .ok result ∧
        result.report.converged = true ∧ rough.Optimum seesaw [1 / 3] ∧
        ¬ seesaw.risk 1 result.model.weights ≤ seesaw.risk 1 [1 / 3] + rough.epsilon := by
  refine ⟨rough_valid, OptimizerConfig.usual_valid, rfl, ?_⟩
  obtain ⟨result, outcome, evaluated⟩ := Option.map_eq_some_iff.mp train_seesaw
  cases trained : (rough.train .usual seesaw (fun reading => reading) 0).result with
  | error problem =>
      rw [trained] at outcome
      cases outcome
  | ok found =>
      rw [trained] at outcome
      cases outcome
      obtain ⟨weights_eq, converged⟩ := Prod.mk.inj evaluated
      refine ⟨result, rfl, converged, optimum_seesaw, ?_⟩
      rw [weights_eq, risk_seesaw, risk_seesaw]
      norm_num [rough]

/-- The same run keeps what convergence does promise. -/
theorem train_riskNear_seesaw :
    rough.Valid ∧ OptimizerConfig.usual.Valid ∧
      ∃ result, (rough.train .usual seesaw (fun reading => reading) 0).result = .ok result ∧
        result.report.converged = true ∧ rough.Optimum seesaw [1 / 3] ∧
        rough.RiskNear seesaw result.model.weights := by
  obtain ⟨result, trained, near⟩ :=
    train_riskNear rough_valid OptimizerConfig.usual_valid seesaw (fun reading => reading) 0
  have evaluated := train_seesaw
  rw [trained] at evaluated
  obtain ⟨-, converged⟩ := Prod.mk.inj (Option.some.inj evaluated)
  exact ⟨rough_valid, OptimizerConfig.usual_valid, result, trained, converged, optimum_seesaw,
    (near converged).2⟩

end TrainerConfig

end HingeRank
