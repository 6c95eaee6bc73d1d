import Mathlib
import HingeRank.Proofs.Optimizer.Certificate
import HingeRank.Proofs.Optimizer.Run
import HingeRank.Proofs.Ranking.Risk
import HingeRank.Trainer

/-!
# What training guarantees

Training minimises half the squared length of the weights plus the weighted average
shortfall of all pairs at margin one.  Its report holds for this objective: the lower bound
is one for all weights, the reported objective is that of the returned weights, and after
convergence no weights are better by the accepted gap.

All of this is inherited from the states of the optimizer, since the loss of a dataset is
an oracle of its risk and the trainer's settings replace those of the optimizer.
-/

namespace HingeRank

open Linear

namespace OptimizerConfig

variable {σ : Type} {config : OptimizerConfig ℚ} {oracle : LossOracle ℚ σ}
  {risk : List ℚ → ℚ} {tradeoff : ℚ}

/-- Steps keep states certified and planes below the risk, and so does an interruption. -/
theorem certified_invariant (valid : config.Valid) (tradeoff_pos : 0 < tradeoff)
    (represents : oracle.Represents risk) :
    config.Invariant oracle tradeoff fun state workspace =>
      state.Certified config risk tradeoff oracle.dimension ∧
        workspace.arena.Below risk oracle.dimension where
  step := by
    intro state workspace holds _
    rcases holds with ⟨certified, below⟩
    obtain ⟨next, outcome, counted, -, nextCertified, afterBelow⟩ :=
      step_certified valid tradeoff_pos represents certified below
    exact ⟨next, outcome, counted, nextCertified, afterBelow⟩
  interrupt := by
    intro _ state workspace holds
    rcases holds with ⟨certified, below⟩
    refine ⟨{ certified with accepted := ?_ }, below⟩
    intro converged
    cases converged

end OptimizerConfig

namespace TrainerConfig

/-- A configuration of training that passes its checks and can be computed with. -/
structure Valid (config : TrainerConfig ℚ) : Prop where
  tradeoff_pos : 0 < config.tradeoff
  epsilon_pos : 0 < config.epsilon
  workers_pos : ∃ count : Int, 1 ≤ count ∧ config.workers = .whole count
  maxSeconds_pos : ∀ limit, config.maxSeconds = some limit → 0 < limit
  computable : config.obstacles = .none

variable {config : TrainerConfig ℚ} {overrides : OptimizerConfig ℚ}

/-- Valid settings of the trainer make valid overrides a valid configuration. -/
theorem Valid.optimizer (valid : config.Valid) (overridesValid : overrides.Valid) :
    (config.optimizer overrides).Valid where
  epsilon_pos := valid.epsilon_pos
  qpEpsilon_pos := overridesValid.qpEpsilon_pos
  qpMaxIterations_pos := overridesValid.qpMaxIterations_pos
  inactivePlaneThreshold_pos := overridesValid.inactivePlaneThreshold_pos
  maxSeconds_pos := valid.maxSeconds_pos
  computable := valid.computable

/-- Half the squared length of the weights plus the weighted average shortfall of all
pairs. -/
def objective (config : TrainerConfig ℚ) (dataset : Dataset ℚ) (weights : List ℚ) : ℚ :=
  halfNorm weights + config.tradeoff / dataset.pairCount *
    (dataset.queries.flatMap fun query => query.relevant.flatMap fun relevant =>
      query.nonrelevant.map fun nonrelevant =>
        max 0 (1 - (relevant.dot weights - nonrelevant.dot weights))).sum

theorem regularized_eq_objective (config : TrainerConfig ℚ) (dataset : Dataset ℚ)
    (weights : List ℚ) :
    regularized (dataset.risk 1) config.tradeoff weights = config.objective dataset weights := by
  have shortfalls : dataset.pairs.map (RankingPair.shortfall 1 weights) =
      dataset.queries.flatMap fun query => query.relevant.flatMap fun relevant =>
        query.nonrelevant.map fun nonrelevant =>
          max 0 (1 - (relevant.dot weights - nonrelevant.dot weights)) := by
    simp only [Dataset.pairs, Query.pairs, List.product, List.map_flatMap, List.map_map]
    rfl
  rw [regularized, Dataset.risk, shortfalls, objective]
  ring

/-- What a training result vouches for. -/
structure Guarantee (config : TrainerConfig ℚ) (dataset : Dataset ℚ)
    (result : TrainingResult ℚ) : Prop where
  weights_eq : result.model.weights = result.report.weights
  /-- The bound holds for all weights that are allowed. -/
  lowerBound_le : ∀ weights, Admissible config.nonnegativeWeights dataset.width weights →
    result.report.lowerBound ≤ config.objective dataset weights
  weights_admissible : Admissible config.nonnegativeWeights dataset.width result.model.weights
  /-- After an iteration the reported objective is that of the weights. -/
  objective_eq : 0 < result.report.iterations → ∃ best, result.report.best = some best ∧
    best.objective = config.objective dataset result.model.weights
  /-- After convergence all weights that are allowed come close at best. -/
  near_optimum : result.report.converged = true →
    ∀ weights, Admissible config.nonnegativeWeights dataset.width weights →
      config.objective dataset result.model.weights <
        config.objective dataset weights + config.tradeoff * config.epsilon

/-- A state that an optimizer ends in vouches for what it reports. -/
theorem guarantee_of_certified (dataset : Dataset ℚ) {state : OptimizerState ℚ}
    {report : OptimizationResult ℚ} (reports : report.Reports state)
    (certified : state.Certified (config.optimizer overrides) (dataset.risk 1) config.tradeoff
      dataset.width) :
    config.Guarantee dataset ⟨⟨report.weights⟩, report⟩ where
  weights_eq := rfl
  lowerBound_le := by
    intro weights admissible
    rw [reports.lowerBound_eq, ← regularized_eq_objective]
    exact certified.lowerBound_le weights admissible
  weights_admissible := by
    change Admissible _ _ report.weights
    rw [reports.weights_eq]
    cases known : state.best with
    | none => exact certified.weights_admissible
    | some best => exact certified.best_admissible best known
  objective_eq := by
    intro evaluated
    rw [reports.iterations_eq] at evaluated
    obtain ⟨best, known⟩ := certified.best_exists evaluated
    refine ⟨best, reports.best_eq.trans known, ?_⟩
    change best.objective = config.objective dataset report.weights
    rw [reports.weights_eq, known, ← regularized_eq_objective]
    exact certified.best_objective best known
  near_optimum := by
    intro converged weights admissible
    change report.converged = true at converged
    rw [reports.converged_eq] at converged
    obtain ⟨best, known, near⟩ := certified.near_optimum converged
    change config.objective dataset report.weights < _
    rw [reports.weights_eq, known, ← regularized_eq_objective, ← regularized_eq_objective]
    have objective_eq := certified.best_objective best known
    have close := near weights admissible
    rw [objective_eq] at close
    exact close

/-- Training runs the optimizer on the risk of the dataset, however the work is divided. -/
theorem train_result (dataset : Dataset ℚ) (clock : Nat → ℚ) (readings : Nat) {count : Int}
    (workers : config.workers = .whole count) :
    (config.train overrides dataset clock readings).result =
      ((config.optimizer overrides).optimize (dataset.pairOracle 1) config.tradeoff clock readings
        0).result.map fun report => ⟨⟨report.weights⟩, report⟩ := by
  obtain ⟨loss, built⟩ := RankingLoss.ofDataset?_whole dataset RankingLoss.defaultMargin count
  have averages := RankingLoss.ofDataset?_averages built
  have oracle_eq : loss.oracle = dataset.pairOracle 1 := averages.oracle_eq
  simp only [train, workers, built, oracle_eq]

/-- Training on any dataset has a result, and the result is what it claims to be. -/
theorem train_guarantee (valid : config.Valid) (overridesValid : overrides.Valid)
    (dataset : Dataset ℚ) (clock : Nat → ℚ) (readings : Nat) :
    ∃ result, (config.train overrides dataset clock readings).result = .ok result ∧
      config.Guarantee dataset result := by
  obtain ⟨count, -, workers⟩ := valid.workers_pos
  have represents := dataset.pairOracle_represents 1
  have optimizerValid := valid.optimizer overridesValid
  have invariant := OptimizerConfig.certified_invariant optimizerValid valid.tradeoff_pos represents
  have started : (OptimizerState.initial dataset.width).Certified (config.optimizer overrides)
      (dataset.risk 1) config.tradeoff dataset.width :=
    OptimizerState.initial_certified _ valid.tradeoff_pos represents.nonneg
  obtain ⟨report, state, workspace, outcome, reports, ⟨certified, -⟩, -⟩ :=
    OptimizerConfig.optimize_reports invariant optimizerValid.computable clock readings 0
      ⟨started, PlaneArena.initial_below _ represents.nonneg⟩
  refine ⟨⟨⟨report.weights⟩, report⟩, ?_, guarantee_of_certified dataset reports certified⟩
  rw [train_result dataset clock readings workers, outcome]
  rfl

/-- The hinge loss of one pair in one dimension is minimised by the weight one. -/
theorem train_guarantee_one_pair :
    let dataset : Dataset ℚ := ⟨[⟨[.dense [1]], [.dense [0]]⟩], some 1, rfl⟩
    let config : TrainerConfig ℚ :=
      { tradeoff := 1, epsilon := 1 / 100, maxIterations := 4, nonnegativeWeights := false
        verbose := false, workers := .whole 1, maxSeconds := none }
    ∃ result, (config.train .coarse dataset (fun reading => reading) 0).result = .ok result ∧
      config.Guarantee dataset result ∧ result.model.weights = [1] ∧
      result.report.iterations = 2 ∧ result.report.converged = true := by
  intro dataset config
  have valid : config.Valid :=
    ⟨one_pos, by norm_num [config], ⟨1, le_rfl, rfl⟩, by simp [config], rfl⟩
  obtain ⟨result, outcome, guarantee⟩ :=
    train_guarantee valid OptimizerConfig.coarse_valid dataset (fun reading => reading) 0
  have evaluated : ((config.train .coarse dataset (fun reading => reading) 0).result.toOption.map
      fun result => (result.model.weights, result.report.iterations, result.report.converged)) =
      some ([1], 2, true) := by
    rw [train_result dataset _ 0 rfl]
    decide +kernel
  rw [outcome] at evaluated
  obtain ⟨weights, iterations, converged⟩ := by simpa [Except.toOption] using evaluated
  exact ⟨result, outcome, guarantee, weights, iterations, converged⟩

end TrainerConfig

end HingeRank
