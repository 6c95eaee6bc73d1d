import Mathlib
import HingeRank.Proofs.Loss
import HingeRank.Proofs.Optimizer.Failures
import HingeRank.Proofs.Planes.Duality
import HingeRank.Proofs.Planes.Ledger

/-!
# What a step of the optimizer does

With an oracle that always answers a step cannot fail.  It either converges and leaves the
planes alone, or it appends the plane of the answer, solves the model of all planes, and
trims them.  Everything that is proved about states of the optimizer follows from these
two cases, which are stated about the ledger of planes instead of the arena.
-/

namespace HingeRank

open Linear

/-- Half the squared length of the weights plus the weighted risk. -/
def regularized (risk : List ℚ → ℚ) (tradeoff : ℚ) (weights : List ℚ) : ℚ :=
  halfNorm weights + tradeoff * risk weights

/-- A configuration that passes its checks and can be computed with. -/
structure OptimizerConfig.Valid (config : OptimizerConfig ℚ) : Prop where
  epsilon_pos : 0 < config.epsilon
  qpEpsilon_pos : 0 < config.qpEpsilon
  qpMaxIterations_pos : 1 ≤ config.qpMaxIterations
  inactivePlaneThreshold_pos : 1 ≤ config.inactivePlaneThreshold
  maxSeconds_pos : ∀ limit, config.maxSeconds = some limit → 0 < limit
  computable : config.obstacles = .none

theorem OptimizerConfig.Valid.subproblemTolerance_pos {config : OptimizerConfig ℚ}
    (valid : config.Valid) {tradeoff : ℚ} (tradeoff_pos : 0 < tradeoff) :
    0 < config.subproblemTolerance tradeoff :=
  mul_pos (mul_pos valid.qpEpsilon_pos valid.epsilon_pos) tradeoff_pos

namespace PlaneLedger

variable {ledger : PlaneLedger} {arena : PlaneArena ℚ} {tradeoff : ℚ}

/-- All gradients have the dimension of the ledger. -/
def Aligned (ledger : PlaneLedger) : Prop :=
  ∀ record ∈ ledger.records, record.gradient.length = ledger.dimension

/-- The model of all planes. -/
def model (ledger : PlaneLedger) (tradeoff : ℚ) : PlaneModel ℚ where
  dimension := ledger.dimension
  gradients := ledger.records.map (·.gradient)
  offsets := ledger.records.map (·.offset)
  tradeoff := tradeoff

theorem Matches.model_eq (holds : ledger.Matches arena) (tradeoff : ℚ) :
    arena.model tradeoff = ledger.model tradeoff := by
  rw [PlaneArena.model, holds.dimension_eq, holds.represents.gradients_eq,
    holds.represents.offsets_eq]
  rfl

/-- The values of all planes, record by record. -/
theorem planeValues_model (ledger : PlaneLedger) (tradeoff : ℚ) (weights : List ℚ) :
    (ledger.model tradeoff).planeValues weights =
      ledger.records.map fun record => dot record.gradient weights + record.offset := by
  simp only [model, PlaneModel.planeValues, apply, add, List.map_map, List.zipWith_map,
    List.zipWith_self]
  rfl

theorem Aligned.gradients (aligned : ledger.Aligned) :
    ∀ gradient ∈ ledger.records.map (·.gradient), gradient.length = ledger.dimension := by
  intro gradient member
  obtain ⟨record, recordMem, rfl⟩ := List.mem_map.mp member
  exact aligned record recordMem

theorem Aligned.model_wellFormed (aligned : ledger.Aligned) (nonempty : ledger.records ≠ [])
    (tradeoff_pos : 0 < tradeoff) : (ledger.model tradeoff).WellFormed where
  square := by simp [model]
  aligned := aligned.gradients
  nonempty := by
    rw [model, List.length_map]
    exact List.length_pos_iff.mpr nonempty
  tradeoff_pos := tradeoff_pos

theorem initial_aligned (dimension : Nat) : (initial dimension).Aligned := by
  intro record member
  rw [List.mem_singleton.mp member]
  exact length_zeros dimension

theorem Aligned.append (aligned : ledger.Aligned) {gradient : List ℚ}
    (equal : gradient.length = ledger.dimension) (offset : ℚ) :
    (ledger.append gradient offset).Aligned := by
  intro record member
  rcases List.mem_append.mp member with old | new
  · exact aligned record old
  · rw [List.mem_singleton.mp new]
    exact equal

theorem append_records_ne_nil (ledger : PlaneLedger) (gradient : List ℚ) (offset : ℚ) :
    (ledger.append gradient offset).records ≠ [] :=
  List.append_ne_nil_of_right_ne_nil _ (List.cons_ne_nil _ _)

/-- A solution of the model has one multiplier for every record. -/
theorem length_dual_of_solved {options : ModelOptions ℚ} {solution : ModelSolution ℚ}
    (solved : (ledger.model tradeoff).Solved options solution) :
    solution.dual.length = ledger.records.length := by
  rw [solved.feasible.length_eq]
  exact List.length_map _

/-- A solution of the model has weights of the dimension of the ledger. -/
theorem length_weights_of_solved (aligned : ledger.Aligned) {options : ModelOptions ℚ}
    {solution : ModelSolution ℚ} (solved : (ledger.model tradeoff).Solved options solution) :
    solution.weights.length = ledger.dimension := by
  rw [solved.weights_eq]
  exact PlaneModel.length_weightsOf aligned.gradients _ _

end PlaneLedger

namespace OptimizerState

/-- The state after an evaluation at its weights. -/
def evaluated (state : OptimizerState ℚ) (risk : List ℚ → ℚ) (tradeoff : ℚ) : OptimizerState ℚ :=
  state.record ⟨state.weights, regularized risk tradeoff state.weights, risk state.weights⟩

end OptimizerState

namespace OptimizerConfig

variable {σ : Type} {config : OptimizerConfig ℚ} {oracle : LossOracle ℚ σ}
  {risk : List ℚ → ℚ} {allowed : List ℚ → List ℚ → Prop} {tradeoff : ℚ}
  {state : OptimizerState ℚ} {workspace : Workspace ℚ σ} {ledger : PlaneLedger}

/-- How the model of the planes in a ledger is solved. -/
def modelOptions (config : OptimizerConfig ℚ) (tradeoff : ℚ) (ledger : PlaneLedger) :
    ModelOptions ℚ where
  nonnegative := config.nonnegative
  initialDual := some (ledger.records.map (·.multiplier))
  tolerance := config.subproblemTolerance tradeoff
  cap := config.qpMaxIterations

/-- The ledger with the plane that has the slope and touches the risk at the weights. -/
def extended (risk : List ℚ → ℚ) (ledger : PlaneLedger) (weights slope : List ℚ) : PlaneLedger :=
  ledger.append slope (risk weights - dot slope weights)

/-- The solution that a step finds unless its gap is accepted. -/
def Finds (config : OptimizerConfig ℚ) (oracle : LossOracle ℚ σ) (tradeoff : ℚ)
    (state : OptimizerState ℚ) (workspace : Workspace ℚ σ) (solution : ModelSolution ℚ) : Prop :=
  ∃ answer arena,
    (oracle.evaluate state.weights workspace.oracleState).1 = .ok answer ∧
    (state.record ⟨state.weights, halfNorm state.weights + tradeoff * answer.risk,
      answer.risk⟩).isAccepted (config.acceptedGap tradeoff) = false ∧
    workspace.arena.support? answer state.weights = .ok arena ∧
    config.solveModel? tradeoff arena = .ok solution

/-- How often the solution is improved that a step finds. -/
def foundIterations? (config : OptimizerConfig ℚ) (oracle : LossOracle ℚ σ) (tradeoff : ℚ)
    (state : OptimizerState ℚ) (workspace : Workspace ℚ σ) : Option Nat := do
  let answer ← (oracle.evaluate state.weights workspace.oracleState).1.toOption
  let arena ← (workspace.arena.support? answer state.weights).toOption
  let solution ← (config.solveModel? tradeoff arena).toOption
  return solution.iterations

theorem Finds.iterations_eq {solution : ModelSolution ℚ}
    (finds : config.Finds oracle tradeoff state workspace solution) :
    config.foundIterations? oracle tradeoff state workspace = some solution.iterations := by
  rcases finds with ⟨answer, arena, answered, -, supported, found⟩
  simp only [foundIterations?, answered, supported, found, Except.toOption, Option.bind_eq_bind,
    Option.bind_some]
  rfl

/-- The outcomes of a step from a state with the planes of a ledger, where the oracle
answers with the risk and with slopes that are allowed, and solutions are found in some
way. -/
inductive Steps (config : OptimizerConfig ℚ) (risk : List ℚ → ℚ)
    (allowed : List ℚ → List ℚ → Prop) (found : ModelSolution ℚ → Prop) (tradeoff : ℚ)
    (state : OptimizerState ℚ) (ledger : PlaneLedger) : OptimizerState ℚ → PlaneLedger → Prop
  /-- The gap is accepted and the planes stay as they are. -/
  | converge
      (accepted : (state.evaluated risk tradeoff).isAccepted (config.acceptedGap tradeoff) = true) :
      Steps config risk allowed found tradeoff state ledger
        { state.evaluated risk tradeoff with stopReason := some .converged } ledger
  /-- The model with the new plane gives the next weights and a bound. -/
  | descend (slope : List ℚ) (solution : ModelSolution ℚ)
      (rejected : (state.evaluated risk tradeoff).isAccepted (config.acceptedGap tradeoff) = false)
      (aligned : slope.length = ledger.dimension)
      (answered : allowed state.weights slope)
      (isFound : found solution)
      (solved : PlaneModel.Solved ((extended risk ledger state.weights slope).model tradeoff)
        (config.modelOptions tradeoff (extended risk ledger state.weights slope)) solution) :
      Steps config risk allowed found tradeoff state ledger
        { state.evaluated risk tradeoff with
          weights := solution.weights
          lowerBound := max state.lowerBound solution.dualValue }
        (((extended risk ledger state.weights slope).use solution.dual).trim
          config.inactivePlaneThreshold)

/-- Every step is counted. -/
theorem Steps.iteration_eq {found : ModelSolution ℚ → Prop} {next : OptimizerState ℚ}
    {after : PlaneLedger}
    (steps : config.Steps risk allowed found tradeoff state ledger next after) :
    next.iteration = state.iteration + 1 := by
  cases steps <;> rfl

/-- The model of the planes in an arena is that of its ledger. -/
theorem solveModel?_of_matches (computable : config.obstacles = .none) {arena : PlaneArena ℚ}
    (holds : ledger.Matches arena) : config.solveModel? tradeoff arena =
      (ledger.model tradeoff).solve? (gram (ledger.model tradeoff).gradients)
        (config.modelOptions tradeoff ledger) := by
  rw [solveModel?, computable, holds.model_eq, holds.represents.gram_eq, holds.represents.dual_eq]
  rfl

/-- The model of the planes in an arena has a solution. -/
theorem solveModel?_solved (valid : config.Valid) (tradeoff_pos : 0 < tradeoff)
    {arena : PlaneArena ℚ} (holds : ledger.Matches arena) (aligned : ledger.Aligned) :
    ∃ solution, config.solveModel? tradeoff arena = .ok solution ∧
      (ledger.model tradeoff).Solved (config.modelOptions tradeoff ledger) solution := by
  rw [solveModel?_of_matches valid.computable holds]
  exact PlaneModel.solve?_solved (aligned.model_wellFormed holds.zeroFirst.ne_nil tradeoff_pos) _
    (valid.subproblemTolerance_pos tradeoff_pos).le

/-- A step without an answer leaves the planes alone. -/
theorem step_unanswered {problem : Error}
    (unanswered : (oracle.evaluate state.weights workspace.oracleState).1 = .error problem) :
    let result := config.step oracle tradeoff state workspace
    result.outcome = .error problem ∧ result.workspace.arena = workspace.arena := by
  rcases reply : oracle.evaluate state.weights workspace.oracleState with ⟨answer, oracleState⟩
  rw [reply] at unanswered
  simp only [step, reply, unanswered]
  exact ⟨trivial, trivial⟩

section Answered

variable {answer : LossAnswer ℚ} (computable : config.obstacles = .none)
  (answered : (oracle.evaluate state.weights workspace.oracleState).1 = .ok answer)

include computable answered

/-- A step that ends with an accepted gap, whatever the oracle has answered. -/
theorem step_accepted
    (accepted : (state.evaluated (fun _ => answer.risk) tradeoff).isAccepted
      (config.acceptedGap tradeoff) = true) :
    let result := config.step oracle tradeoff state workspace
    result.outcome = .ok { state.evaluated (fun _ => answer.risk) tradeoff with
        stopReason := some .converged } ∧
      result.workspace.arena = workspace.arena := by
  rcases reply : oracle.evaluate state.weights workspace.oracleState with ⟨answer, oracleState⟩
  rw [reply] at answered
  simp only [step, reply, answered, computable, Obstacles.none, Option.orElse_eq_orElse,
    Option.orElse_none]
  rw [if_pos (by exact accepted)]
  exact ⟨rfl, rfl⟩

variable (rejected : (state.evaluated (fun _ => answer.risk) tradeoff).isAccepted
  (config.acceptedGap tradeoff) = false)

include rejected

/-- A step that cannot append the plane of the answer leaves the planes alone. -/
theorem step_refused {problem : Error}
    (refused : workspace.arena.support? answer state.weights = .error problem) :
    let result := config.step oracle tradeoff state workspace
    result.outcome = .error problem ∧ result.workspace.arena = workspace.arena := by
  rcases reply : oracle.evaluate state.weights workspace.oracleState with ⟨answer, oracleState⟩
  rw [reply] at answered
  simp only [step, reply, answered, computable, Obstacles.none, Option.orElse_eq_orElse,
    Option.orElse_none]
  rw [if_neg (by exact Bool.eq_false_iff.mp rejected)]
  simp only [refused]
  exact ⟨trivial, trivial⟩

/-- A step that appends a plane and solves the model of all planes. -/
theorem step_rejected {arena : PlaneArena ℚ} {solution : ModelSolution ℚ}
    (supported : workspace.arena.support? answer state.weights = .ok arena)
    (found : config.solveModel? tradeoff arena = .ok solution) :
    let result := config.step oracle tradeoff state workspace
    result.outcome = .ok { state.evaluated (fun _ => answer.risk) tradeoff with
        weights := solution.weights
        lowerBound := max state.lowerBound solution.dualValue } ∧
      result.workspace.arena =
        ((arena.recordDual solution.dual).trim config.inactivePlaneThreshold).2 := by
  rcases reply : oracle.evaluate state.weights workspace.oracleState with ⟨answer, oracleState⟩
  rw [reply] at answered
  simp only [step, reply, answered, computable, Obstacles.none, Option.orElse_eq_orElse,
    Option.orElse_none]
  rw [if_neg (by exact Bool.eq_false_iff.mp rejected)]
  simp only [supported, found, Scalar.greater_eq_max]
  exact ⟨rfl, trivial⟩

end Answered

/-- A step with an oracle that always answers succeeds, in one of the two ways. -/
theorem step_steps (valid : config.Valid) (tradeoff_pos : 0 < tradeoff)
    (answers : oracle.Answers risk allowed) (holds : ledger.Matches workspace.arena)
    (aligned : ledger.Aligned) (dimension_eq : ledger.dimension = oracle.dimension)
    (weights_eq : state.weights.length = oracle.dimension) :
    let result := config.step oracle tradeoff state workspace
    ∃ next after, result.outcome = .ok next ∧
      config.Steps risk allowed (config.Finds oracle tradeoff state workspace) tradeoff state
        ledger next after ∧
      after.Matches result.workspace.arena := by
  intro result
  obtain ⟨slope, slope_eq, answered, answer⟩ :=
    answers state.weights weights_eq workspace.oracleState
  cases accepted : (state.evaluated risk tradeoff).isAccepted (config.acceptedGap tradeoff) with
  | true =>
      obtain ⟨outcome, arena⟩ := step_accepted valid.computable answer accepted
      refine ⟨_, ledger, outcome, .converge accepted, ?_⟩
      rw [arena]
      exact holds
  | false =>
      have slopeAligned := slope_eq.trans dimension_eq.symm
      have supported := PlaneArena.support?_vector (slopeAligned.trans holds.dimension_eq.symm)
        (weights_eq.trans (holds.dimension_eq.trans dimension_eq).symm) (risk state.weights)
      have extendedHolds := holds.append slope (risk state.weights - dot slope state.weights)
      obtain ⟨solution, found, solved⟩ := solveModel?_solved valid tradeoff_pos extendedHolds
        (aligned.append slopeAligned _)
      obtain ⟨outcome, arena⟩ :=
        step_rejected valid.computable answer accepted supported found
      have finds : config.Finds oracle tradeoff state workspace solution :=
        ⟨_, _, answer, accepted, supported, found⟩
      refine ⟨_, _, outcome,
        .descend slope solution accepted slopeAligned answered finds solved, ?_⟩
      rw [arena]
      exact (extendedHolds.use (PlaneLedger.length_dual_of_solved solved)).trim _

end OptimizerConfig

end HingeRank
