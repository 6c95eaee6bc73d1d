import Mathlib
import HingeRank.Proofs.Evaluation.Accuracy
import HingeRank.Proofs.Optimizer.Convergence
import HingeRank.Proofs.Safety.Arena
import HingeRank.Proofs.Safety.Nonnegative

/-!
# Checked steps and runs

Steps and runs of the optimizer, written with operations that can fail.
-/

namespace HingeRank

/-!
## A step of the optimizer never fails

The oracle may refuse to answer, but what follows from an answer with a slope of the right
dimension can be computed: the plane joins the arena, the model of all planes is solved, and
the planes are trimmed.  A step leaves behind planes from which the next one can be made.
-/

section

variable {σ : Type}

/-- Every answer at weights of the oracle's dimension has a slope of that dimension. -/
def LossOracle.Fits (oracle : LossOracle ℚ σ) : Prop :=
  ∀ weights oracleState answer, weights.length = oracle.dimension →
    (oracle.evaluate weights oracleState).1 = .ok answer →
    ∃ slope, answer.subgradient = .vector slope ∧ slope.length = oracle.dimension

/-- The oracle refuses some weights of its dimension with this error. -/
def LossOracle.Refuses (oracle : LossOracle ℚ σ) (problem : Error) : Prop :=
  ∃ weights oracleState, weights.length = oracle.dimension ∧
    (oracle.evaluate weights oracleState).1 = .error problem

variable {oracle : LossOracle ℚ σ} {risk : List ℚ → ℚ} {allowed : List ℚ → List ℚ → Prop}

theorem LossOracle.Answers.fits (answers : oracle.Answers risk allowed) : oracle.Fits := by
  intro weights oracleState answer weights_eq answered
  obtain ⟨slope, slope_eq, -, evaluated⟩ := answers weights weights_eq oracleState
  cases answered.symm.trans evaluated
  exact ⟨slope, rfl, slope_eq⟩

theorem LossOracle.Answers.not_refuses (answers : oracle.Answers risk allowed) (problem : Error) :
    ¬ oracle.Refuses problem := by
  rintro ⟨weights, oracleState, weights_eq, refused⟩
  obtain ⟨slope, -, -, evaluated⟩ := answers weights weights_eq oracleState
  cases refused.symm.trans evaluated

namespace Checked

variable {config : OptimizerConfig ℚ} {tradeoff : ℚ}
  {state : OptimizerState ℚ} {workspace : Workspace ℚ σ}

def support? (arena : PlaneArena ℚ) (answer : LossAnswer ℚ) (weights : List ℚ) :
    Option (Except Error (PlaneArena ℚ)) :=
  match planeOffset? answer.risk answer.subgradient weights with
  | .error fault => some (.error (.fault fault))
  | .ok _ => do
      let product ← dot answer.subgradient.entries weights
      return (← Arena.add? arena answer.subgradient (answer.risk - product)).map (·.2)

def solveModel? (config : OptimizerConfig ℚ) (tradeoff : ℚ) (arena : PlaneArena ℚ) :
    Option (Except Error (ModelSolution ℚ)) :=
  match config.obstacles.subproblem with
  | some fault => some (.error (.fault fault))
  | none => do
      Planes.solve? ⟨arena.dimension, ← Arena.gradients arena, ← Arena.offsets arena, tradeoff⟩
        (← Arena.gram arena)
        { nonnegative := config.nonnegative
          initialDual := some (← Arena.dual arena)
          tolerance := config.subproblemTolerance tradeoff
          cap := config.qpMaxIterations }

def step (config : OptimizerConfig ℚ) (oracle : LossOracle ℚ σ) (tradeoff : ℚ)
    (state : OptimizerState ℚ) (workspace : Workspace ℚ σ) : Option (StepResult ℚ σ) :=
  let (answer, oracleState) := oracle.evaluate state.weights workspace.oracleState
  let workspace := { workspace with oracleState }
  match answer, config.obstacles.objective <|> config.obstacles.progress with
  | .error problem, _ => some ⟨.error problem, workspace, []⟩
  | .ok _, some fault => some ⟨.error (.fault fault), workspace, []⟩
  | .ok answer, none =>
      let objective := Linear.halfNorm state.weights + tradeoff * answer.risk
      let evaluated := state.record ⟨state.weights, objective, answer.risk⟩
      let report := .evaluated evaluated.iteration objective answer.risk
        (evaluated.best.map (·.objective)) evaluated.lowerBound workspace.arena.size config.verbose
      if let some fault := config.obstacles.acceptance then
        some ⟨.error (.fault fault), workspace, [report]⟩
      else if evaluated.isAccepted (config.acceptedGap tradeoff) then
        some ⟨.ok { evaluated with stopReason := some .converged }, workspace, [report]⟩
      else do
        match ← support? workspace.arena answer state.weights with
        | .error problem => return ⟨.error problem, workspace, [report]⟩
        | .ok arena =>
            match ← solveModel? config tradeoff arena with
            | .error problem => return ⟨.error problem, { workspace with arena }, [report]⟩
            | .ok solution =>
                let (removed, arena) ←
                  Arena.trim (← Arena.recordDual arena solution.dual) config.inactivePlaneThreshold
                let trimming := if removed = 0 then [] else [.trimmed removed arena.size]
                return ⟨.ok { evaluated with
                    weights := solution.weights
                    lowerBound := Scalar.greater state.lowerBound solution.dualValue },
                  { workspace with arena }, report :: trimming⟩

/-! ### What follows from an answer -/

/-- Planes of one dimension, among them the zero plane. -/
def Sane (dimension : Nat) (arena : PlaneArena ℚ) : Prop :=
  ∃ ledger : PlaneLedger, ledger.dimension = dimension ∧ ledger.Matches arena ∧ ledger.Aligned

theorem sane_initial (dimension capacity : Nat) :
    Sane dimension (.initial dimension capacity) :=
  ⟨.initial dimension, rfl, .initial dimension capacity,
    PlaneLedger.initial_aligned dimension⟩

variable {dimension : Nat} {arena : PlaneArena ℚ} {answer : LossAnswer ℚ}
  {weights slope : List ℚ}

/-- The plane of a slope of the right dimension joins the arena. -/
theorem support?_eq (sane : Sane dimension arena) (weights_eq : weights.length = dimension)
    (subgradient_eq : answer.subgradient = .vector slope) (slope_eq : slope.length = dimension) :
    ∃ extended, support? arena answer weights = some (.ok extended) ∧
      arena.support? answer weights = .ok extended ∧ Sane dimension extended := by
  obtain ⟨ledger, rfl, holds, aligned⟩ := sane
  rcases answer with ⟨risk, subgradient⟩
  change subgradient = _ at subgradient_eq
  subst subgradient_eq
  have equal := slope_eq.trans weights_eq.symm
  have dimensions := holds.dimension_eq.symm
  have fits : (Tensor.vector slope).shape = [arena.dimension] := by
    rw [Tensor.vector, slope_eq, dimensions]
  have rows : ∀ record ∈ ledger.records, record.gradient.length = slope.length := by
    intro record member
    rw [aligned record member, slope_eq]
  let offset := risk - Linear.dot slope weights
  have pushed : Arena.push arena (Tensor.vector slope).entries offset =
      some (arena.push slope offset) :=
    Arena.push_eq holds.represents holds.zeroFirst.ne_nil rows offset
  have product : dot (Tensor.vector slope).entries weights = some (Linear.dot slope weights) :=
    dot_eq equal
  have added : Arena.add? arena (.vector slope) offset =
      some (.ok (arena.size, arena.push slope offset)) := by
    rw [Arena.add?, if_pos fits, pushed]
    rfl
  refine ⟨arena.push slope offset, ?_, ?_, ledger.append slope offset, rfl,
    holds.append slope offset, aligned.append slope_eq offset⟩
  · simp only [support?, planeOffset?_vector equal, product, Option.bind_eq_bind,
      Option.bind_some]
    rw [added]
    rfl
  · exact PlaneArena.support?_vector (slope_eq.trans dimensions)
      (weights_eq.trans dimensions) risk

/-- The model of the planes has a solution with a multiplier for each of them. -/
theorem solveModel?_eq (valid : config.Valid) (tradeoff_pos : 0 < tradeoff)
    (sane : Sane dimension arena) :
    ∃ solution, solveModel? config tradeoff arena = some (.ok solution) ∧
      config.solveModel? tradeoff arena = .ok solution ∧
      solution.weights.length = dimension ∧ solution.dual.length = arena.size := by
  obtain ⟨ledger, rfl, holds, aligned⟩ := sane
  have roomy := holds.represents.roomy
  have wellFormed := aligned.model_wellFormed holds.zeroFirst.ne_nil tradeoff_pos
  obtain ⟨solution, found, solved⟩ :=
    OptimizerConfig.solveModel?_solved valid tradeoff_pos holds aligned
  have width : solution.weights.length = ledger.dimension := by
    rw [solved.weights_eq]
    exact PlaneModel.length_weightsOf wellFormed.aligned config.nonnegative solution.dual
  refine ⟨solution, ?_, found, width,
    (PlaneLedger.length_dual_of_solved solved).trans holds.represents.size_eq.symm⟩
  -- The arena keeps the inner products of its gradients, which the solver relies on.
  have products : arena.gram = Linear.gram (arena.model tradeoff).gradients := by
    rw [holds.represents.gram_eq, ← holds.represents.gradients_eq]
    rfl
  rw [← holds.model_eq] at wellFormed
  have agrees := Planes.solve?_eq wellFormed
    ⟨config.nonnegative, some arena.dual, config.subproblemTolerance tradeoff,
      config.qpMaxIterations⟩ (valid.subproblemTolerance_pos tradeoff_pos).le
  rw [← products] at agrees
  rw [← found]
  simp only [solveModel?, OptimizerConfig.solveModel?, valid.computable, Obstacles.none,
    Arena.gradients_eq roomy, Arena.offsets_eq roomy, Arena.gram_eq roomy, Arena.dual_eq roomy,
    Option.bind_eq_bind, Option.bind_some]
  exact agrees

/-- With a multiplier for each plane the planes are trimmed to planes of the same kind. -/
theorem trim_recordDual_eq (sane : Sane dimension arena) {multipliers : List ℚ}
    (equal : multipliers.length = arena.size) (threshold : Nat) :
    Arena.recordDual arena multipliers = some (arena.recordDual multipliers) ∧
      Arena.trim (arena.recordDual multipliers) threshold =
        some ((arena.recordDual multipliers).trim threshold) ∧
      Sane dimension ((arena.recordDual multipliers).trim threshold).2 := by
  obtain ⟨ledger, rfl, holds, aligned⟩ := sane
  have count := equal.trans holds.represents.size_eq
  have used := holds.use count
  have nonempty : 0 < (arena.recordDual multipliers).size := by
    rw [used.represents.size_eq]
    exact List.length_pos_iff.mpr used.zeroFirst.ne_nil
  have fewer : ((ledger.use multipliers).trim threshold).planes ⊆ ledger.planes := by
    rw [← PlaneLedger.planes_use count]
    exact (PlaneLedger.planes_trim_sublist _ threshold).subset
  exact ⟨Arena.recordDual_eq holds.represents.roomy equal,
    Arena.trim_eq used.represents.roomy nonempty threshold,
    (ledger.use multipliers).trim threshold, rfl, used.trim threshold, aligned.of_planes fewer⟩

/-! ### A step as a whole -/

/-- A step fails only if the oracle does; otherwise the next one can be made from the weights
and planes that it leaves behind. -/
def Continues (oracle : LossOracle ℚ σ) (result : StepResult ℚ σ) : Prop :=
  match result.outcome with
  | .error problem => oracle.Refuses problem
  | .ok next =>
      next.weights.length = oracle.dimension ∧ Sane oracle.dimension result.workspace.arena

theorem step_eq (valid : config.Valid) (tradeoff_pos : 0 < tradeoff) (fits : oracle.Fits)
    (weights_eq : state.weights.length = oracle.dimension)
    (sane : Sane oracle.dimension workspace.arena) :
    step config oracle tradeoff state workspace =
        some (config.step oracle tradeoff state workspace) ∧
      Continues oracle (config.step oracle tradeoff state workspace) := by
  rcases reply : oracle.evaluate state.weights workspace.oracleState with ⟨answer, oracleState⟩
  cases answer with
  | error problem =>
      simp only [step, OptimizerConfig.step, reply]
      refine ⟨trivial, state.weights, workspace.oracleState, weights_eq, ?_⟩
      rw [reply]
  | ok answer =>
      obtain ⟨slope, subgradient_eq, slope_eq⟩ :=
        fits state.weights workspace.oracleState answer weights_eq (by rw [reply])
      obtain ⟨extended, checkedSupport, supported, extendedSane⟩ :=
        support?_eq sane weights_eq subgradient_eq slope_eq
      obtain ⟨solution, checkedFound, found, width, count⟩ :=
        solveModel?_eq valid tradeoff_pos extendedSane
      obtain ⟨recorded, trimmed, nextSane⟩ :=
        trim_recordDual_eq extendedSane count config.inactivePlaneThreshold
      simp only [step, OptimizerConfig.step, reply, valid.computable, Obstacles.none,
        Option.orElse_eq_orElse, Option.orElse_none, supported, checkedSupport, found,
        checkedFound, recorded, trimmed, Option.bind_eq_bind, Option.bind_some]
      split
      next accepted => exact ⟨rfl, weights_eq, sane⟩
      next rejected => exact ⟨rfl, width, nextSane⟩

end Checked

end

/-!
## Runs of the optimizer never fail

A run consists of steps that do not fail, so that all its quotients, choices and positions
exist.  It has a result unless the oracle refuses to answer; no error arises otherwise.

The oracle of a ranking does not refuse.  It averages over a positive number of pairs, and
its slopes have the dimension of the dataset.
-/

namespace Checked

variable {σ : Type} {config : OptimizerConfig ℚ} {oracle : LossOracle ℚ σ} {tradeoff : ℚ}

def iterate (config : OptimizerConfig ℚ) (oracle : LossOracle ℚ σ) (tradeoff : ℚ)
    (clock : Nat → ℚ) (started : ℚ) : (fuel : Nat) → Run ℚ σ → Option (Option Error × Run ℚ σ)
  | 0, run => some (none, run)
  | fuel + 1, run =>
      if config.shouldStop run.state then some (none, run)
      else
        let overdue := config.isOverdue clock started run.readings
        let run := config.readClock run
        if overdue then
          some (none, { run with state := { run.state with stopReason := some .timeLimit } })
        else do
          let result ← step config oracle tradeoff run.state run.workspace
          let run := { run with
            workspace := result.workspace
            events := run.events ++ result.events }
          match result.outcome with
          | .error problem => return (some problem, run)
          | .ok state =>
              iterate config oracle tradeoff clock started fuel
                { run with state, history := run.history ++ Run.historyEntry state }

/-- Steps from weights and planes of the oracle's dimension go on until the run ends, unless
the oracle refuses to answer. -/
theorem iterate_eq (valid : config.Valid) (tradeoff_pos : 0 < tradeoff) (fits : oracle.Fits)
    (clock : Nat → ℚ) (started : ℚ) (fuel : Nat) {run : Run ℚ σ}
    (weights_eq : run.state.weights.length = oracle.dimension)
    (sane : Sane oracle.dimension run.workspace.arena) :
    iterate config oracle tradeoff clock started fuel run =
        some (config.iterate oracle tradeoff clock started fuel run) ∧
      ∀ problem, (config.iterate oracle tradeoff clock started fuel run).1 = some problem →
        oracle.Refuses problem := by
  -- The weights and planes of the run are all that a step needs of it.
  induction fuel generalizing run with
  | zero =>
      constructor
      · rfl
      · intro problem failed
        cases failed
  | succ fuel ih =>
      cases stops : config.shouldStop run.state with
      | true =>
          simp only [iterate, OptimizerConfig.iterate, stops, if_true]
          constructor
          · trivial
          · intro problem failed
            cases failed
      | false =>
          have reads : (if config.maxSeconds.isSome then
              { run with readings := run.readings + 1 } else run) = config.readClock run := rfl
          obtain ⟨state_eq, workspace_eq, -⟩ := config.readClock_situation run
          obtain ⟨agrees, continues⟩ := step_eq valid tradeoff_pos fits weights_eq sane
          simp only [iterate, OptimizerConfig.iterate, stops, Bool.false_eq_true, if_false, reads,
            state_eq, workspace_eq, agrees, Option.bind_eq_bind, Option.bind_some]
          split
          next overdue =>
            constructor
            · rfl
            · intro problem failed
              cases failed
          next inTime =>
            unfold Continues at continues
            cases outcome : (config.step oracle tradeoff run.state run.workspace).outcome with
            | error refused =>
                rw [outcome] at continues
                constructor
                · rfl
                · intro problem failed
                  cases failed
                  exact continues
            | ok next =>
                rw [outcome] at continues
                exact ih continues.1 continues.2

/-- What is left behind when a run has ended. -/
def conclude (config : OptimizerConfig ℚ) (tradeoff : ℚ) (clock : Nat → ℚ) (started : ℚ)
    (problem : Option Error) (run : Run ℚ σ) : RunOutcome ℚ σ :=
  match problem <|> (config.closingFault run.state).map .fault with
  | some problem => ⟨.error problem, run.workspace, run.readings, run.events⟩
  | none =>
      let stopReason := run.state.stopReason.getD .maxIterations
      let warning :=
        if config.verbose && stopReason != .converged then
          [.stopped run.state.iteration stopReason (run.state.best.map (·.objective))
            run.state.lowerBound (config.acceptedGap tradeoff)]
        else []
      { result := .ok {
          weights := run.state.best.elim run.state.weights (·.weights)
          best := run.state.best
          lowerBound := run.state.lowerBound
          iterations := run.state.iteration
          stopReason
          planeCount := run.workspace.arena.size
          elapsed := clock run.readings - started
          history := run.history }
        workspace := run.workspace
        readings := run.readings + 1
        events := run.events ++ warning }

def optimize (config : OptimizerConfig ℚ) (oracle : LossOracle ℚ σ) (tradeoff : ℚ)
    (clock : Nat → ℚ) (readings : Nat) (oracleState : σ) : Option (RunOutcome ℚ σ) := do
  let started := clock readings
  let (problem, run) ← iterate config oracle tradeoff clock started config.maxIterations
    (.initial oracle.dimension oracleState (readings + 1))
  return conclude config tradeoff clock started problem run

theorem optimize_eq (valid : config.Valid) (tradeoff_pos : 0 < tradeoff) (fits : oracle.Fits)
    (clock : Nat → ℚ) (readings : Nat) (oracleState : σ) :
    optimize config oracle tradeoff clock readings oracleState =
        some (config.optimize oracle tradeoff clock readings oracleState) ∧
      ∀ problem, (config.optimize oracle tradeoff clock readings oracleState).result =
        .error problem → oracle.Refuses problem := by
  let first : Run ℚ σ := .initial oracle.dimension oracleState (readings + 1)
  have concluded : config.optimize oracle tradeoff clock readings oracleState =
      conclude config tradeoff clock (clock readings)
        (config.iterate oracle tradeoff clock (clock readings) config.maxIterations first).1
        (config.iterate oracle tradeoff clock (clock readings) config.maxIterations first).2 := rfl
  have weights_eq : first.state.weights.length = oracle.dimension :=
    Linear.length_zeros oracle.dimension
  have sane : Sane oracle.dimension first.workspace.arena :=
    sane_initial oracle.dimension PlaneArena.defaultCapacity
  obtain ⟨agrees, refuses⟩ := iterate_eq valid tradeoff_pos fits clock (clock readings)
    config.maxIterations weights_eq sane
  rw [concluded, optimize, agrees]
  generalize config.iterate oracle tradeoff clock (clock readings) config.maxIterations first =
    ended at refuses
  refine ⟨rfl, ?_⟩
  intro problem failed
  apply refuses
  -- A run that steps have not stopped is concluded, since everything can be computed.
  rcases ended with ⟨none | stopped, final⟩
  · change (conclude config tradeoff clock (clock readings) none final).result = _ at failed
    simp only [conclude, config.closingFault_eq_none valid.computable] at failed
    cases failed
  · cases failed
    rfl

/-! ### Rankings -/

/-- With exact arithmetic no run of the optimizer on an oracle with slopes of the right
dimension divides by zero, chooses from nothing, or leaves a list or the arena, in either
mode; and it ends in no error but one that the oracle gives.

A ranking with pairs has such an oracle, which gives none. -/
theorem optimize_never_fails (valid : config.Valid) (tradeoff_pos : 0 < tradeoff)
    (clock : Nat → ℚ) (readings : Nat) :
    (∀ {σ : Type} (oracle : LossOracle ℚ σ) (oracleState : σ), oracle.Fits →
      optimize config oracle tradeoff clock readings oracleState =
          some (config.optimize oracle tradeoff clock readings oracleState) ∧
        ∀ problem, (config.optimize oracle tradeoff clock readings oracleState).result =
          .error problem → oracle.Refuses problem) ∧
    ∀ (dataset : Dataset ℚ) (margin : ℚ) (workers : Number) (loss : RankingLoss ℚ),
      dataset.isRankingProblem = true →
      RankingLoss.ofDataset? dataset margin workers = .ok loss →
        (loss.pairCount : ℚ) ≠ 0 ∧ dataset.dimension = some loss.dimension ∧
        (∀ weights : List ℚ, weights.length = loss.dimension →
          ∃ risk slope, loss.risk? weights = .ok (risk, slope) ∧
            slope.length = loss.dimension) ∧
        ∀ evaluations,
          optimize config loss.oracle tradeoff clock readings evaluations =
              some (config.optimize loss.oracle tradeoff clock readings evaluations) ∧
            ∃ result, (config.optimize loss.oracle tradeoff clock readings evaluations).result =
              .ok result := by
  constructor
  · intro σ oracle oracleState fits
    exact optimize_eq valid tradeoff_pos fits clock readings oracleState
  · intro dataset margin workers loss isProblem built
    have averages := RankingLoss.ofDataset?_averages built
    have answers : loss.oracle.Answers (dataset.risk margin) (dataset.IsSlope margin) := by
      rw [averages.oracle_eq]
      exact dataset.pairOracle_answers margin
    refine ⟨?_, ?_, ?_, ?_⟩
    · rw [RankingLoss.pairCount_of_built built]
      exact (Dataset.pairCount_pos isProblem).ne'
    · rw [averages.dimension_eq]
      exact Dataset.dimension_eq_some isProblem
    · intro weights weights_eq
      have answer := averages.risk?_eq (weights_eq.trans averages.dimension_eq)
      exact ⟨(loss.risk weights).1, (loss.risk weights).2, answer,
        (averages.isSlope weights).length_eq.trans averages.dimension_eq.symm⟩
    · intro evaluations
      obtain ⟨agrees, refuses⟩ :=
        optimize_eq valid tradeoff_pos answers.fits clock readings evaluations
      refine ⟨agrees, ?_⟩
      cases outcome : (config.optimize loss.oracle tradeoff clock readings evaluations).result with
      | error problem => exact absurd (refuses problem outcome) (answers.not_refuses problem)
      | ok result => exact ⟨result, rfl⟩

/-- Without negative weights the hinge loss in one dimension is minimised, and one pair is
ranked. -/
theorem optimize_never_fails_nonnegative :
    let config : OptimizerConfig ℚ := { OptimizerConfig.coarse with nonnegative := true }
    let hinge : MaxAffineLoss ℚ := ⟨1, [([-1], 1)]⟩
    let dataset : Dataset ℚ := ⟨[⟨[.dense [1]], [.dense [0]]⟩], some 1, rfl⟩
    config.Valid ∧ hinge.oracle.Fits ∧
      ((optimize config hinge.oracle 1 (fun reading => reading) 0 0).map fun outcome =>
        outcome.result.toOption.map (·.weights)) = some (some [1]) ∧
      ∃ loss, RankingLoss.ofDataset? dataset 1 (.whole 1) = .ok loss ∧
        dataset.isRankingProblem = true ∧ (loss.pairCount : ℚ) ≠ 0 ∧
        ∃ result, (config.optimize loss.oracle 1 (fun reading => reading) 0 0).result =
          .ok result := by
  intro config hinge dataset
  have valid : config.Valid := { OptimizerConfig.coarse_valid with }
  have fits : hinge.oracle.Fits := (MaxAffineLoss.oracle_represents (by decide)).answers.fits
  obtain ⟨runs, ranks⟩ := optimize_never_fails valid one_pos (fun reading => reading) 0
  obtain ⟨loss, built⟩ := RankingLoss.ofDataset?_whole dataset 1 1
  obtain ⟨some, -, -, ends⟩ := ranks dataset 1 (.whole 1) loss (by decide) built
  refine ⟨valid, fits, ?_, loss, built, by decide, some, (ends 0).2⟩
  rw [(runs hinge.oracle 0 fits).1]
  decide +kernel

end Checked

end HingeRank
