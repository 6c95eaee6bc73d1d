import Mathlib
import HingeRank.Optimizer
import HingeRank.Proofs.Exact.Sequence
import HingeRank.Proofs.Planes.Shape

/-!
# Oracles in shape

What can go wrong in a run, and the calls that a run makes of its oracle.
-/

namespace HingeRank

/-!
## What can go wrong in a run

An oracle that answers at all weights of its dimension, with a slope of that dimension, keeps a
run in shape: every step leaves weights and planes of that dimension behind, and none of them is
refused later.  What remains are faults of elementary operations and subproblems without a finite
solution.  All this holds whatever the numbers are.
-/

section

variable {K σ : Type} [Scalar K]

/-- At weights of its dimension the oracle answers with a slope of that dimension. -/
def LossOracle.InShape (oracle : LossOracle K σ) : Prop :=
  ∀ weights oracleState, weights.length = oracle.dimension →
    ∃ risk slope, (oracle.evaluate weights oracleState).1 = .ok ⟨risk, .vector slope⟩ ∧
      slope.length = oracle.dimension

/-! ### The plane of an answer -/

theorem planeOffset?_vector {slope weights : List K} (equal : slope.length = weights.length)
    (risk : K) :
    planeOffset? risk (.vector slope) weights = .ok (risk - Linear.dot slope weights) := by
  rw [planeOffset?, Tensor.inner?_vector equal]
  rfl

namespace PlaneArena

variable {arena : PlaneArena K} {slope weights : List K}

/-- The plane of an answer joins the arena. -/
theorem support?_vector (slope_eq : slope.length = arena.dimension)
    (weights_eq : weights.length = arena.dimension) (risk : K) :
    arena.support? ⟨risk, .vector slope⟩ weights =
      .ok (arena.push slope (risk - Linear.dot slope weights)) := by
  simp only [support?, planeOffset?_vector (slope_eq.trans weights_eq.symm)]
  simp only [add?, Tensor.vector, slope_eq, if_true]
  rfl

/-- A regular arena remains so when the plane of an answer joins it. -/
theorem Regular.support? {dimension : Nat} (regular : arena.Regular dimension)
    (slope_eq : slope.length = dimension) (weights_eq : weights.length = dimension) (risk : K) :
    ∃ extended, arena.support? ⟨risk, .vector slope⟩ weights = .ok extended ∧
      extended.Regular dimension := by
  have dimension_eq := regular.dimension_eq.symm
  exact ⟨_, support?_vector (slope_eq.trans dimension_eq) (weights_eq.trans dimension_eq) risk,
    regular.push slope_eq _⟩

end PlaneArena

/-! ### The subproblem -/

/-- A model that is solved has the weights of its multipliers. -/
theorem PlaneModel.solve?_cases (model : PlaneModel K) (gram : List (List K))
    (options : ModelOptions K) :
    (∃ solution, model.solve? gram options = .ok solution ∧
      solution.weights = model.weightsOf options.nonnegative solution.dual) ∨
    ∃ problem, model.solve? gram options = .error problem ∧ problem.OffInput := by
  unfold solve?
  split
  next => exact .inr ⟨_, rfl, rfl, rfl⟩
  dsimp only
  split
  next => exact .inr ⟨_, rfl, rfl, rfl⟩
  split
  next => exact .inr ⟨_, rfl, rfl, rfl⟩
  next => exact .inl ⟨_, rfl, rfl⟩

namespace OptimizerConfig

variable (config : OptimizerConfig K)

/-- The model of a regular arena has solutions of the arena's dimension only. -/
theorem solveModel?_cases {arena : PlaneArena K} {dimension : Nat}
    (regular : arena.Regular dimension) (tradeoff : K) :
    (∃ solution, config.solveModel? tradeoff arena = .ok solution ∧
      solution.weights.length = dimension) ∨
    ∃ problem, config.solveModel? tradeoff arena = .error problem ∧ problem.OffInput := by
  unfold solveModel?
  split
  next => exact .inr ⟨_, rfl, rfl, rfl⟩
  next =>
    rcases (arena.model tradeoff).solve?_cases arena.gram
      ⟨config.nonnegative, some arena.dual, config.subproblemTolerance tradeoff,
        config.qpMaxIterations⟩ with ⟨solution, solved, weights_eq⟩ | failed
    · refine .inl ⟨solution, solved, ?_⟩
      rw [weights_eq, PlaneModel.length_weightsOf]
      · exact regular.dimension_eq
      · rw [← regular.dimension_eq] at regular
        exact regular.aligned_gradients
    · exact .inr failed

end OptimizerConfig

/-! ### Where a step ends -/

/-- The state that has taken note of an answer at its weights. -/
def OptimizerState.answered (state : OptimizerState K) (tradeoff : K) (answer : LossAnswer K) :
    OptimizerState K :=
  state.record ⟨state.weights, Linear.halfNorm state.weights + tradeoff * answer.risk, answer.risk⟩

namespace OptimizerConfig

variable (config : OptimizerConfig K)

/-- A fault in weighing, reporting or comparing an answer, before any plane is made of it. -/
def hindrance : Option Fault :=
  (config.obstacles.objective <|> config.obstacles.progress) <|> config.obstacles.acceptance

/-- A step gets as far as its subproblem: the oracle has answered, the answer has been weighed and
leaves a gap, and its plane has joined the arena. -/
structure PosesSubproblem (oracle : LossOracle K σ) (tradeoff : K) (state : OptimizerState K)
    (workspace : Workspace K σ) (answer : LossAnswer K) (extended : PlaneArena K) : Prop where
  replied : (oracle.evaluate state.weights workspace.oracleState).1 = .ok answer
  unhindered : config.hindrance = none
  unaccepted : (state.answered tradeoff answer).isAccepted (config.acceptedGap tradeoff) = false
  joined : workspace.arena.support? answer state.weights = .ok extended

/-- Where a step can end, with what outcome, and the workspace that it leaves behind there. -/
inductive Ends (oracle : LossOracle K σ) (tradeoff : K) (state : OptimizerState K)
    (workspace : Workspace K σ) : Except Error (OptimizerState K) → Workspace K σ → Prop
  /-- The oracle refuses to answer. -/
  | refused (problem : Error)
      (reply : (oracle.evaluate state.weights workspace.oracleState).1 = .error problem) :
      Ends oracle tradeoff state workspace (.error problem)
        { workspace with oracleState := (oracle.evaluate state.weights workspace.oracleState).2 }
  /-- The answer cannot be weighed, reported or compared. -/
  | hindered (fault : Fault) (answer : LossAnswer K)
      (replied : (oracle.evaluate state.weights workspace.oracleState).1 = .ok answer)
      (found : config.hindrance = some fault) :
      Ends oracle tradeoff state workspace (.error (.fault fault))
        { workspace with oracleState := (oracle.evaluate state.weights workspace.oracleState).2 }
  /-- The answer leaves no gap. -/
  | accepted (answer : LossAnswer K)
      (replied : (oracle.evaluate state.weights workspace.oracleState).1 = .ok answer)
      (closes : (state.answered tradeoff answer).isAccepted (config.acceptedGap tradeoff) = true) :
      Ends oracle tradeoff state workspace
        (.ok { state.answered tradeoff answer with stopReason := some .converged })
        { workspace with oracleState := (oracle.evaluate state.weights workspace.oracleState).2 }
  /-- The answer is no plane for the arena. -/
  | unsupported (problem : Error) (answer : LossAnswer K)
      (replied : (oracle.evaluate state.weights workspace.oracleState).1 = .ok answer)
      (refusal : workspace.arena.support? answer state.weights = .error problem) :
      Ends oracle tradeoff state workspace (.error problem)
        { workspace with oracleState := (oracle.evaluate state.weights workspace.oracleState).2 }
  /-- The subproblem fails after the plane of the answer has joined the arena. -/
  | unsolved (problem : Error) (answer : LossAnswer K) (extended : PlaneArena K)
      (poses : config.PosesSubproblem oracle tradeoff state workspace answer extended)
      (failed : config.solveModel? tradeoff extended = .error problem) :
      Ends oracle tradeoff state workspace (.error problem)
        ⟨extended, (oracle.evaluate state.weights workspace.oracleState).2⟩
  /-- The subproblem has a solution, which decides about the next weights and the planes kept. -/
  | solved (answer : LossAnswer K) (extended : PlaneArena K) (solution : ModelSolution K)
      (poses : config.PosesSubproblem oracle tradeoff state workspace answer extended)
      (found : config.solveModel? tradeoff extended = .ok solution) :
      Ends oracle tradeoff state workspace
        (.ok { state.answered tradeoff answer with
          weights := solution.weights
          lowerBound := Scalar.greater state.lowerBound solution.dualValue })
        ⟨((extended.recordDual solution.dual).trim config.inactivePlaneThreshold).2,
          (oracle.evaluate state.weights workspace.oracleState).2⟩

theorem step_ends (oracle : LossOracle K σ) (tradeoff : K) (state : OptimizerState K)
    (workspace : Workspace K σ) :
    config.Ends oracle tradeoff state workspace (config.step oracle tradeoff state workspace).outcome
      (config.step oracle tradeoff state workspace).workspace := by
  unfold step
  rcases reply : oracle.evaluate state.weights workspace.oracleState with ⟨answer, oracleState⟩
  obtain rfl : oracleState = (oracle.evaluate state.weights workspace.oracleState).2 := by
    rw [reply]
  have replied := congrArg Prod.fst reply
  cases answer with
  | error problem => exact .refused problem replied
  | ok answer =>
      cases weighed : config.obstacles.objective <|> config.obstacles.progress with
      | some fault => exact .hindered fault answer replied (by rw [hindrance, weighed]; rfl)
      | none =>
          cases compared : config.obstacles.acceptance with
          | some fault =>
              exact .hindered fault answer replied (by rw [hindrance, weighed, compared]; rfl)
          | none =>
          dsimp only
          split
          next closes => exact .accepted answer replied closes
          next unaccepted =>
          split
          next problem refusal => exact .unsupported problem answer replied refusal
          next extended joined =>
          have poses : config.PosesSubproblem oracle tradeoff state workspace answer extended :=
            ⟨replied, by rw [hindrance, weighed, compared]; rfl, Bool.of_not_eq_true unaccepted,
              joined⟩
          split
          next problem failed => exact .unsolved problem answer extended poses failed
          next solution found => exact .solved answer extended solution poses found

end OptimizerConfig

/-! ### Steps in shape -/

/-- The next weights and all planes have this dimension. -/
structure OptimizerState.InShape (state : OptimizerState K) (workspace : Workspace K σ)
    (dimension : Nat) : Prop where
  weights_eq : state.weights.length = dimension
  regular : workspace.arena.Regular dimension

/-- A step that does not fail leaves behind what the next one needs. -/
def StepResult.InShape (result : StepResult K σ) (dimension : Nat) : Prop :=
  match result.outcome with
  | .ok next => next.InShape result.workspace dimension
  | .error problem => problem.OffInput

namespace OptimizerConfig

variable (config : OptimizerConfig K) {oracle : LossOracle K σ}

theorem step_inShape (answers : oracle.InShape) (tradeoff : K) {state : OptimizerState K}
    {workspace : Workspace K σ} (shape : state.InShape workspace oracle.dimension) :
    (config.step oracle tradeoff state workspace).InShape oracle.dimension := by
  obtain ⟨risk, slope, answered, slope_eq⟩ :=
    answers state.weights workspace.oracleState shape.weights_eq
  obtain ⟨extended, supported, extendedRegular⟩ :=
    shape.regular.support? slope_eq shape.weights_eq risk
  have ends := config.step_ends oracle tradeoff state workspace
  unfold StepResult.InShape
  generalize (config.step oracle tradeoff state workspace).outcome = outcome,
    (config.step oracle tradeoff state workspace).workspace = after at ends ⊢
  have solvable := config.solveModel?_cases extendedRegular tradeoff
  cases ends with
  | refused problem reply => cases reply.symm.trans answered
  | hindered fault answer replied found => exact ⟨rfl, rfl⟩
  | accepted answer replied closes => exact ⟨shape.weights_eq, shape.regular⟩
  | unsupported problem answer replied refusal =>
      cases replied.symm.trans answered
      cases refusal.symm.trans supported
  | unsolved problem answer other poses failed =>
      cases poses.replied.symm.trans answered
      cases poses.joined.symm.trans supported
      rcases solvable with ⟨solution, found, -⟩ | ⟨otherProblem, otherFailed, offInput⟩
      · cases found.symm.trans failed
      · cases otherFailed.symm.trans failed
        exact offInput
  | solved answer other solution poses found =>
      cases poses.replied.symm.trans answered
      cases poses.joined.symm.trans supported
      rcases solvable with ⟨otherSolution, otherFound, weights_eq⟩ | ⟨problem, failed, -⟩
      · cases otherFound.symm.trans found
        exact ⟨weights_eq, (extendedRegular.recordDual _).trim _⟩
      · cases failed.symm.trans found

/-! ### Runs -/

/-- The induction is on the number of steps that are allowed. -/
theorem iterate_fails (answers : oracle.InShape) (tradeoff : K) (clock : Nat → K) (started : K)
    (fuel : Nat) (run : Run K σ) (shape : run.state.InShape run.workspace oracle.dimension)
    (problem : Error)
    (failed : (config.iterate oracle tradeoff clock started fuel run).1 = some problem) :
    problem.OffInput := by
  induction fuel generalizing run with
  | zero => cases failed
  | succ fuel ih =>
      -- Reading the clock changes neither the state nor the planes.
      let read : Run K σ :=
        if config.maxSeconds.isSome then { run with readings := run.readings + 1 } else run
      have readShape : read.state.InShape read.workspace oracle.dimension := by
        unfold read
        split
        next => exact shape
        next => exact shape
      have made := config.step_inShape answers tradeoff readShape
      unfold iterate at failed
      split at failed
      next => cases failed
      dsimp only at failed
      split at failed
      next => cases failed
      unfold StepResult.InShape at made
      split at failed
      next other outcome =>
        cases failed
        rw [outcome] at made
        exact made
      next next outcome =>
        rw [outcome] at made
        exact ih _ made failed

theorem optimize_fails (answers : oracle.InShape) (tradeoff : K) (clock : Nat → K)
    (readings : Nat) (oracleState : σ) :
    FailsOnly Error.OffInput
      (config.optimize oracle tradeoff clock readings oracleState).result := by
  unfold optimize
  rcases iterated : config.iterate oracle tradeoff clock (clock readings) config.maxIterations
    (.initial oracle.dimension oracleState (readings + 1)) with ⟨problem, run⟩
  simp only [iterated]
  split
  next other failed =>
    cases problem with
    | some stopped =>
        cases failed
        have shape : (OptimizerState.initial oracle.dimension : OptimizerState K).InShape
            ⟨.initial oracle.dimension PlaneArena.defaultCapacity, oracleState⟩
            oracle.dimension :=
          ⟨Linear.length_zeros _, .initial _ _⟩
        exact .error (config.iterate_fails answers tradeoff clock _ _ _ shape _
          (congrArg Prod.fst iterated))
    | none =>
        obtain ⟨fault, _, rfl⟩ := Option.map_eq_some_iff.mp failed
        exact .error ⟨rfl, rfl⟩
  next => exact .ok _

end OptimizerConfig

end

/-!
## Oracles whose calls are recorded

Of the state of an oracle a run knows nothing.  It only passes the state on from one call to the
next, so that an oracle with more in its state leads to the same result as long as it gives the
same answers.  In particular the calls of any oracle can be recorded on the side, to be compared
with what the run reports.
-/

section

variable {K σ τ : Type}

/-- One call of an oracle. -/
structure Exchange (K : Type) where
  weights : List K
  answer : Except Error (LossAnswer K)

namespace LossOracle

/-- Through the view the states and answers of the one oracle are those of the other. -/
structure Shows (fine : LossOracle K τ) (view : τ → σ) (coarse : LossOracle K σ) : Prop where
  dimension_eq : fine.dimension = coarse.dimension
  evaluate_eq : ∀ weights oracleState, coarse.evaluate weights (view oracleState) =
    ((fine.evaluate weights oracleState).1, view (fine.evaluate weights oracleState).2)

/-- The oracle that always gives the same answer. -/
def constant (dimension : Nat) (answer : Except Error (LossAnswer K)) : LossOracle K Unit where
  dimension := dimension
  evaluate _ _ := (answer, ())

/-- The oracle with a list of all calls. -/
def recorded (oracle : LossOracle K σ) : LossOracle K (σ × List (Exchange K)) where
  dimension := oracle.dimension
  evaluate weights oracleState :=
    let (answer, next) := oracle.evaluate weights oracleState.1
    (answer, next, oracleState.2 ++ [⟨weights, answer⟩])

theorem recorded_shows (oracle : LossOracle K σ) : oracle.recorded.Shows Prod.fst oracle where
  dimension_eq := rfl
  evaluate_eq := fun _ _ => rfl

theorem InShape.recorded [Scalar K] {oracle : LossOracle K σ} (answers : oracle.InShape) :
    oracle.recorded.InShape :=
  fun weights oracleState weights_eq => answers weights oracleState.1 weights_eq

end LossOracle

/-! ### Runs seen through a view -/

variable [Scalar K]

def Workspace.through (view : τ → σ) (workspace : Workspace K τ) : Workspace K σ :=
  ⟨workspace.arena, view workspace.oracleState⟩

def StepResult.through (view : τ → σ) (result : StepResult K τ) : StepResult K σ :=
  ⟨result.outcome, result.workspace.through view, result.events⟩

def Run.through (view : τ → σ) (run : Run K τ) : Run K σ :=
  ⟨run.state, run.workspace.through view, run.readings, run.history, run.events⟩

namespace OptimizerConfig

/-- A step calls the oracle once, at the weights of its state, and passes the oracle's state on
without looking at it. -/
theorem step_of_reply (config : OptimizerConfig K) (oracle : LossOracle K σ) (tradeoff : K)
    (state : OptimizerState K) (workspace : Workspace K σ) :
    let reply := oracle.evaluate state.weights workspace.oracleState
    let result := config.step (.constant oracle.dimension reply.1) tradeoff state
      ⟨workspace.arena, ()⟩
    config.step oracle tradeoff state workspace =
      ⟨result.outcome, ⟨result.workspace.arena, reply.2⟩, result.events⟩ := by
  intro reply result
  unfold result reply
  rcases replied : oracle.evaluate state.weights workspace.oracleState with ⟨answer, oracleState⟩
  simp only [step, LossOracle.constant, replied]
  cases answer with
  | error problem => rfl
  | ok answer =>
      cases config.obstacles.objective <|> config.obstacles.progress with
      | some fault => rfl
      | none =>
          dsimp only
          split
          next => rfl
          split
          next => rfl
          split
          next => rfl
          split
          next => rfl
          next => rfl

theorem step_oracleState (config : OptimizerConfig K) (oracle : LossOracle K σ) (tradeoff : K)
    (state : OptimizerState K) (workspace : Workspace K σ) :
    (config.step oracle tradeoff state workspace).workspace.oracleState =
      (oracle.evaluate state.weights workspace.oracleState).2 := by
  rw [step_of_reply]

variable {fine : LossOracle K τ} {coarse : LossOracle K σ} {view : τ → σ}

theorem step_through (shows : fine.Shows view coarse) (config : OptimizerConfig K) (tradeoff : K)
    (state : OptimizerState K) (workspace : Workspace K τ) :
    config.step coarse tradeoff state (workspace.through view) =
      (config.step fine tradeoff state workspace).through view := by
  have reply := shows.evaluate_eq state.weights workspace.oracleState
  rw [step_of_reply, step_of_reply config fine, Workspace.through, reply, shows.dimension_eq]
  rfl

theorem iterate_through (shows : fine.Shows view coarse) (config : OptimizerConfig K) (tradeoff : K)
    (clock : Nat → K) (started : K) (fuel : Nat) (run : Run K τ) :
    config.iterate coarse tradeoff clock started fuel (run.through view) =
      ((config.iterate fine tradeoff clock started fuel run).1,
        (config.iterate fine tradeoff clock started fuel run).2.through view) := by
  induction fuel generalizing run with
  | zero => rfl
  | succ fuel ih =>
      rw [iterate, iterate]
      by_cases stops : config.shouldStop run.state = true
      · rw [if_pos stops, if_pos (by exact stops)]
      rw [if_neg stops, if_neg (by exact stops)]
      -- The clock is read in both runs.
      let read : Run K τ :=
        if config.maxSeconds.isSome then { run with readings := run.readings + 1 } else run
      have read_through : (if config.maxSeconds.isSome then
          { run.through view with readings := (run.through view).readings + 1 }
          else run.through view) = read.through view := by
        unfold read
        split <;> rfl
      simp only [read_through]
      by_cases overdue : config.isOverdue clock started run.readings = true
      · rw [if_pos overdue, if_pos (by exact overdue)]
        rfl
      rw [if_neg overdue, if_neg (by exact overdue)]
      have stepped : config.step coarse tradeoff (read.through view).state
          (read.through view).workspace =
            (config.step fine tradeoff read.state read.workspace).through view :=
        step_through shows config tradeoff read.state read.workspace
      simp only [stepped, StepResult.through]
      cases outcome : (config.step fine tradeoff read.state read.workspace).outcome with
      | error problem => rfl
      | ok next =>
          exact ih { read with
            state := next
            workspace := (config.step fine tradeoff read.state read.workspace).workspace
            events := read.events ++ (config.step fine tradeoff read.state read.workspace).events
            history := read.history ++ Run.historyEntry next }

/-- A run has the same result with both oracles. -/
theorem optimize_through (shows : fine.Shows view coarse) (config : OptimizerConfig K)
    (tradeoff : K) (clock : Nat → K) (readings : Nat) (oracleState : τ) :
    (config.optimize coarse tradeoff clock readings (view oracleState)).result =
      (config.optimize fine tradeoff clock readings oracleState).result := by
  let first : Run K τ := .initial fine.dimension oracleState (readings + 1)
  have iterated := iterate_through shows config tradeoff clock (clock readings) config.maxIterations
    first
  have first_through : first.through view = .initial coarse.dimension (view oracleState)
      (readings + 1) := by
    rw [← shows.dimension_eq]
    rfl
  rw [first_through] at iterated
  simp only [optimize, iterated]
  rcases config.iterate fine tradeoff clock (clock readings) config.maxIterations first with
    ⟨problem, run⟩
  dsimp only [Run.through]
  split
  next => rfl
  next => rfl

end OptimizerConfig

end

end HingeRank
