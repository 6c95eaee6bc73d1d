import HingeRank.Dual
import HingeRank.Loss.MaxAffine
import HingeRank.Planes.Arrays

/-!
# The cutting-plane optimizer

Settings, events, states, steps and runs of the optimizer.
-/

namespace HingeRank

/-!
## Configuration of the optimizer

All fields have the types that the optimizer works with.  Settings as users give
them are checked and turned into this form elsewhere.
-/

/-- What cannot be computed from settings as they were given, because a setting is no
number, or because whole numbers beyond the largest double meet other doubles.  Each
part is met at its own point of a run. -/
structure Obstacles where
  /-- A risk cannot be weighed by the tradeoff. -/
  objective : Option Fault
  /-- It cannot be decided whom to tell about progress. -/
  progress : Option Fault
  /-- A gap cannot be compared with the accepted one. -/
  acceptance : Option Fault
  /-- A subproblem cannot be solved. -/
  subproblem : Option Fault
  /-- The accepted gap cannot be shown. -/
  warning : Option Fault

/-- Everything can be computed. -/
def Obstacles.none : Obstacles := ⟨.none, .none, .none, .none, .none⟩

/-- What governs a run of the optimizer. -/
structure OptimizerConfig (K : Type) where
  /-- A run ends once the objective is closer to its bound than this, in units of
  the tradeoff. -/
  epsilon : K
  maxIterations : Nat
  /-- Weights must not be negative. -/
  nonnegative : Bool
  /-- The accuracy of subproblems, as a fraction of `epsilon`. -/
  qpEpsilon : K
  /-- The number of moves in one subproblem that is not exceeded. -/
  qpMaxIterations : Nat
  /-- Planes not used by this many consecutive solutions are dropped. -/
  inactivePlaneThreshold : Nat
  /-- The time after which no further step is begun. -/
  maxSeconds : Option K
  /-- Progress is told to everyone and not only to those who look for it. -/
  verbose : Bool
  obstacles : Obstacles := .none

namespace OptimizerConfig

variable {K : Type} [Scalar K]

/-- The distance from the bound below which a run has converged. -/
def acceptedGap (config : OptimizerConfig K) (tradeoff : K) : K := tradeoff * config.epsilon

/-- The distance from the optimum that is accepted in subproblems. -/
def subproblemTolerance (config : OptimizerConfig K) (tradeoff : K) : K :=
  config.qpEpsilon * config.epsilon * tradeoff

end OptimizerConfig

/-!
## Events worth telling

What happens during training is recorded as events.  Whether and how an event is
told is decided where events are reported.
-/

/-- Why a run ended. -/
inductive StopReason where
  | converged
  | maxIterations
  | timeLimit
  deriving DecidableEq, Repr

namespace StopReason

def text : StopReason → String
  | converged => "converged"
  | maxIterations => "max_iterations"
  | timeLimit => "time_limit"

end StopReason

/-- How urgent an event is. -/
inductive Urgency where
  | detail
  | progress
  | concern
  deriving DecidableEq, Repr

/-- Something that happened in a run of the optimizer.  The best objective is absent
while no finite one is known. -/
inductive OptimizerEvent (K : Type) where
  | evaluated (iteration : Nat) (objective risk : K) (best : Option K) (bound : K)
      (planes : Nat) (verbose : Bool)
  | trimmed (removed remaining : Nat)
  /-- A run ended with a gap that is not accepted. -/
  | stopped (iterations : Nat) (reason : StopReason) (best : Option K) (bound accepted : K)

namespace OptimizerEvent

variable {K : Type}

def urgency : OptimizerEvent K → Urgency
  | evaluated _ _ _ _ _ _ verbose => if verbose then .progress else .detail
  | trimmed .. => .detail
  | stopped .. => .concern

end OptimizerEvent

/-!
## States of the optimizer

A state holds the next weights to evaluate, the best evaluation so far, and a
lower bound on the objective.  The planes and the oracle's own state belong to no
single state: all states of a run share them through its workspace.
-/

section

open Scalar

/-- Weights that have been evaluated, with the objective and the risk there. -/
structure Evaluated (K : Type) where
  weights : List K
  objective : K
  risk : K

/-- Where a run of the optimizer stands. -/
structure OptimizerState (K : Type) where
  /-- The weights to evaluate next. -/
  weights : List K
  iteration : Nat
  /-- No weights have a smaller objective. -/
  lowerBound : K
  /-- The first evaluation with the least objective; absent until an objective
  lies below infinity. -/
  best : Option (Evaluated K)
  /-- The latest evaluation. -/
  last : Option (Evaluated K)
  stopReason : Option StopReason

namespace OptimizerState

variable {K : Type} [Scalar K]

/-- The state before any evaluation. -/
def initial (dimension : Nat) : OptimizerState K where
  weights := Linear.zeros dimension
  iteration := 0
  lowerBound := 0
  best := none
  last := none
  stopReason := none

/-- The best objective exceeds its bound by this much. -/
def gap (state : OptimizerState K) : Option K :=
  state.best.map (·.objective - state.lowerBound)

def converged (state : OptimizerState K) : Bool := state.stopReason == some .converged

/-- The better of what was known and a new evaluation; only a smaller objective
replaces what was known. -/
def improve (best : Option (Evaluated K)) (new : Evaluated K) : Option (Evaluated K) :=
  match best with
  | some known => if new.objective < known.objective then some new else some known
  | none => if belowInfinity new.objective then some new else none

end OptimizerState

/-- What the states of one run share. -/
structure Workspace (K σ : Type) where
  arena : PlaneArena K
  oracleState : σ

end

/-!
## One step of the optimizer

A step evaluates the oracle at the current weights.  If the best objective so far
is close enough to the lower bound, the run has converged.  Otherwise the plane
that supports the risk at these weights joins the arena, and the model of all
planes is solved anew for the next weights and a new lower bound.

A step may fail in the oracle, when the plane is added, or in the subproblem.
What it did to the workspace up to then stays.
-/

section

open Scalar

variable {K σ : Type} [Scalar K]

/-- The outcome of a step, the workspace after it, and what happened. -/
structure StepResult (K σ : Type) where
  outcome : Except Error (OptimizerState K)
  workspace : Workspace K σ
  events : List (OptimizerEvent K)

/-- The offset of the plane with the given slope that has the value `risk` at the
weights. -/
def planeOffset? (risk : K) (subgradient : Tensor K) (weights : List K) : Except Fault K := do
  return risk - (← subgradient.inner? (.vector weights))

namespace OptimizerState

/-- The state after an evaluation, before anything follows from it. -/
def record (state : OptimizerState K) (evaluated : Evaluated K) : OptimizerState K :=
  { state with
    iteration := state.iteration + 1
    best := improve state.best evaluated
    last := some evaluated }

/-- The gap lies below the accepted one. -/
def isAccepted (state : OptimizerState K) (accepted : K) : Bool :=
  state.gap.any fun gap => gap < accepted

end OptimizerState

/-- Extend the arena by the plane that supports the risk at the weights. -/
def PlaneArena.support? (arena : PlaneArena K) (answer : LossAnswer K) (weights : List K) :
    Except Error (PlaneArena K) := do
  let offset ← (planeOffset? answer.risk answer.subgradient weights).mapError .fault
  return (← arena.add? answer.subgradient offset).2

/-- The model of the planes in an arena. -/
def PlaneArena.model (arena : PlaneArena K) (tradeoff : K) : PlaneModel K :=
  ⟨arena.dimension, arena.gradients, arena.offsets, tradeoff⟩

namespace OptimizerConfig

/-- Solve the model of an arena, starting from the latest multipliers. -/
def solveModel? (config : OptimizerConfig K) (tradeoff : K) (arena : PlaneArena K) :
    Except Error (ModelSolution K) := do
  if let some fault := config.obstacles.subproblem then throw (.fault fault)
  (arena.model tradeoff).solve? arena.gram
    { nonnegative := config.nonnegative
      initialDual := some arena.dual
      tolerance := config.subproblemTolerance tradeoff
      cap := config.qpMaxIterations }

/-- Make one step from a state. -/
def step (config : OptimizerConfig K) (oracle : LossOracle K σ) (tradeoff : K)
    (state : OptimizerState K) (workspace : Workspace K σ) : StepResult K σ :=
  let (answer, oracleState) := oracle.evaluate state.weights workspace.oracleState
  let workspace := { workspace with oracleState }
  match answer, config.obstacles.objective <|> config.obstacles.progress with
  | .error problem, _ => ⟨.error problem, workspace, []⟩
  | .ok _, some fault => ⟨.error (.fault fault), workspace, []⟩
  | .ok answer, none =>
      let objective := Linear.halfNorm state.weights + tradeoff * answer.risk
      let evaluated := state.record ⟨state.weights, objective, answer.risk⟩
      let report := .evaluated evaluated.iteration objective answer.risk
        (evaluated.best.map (·.objective)) evaluated.lowerBound workspace.arena.size config.verbose
      if let some fault := config.obstacles.acceptance then
        ⟨.error (.fault fault), workspace, [report]⟩
      else if evaluated.isAccepted (config.acceptedGap tradeoff) then
        ⟨.ok { evaluated with stopReason := some .converged }, workspace, [report]⟩
      else
        match workspace.arena.support? answer state.weights with
        | .error problem => ⟨.error problem, workspace, [report]⟩
        | .ok arena =>
            match config.solveModel? tradeoff arena with
            | .error problem => ⟨.error problem, { workspace with arena }, [report]⟩
            | .ok solution =>
                let (removed, arena) :=
                  (arena.recordDual solution.dual).trim config.inactivePlaneThreshold
                let trimming := if removed = 0 then [] else [.trimmed removed arena.size]
                ⟨.ok { evaluated with
                    weights := solution.weights
                    lowerBound := greater state.lowerBound solution.dualValue },
                  { workspace with arena }, report :: trimming⟩

end OptimizerConfig

/-!
## Runs of the optimizer

A run makes steps until one has converged, until the number of iterations is
used up, or until its time is over.  Time is read from a clock, a function from
the number of readings made so far to the time read; it is read when the run
begins, before every step if time is limited, and at the end.
-/

/-- What a run arrived at. -/
structure OptimizationResult (K : Type) where
  /-- The best weights, or the initial ones if no finite objective was found. -/
  weights : List K
  /-- The best evaluation, if there is one. -/
  best : Option (Evaluated K)
  lowerBound : K
  iterations : Nat
  stopReason : StopReason
  planeCount : Nat
  elapsed : K
  /-- Objective and lower bound after every step. -/
  history : List (K × K)

namespace OptimizationResult

def converged (result : OptimizationResult K) : Bool := result.stopReason == .converged

/-- The objective exceeds its bound by this much. -/
def gap (result : OptimizationResult K) : Option K :=
  result.best.map (·.objective - result.lowerBound)

end OptimizationResult

/-- A run in progress. -/
structure Run (K σ : Type) where
  state : OptimizerState K
  workspace : Workspace K σ
  /-- Readings of the clock so far. -/
  readings : Nat
  history : List (K × K)
  events : List (OptimizerEvent K)

/-- The end of a run: its result, or what stopped it, with all that it left behind. -/
structure RunOutcome (K σ : Type) where
  result : Except Error (OptimizationResult K)
  workspace : Workspace K σ
  readings : Nat
  events : List (OptimizerEvent K)

namespace Run

/-- A run before its first step. -/
def initial (dimension : Nat) (oracleState : σ) (readings : Nat) : Run K σ where
  state := .initial dimension
  workspace := ⟨.initial dimension PlaneArena.defaultCapacity, oracleState⟩
  readings := readings
  history := []
  events := []

/-- Objective and lower bound after a step. -/
def historyEntry (state : OptimizerState K) : List (K × K) :=
  state.last.toList.map fun last => (last.objective, state.lowerBound)

end Run

namespace OptimizerConfig

/-- Should no further step be made from this state? -/
def shouldStop (config : OptimizerConfig K) (state : OptimizerState K) : Bool :=
  state.converged || config.maxIterations ≤ state.iteration

/-- The time is over at this reading of the clock. -/
def isOverdue (config : OptimizerConfig K) (clock : Nat → K) (started : K) (readings : Nat) :
    Bool :=
  config.maxSeconds.any fun limit => limit ≤ clock readings - started

/-- Make steps until the run ends, at most `fuel` of them. -/
def iterate (config : OptimizerConfig K) (oracle : LossOracle K σ) (tradeoff : K)
    (clock : Nat → K) (started : K) : (fuel : Nat) → Run K σ → Option Error × Run K σ
  | 0, run => (none, run)
  | fuel + 1, run =>
      if config.shouldStop run.state then (none, run)
      else
        let overdue := config.isOverdue clock started run.readings
        let run :=
          if config.maxSeconds.isSome then { run with readings := run.readings + 1 } else run
        if overdue then
          (none, { run with state := { run.state with stopReason := some .timeLimit } })
        else
          let result := config.step oracle tradeoff run.state run.workspace
          let run := { run with
            workspace := result.workspace
            events := run.events ++ result.events }
          match result.outcome with
          | .error problem => (some problem, run)
          | .ok state =>
              iterate config oracle tradeoff clock started fuel
                { run with state, history := run.history ++ Run.historyEntry state }

/-- What keeps a run from being concluded: without convergence a warning may be due. -/
def closingFault (config : OptimizerConfig K) (state : OptimizerState K) : Option Fault :=
  if state.converged then none
  else config.obstacles.progress <|> if config.verbose then config.obstacles.warning else none

/-- Run the optimizer on a loss. -/
def optimize (config : OptimizerConfig K) (oracle : LossOracle K σ) (tradeoff : K)
    (clock : Nat → K) (readings : Nat) (oracleState : σ) : RunOutcome K σ :=
  let started := clock readings
  let (problem, run) := config.iterate oracle tradeoff clock started config.maxIterations
    (.initial oracle.dimension oracleState (readings + 1))
  match problem <|> (config.closingFault run.state).map .fault with
  | some problem => ⟨.error problem, run.workspace, run.readings, run.events⟩
  | none =>
      let stopReason := run.state.stopReason.getD .maxIterations
      let warning :=
        if config.verbose && stopReason != .converged then
          [.stopped run.state.iteration stopReason (run.state.best.map (·.objective))
            run.state.lowerBound (config.acceptedGap tradeoff)]
        else []
      { result := .ok {
          weights := run.state.best.elim run.state.weights (·.weights)
          best := run.state.best
          lowerBound := run.state.lowerBound
          iterations := run.state.iteration
          stopReason
          planeCount := run.workspace.arena.size
          elapsed := clock run.readings - started
          history := run.history }
        workspace := run.workspace
        readings := run.readings + 1
        events := run.events ++ warning }

end OptimizerConfig

end

end HingeRank
