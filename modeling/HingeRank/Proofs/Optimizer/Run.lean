import Mathlib
import HingeRank.Optimizer

/-!
# Runs

Runs as sequences of steps, and runs without a limit of time.
-/

namespace HingeRank

/-!
## Runs as repeated steps

A run makes steps from one state to the next, through states from which another step is
wanted.  What steps preserve therefore holds where the run ends.  A run without a time
limit ends only where no further step is wanted, and every state that it passes has made no
more steps than the last one.
-/

section

variable {σ : Type} {config : OptimizerConfig ℚ} {oracle : LossOracle ℚ σ} {tradeoff : ℚ}

namespace OptimizerConfig

/-- A state with the workspace that the next step works on. -/
abbrev Situation (σ : Type) : Type := OptimizerState ℚ × Workspace ℚ σ

/-- The situation in which a run begins. -/
def beginning (oracle : LossOracle ℚ σ) (oracleState : σ) : Situation σ :=
  (.initial oracle.dimension,
    ⟨.initial oracle.dimension PlaneArena.defaultCapacity, oracleState⟩)

/-- A step is wanted, and leads from the one situation to the other. -/
structure Advances (config : OptimizerConfig ℚ) (oracle : LossOracle ℚ σ) (tradeoff : ℚ)
    (before after : Situation σ) : Prop where
  wanted : config.shouldStop before.1 = false
  outcome : (config.step oracle tradeoff before.1 before.2).outcome = .ok after.1
  workspace : (config.step oracle tradeoff before.1 before.2).workspace = after.2

/-- The situation is reached by steps that a run makes. -/
def Visited (config : OptimizerConfig ℚ) (oracle : LossOracle ℚ σ) (tradeoff : ℚ)
    (oracleState : σ) : Situation σ → Prop :=
  Relation.ReflTransGen (config.Advances oracle tradeoff) (beginning oracle oracleState)

/-- The situation after a step; the state stays where the step fails. -/
def following (config : OptimizerConfig ℚ) (oracle : LossOracle ℚ σ) (tradeoff : ℚ)
    (situation : Situation σ) : Situation σ :=
  let result := config.step oracle tradeoff situation.1 situation.2
  (result.outcome.toOption.getD situation.1, result.workspace)

theorem Advances.eq_following {before after : Situation σ}
    (advances : config.Advances oracle tradeoff before after) :
    after = config.following oracle tradeoff before := by
  refine Prod.ext ?_ advances.workspace.symm
  rw [following, advances.outcome]
  rfl

/-- A situation is visited after some number of steps, all of which were wanted. -/
theorem Visited.exists_iterate {oracleState : σ} {reached : Situation σ}
    (visited : config.Visited oracle tradeoff oracleState reached) :
    ∃ steps, reached = (config.following oracle tradeoff)^[steps] (beginning oracle oracleState) ∧
      ∀ earlier < steps, config.shouldStop
        ((config.following oracle tradeoff)^[earlier] (beginning oracle oracleState)).1 =
          false := by
  induction visited with
  | refl => exact ⟨0, rfl, by simp⟩
  | tail path advances ih =>
      rcases ih with ⟨steps, rfl, wanted⟩
      refine ⟨steps + 1, ?_, ?_⟩
      · rw [Function.iterate_succ_apply', advances.eq_following]
      · intro earlier before
        rcases Nat.lt_succ_iff_lt_or_eq.mp before with less | rfl
        · exact wanted earlier less
        · exact advances.wanted

theorem shouldStop_eq_false {state : OptimizerState ℚ} :
    config.shouldStop state = false ↔
      state.converged = false ∧ state.iteration < config.maxIterations := by
  simp [shouldStop]

/-- A property of situations that wanted steps preserve; such steps succeed and are
counted. -/
structure Invariant (config : OptimizerConfig ℚ) (oracle : LossOracle ℚ σ) (tradeoff : ℚ)
    (property : OptimizerState ℚ → Workspace ℚ σ → Prop) : Prop where
  step : ∀ state workspace, property state workspace → config.shouldStop state = false →
    ∃ next, (config.step oracle tradeoff state workspace).outcome = .ok next ∧
      next.iteration = state.iteration + 1 ∧
      property next (config.step oracle tradeoff state workspace).workspace
  interrupt : config.maxSeconds ≠ none → ∀ state workspace, property state workspace →
    property { state with stopReason := some .timeLimit } workspace

variable {property : OptimizerState ℚ → Workspace ℚ σ → Prop} {clock : Nat → ℚ} {started : ℚ}

/-- The run after the clock has been read, if time is limited. -/
def readClock (config : OptimizerConfig ℚ) (run : Run ℚ σ) : Run ℚ σ :=
  if config.maxSeconds.isSome then { run with readings := run.readings + 1 } else run

theorem readClock_situation (config : OptimizerConfig ℚ) (run : Run ℚ σ) :
    (config.readClock run).state = run.state ∧
      (config.readClock run).workspace = run.workspace ∧
      (config.readClock run).history = run.history := by
  unfold readClock
  split <;> exact ⟨rfl, rfl, rfl⟩

/-- The run after a step. -/
def follow (config : OptimizerConfig ℚ) (oracle : LossOracle ℚ σ) (tradeoff : ℚ)
    (run : Run ℚ σ) (next : OptimizerState ℚ) : Run ℚ σ :=
  let result := config.step oracle tradeoff run.state run.workspace
  { config.readClock run with
    state := next
    workspace := result.workspace
    events := (config.readClock run).events ++ result.events
    history := (config.readClock run).history ++ Run.historyEntry next }

/-- A wanted step that succeeds is followed by the rest of the run, unless time is over. -/
theorem iterate_wanted {run : Run ℚ σ} {next : OptimizerState ℚ} (fuel : Nat)
    (wanted : config.shouldStop run.state = false)
    (outcome : (config.step oracle tradeoff run.state run.workspace).outcome = .ok next) :
    config.iterate oracle tradeoff clock started (fuel + 1) run =
      if config.isOverdue clock started run.readings then
        (none, { config.readClock run with
          state := { run.state with stopReason := some .timeLimit } })
      else
        config.iterate oracle tradeoff clock started fuel
          (config.follow oracle tradeoff run next) := by
  have going : ¬ config.shouldStop run.state = true := Bool.eq_false_iff.mp wanted
  rw [iterate, if_neg going]
  unfold follow readClock
  cases config.maxSeconds.isSome with
  | true => simp only [if_true, outcome]
  | false => simp only [Bool.false_eq_true, if_false, outcome]

/-- A property of situations and of the history that has led to them, which wanted steps
preserve. -/
def HistoryInvariant (config : OptimizerConfig ℚ) (oracle : LossOracle ℚ σ) (tradeoff : ℚ)
    (property : OptimizerState ℚ → Workspace ℚ σ → List (ℚ × ℚ) → Prop) : Prop :=
  ∀ state workspace history, property state workspace history →
    config.shouldStop state = false →
    ∃ next, (config.step oracle tradeoff state workspace).outcome = .ok next ∧
      next.iteration = state.iteration + 1 ∧
      property next (config.step oracle tradeoff state workspace).workspace
        (history ++ Run.historyEntry next)

/-- The state in which a run ends after its last step. -/
inductive Concludes (config : OptimizerConfig ℚ) (last : OptimizerState ℚ) :
    OptimizerState ℚ → Prop
  /-- No further step is wanted. -/
  | stop (stops : config.shouldStop last = true) : Concludes config last last
  /-- Another step is wanted, but time is over. -/
  | interrupt (limited : config.maxSeconds ≠ none) (wanted : config.shouldStop last = false) :
      Concludes config last { last with stopReason := some .timeLimit }

/-- What steps preserve holds after the last one. -/
theorem iterate_concludes {property : OptimizerState ℚ → Workspace ℚ σ → List (ℚ × ℚ) → Prop}
    (invariant : config.HistoryInvariant oracle tradeoff property) {fuel : Nat} {run : Run ℚ σ}
    (enough : config.maxIterations ≤ run.state.iteration + fuel)
    (begins : property run.state run.workspace run.history) :
    ∃ last final, config.iterate oracle tradeoff clock started fuel run = (none, final) ∧
      property last final.workspace final.history ∧
      run.state.iteration ≤ last.iteration ∧ config.Concludes last final.state := by
  induction fuel generalizing run with
  | zero =>
      refine ⟨run.state, run, rfl, begins, le_rfl, .stop ?_⟩
      simp only [shouldStop, Bool.or_eq_true, decide_eq_true_eq]
      exact .inr enough
  | succ fuel ih =>
      cases wanted : config.shouldStop run.state with
      | true =>
          refine ⟨run.state, run, ?_, begins, le_rfl, .stop wanted⟩
          rw [iterate, if_pos wanted]
      | false =>
          obtain ⟨next, outcome, counted, holds⟩ :=
            invariant run.state run.workspace run.history begins wanted
          rw [iterate_wanted fuel wanted outcome]
          have clockOnly := config.readClock_situation run
          cases overdue : config.isOverdue clock started run.readings with
          | true =>
              have limited : config.maxSeconds ≠ none := by
                intro unlimited
                simp [isOverdue, unlimited] at overdue
              refine ⟨run.state, _, rfl, ?_, le_rfl, .interrupt limited wanted⟩
              rw [clockOnly.2.1, clockOnly.2.2]
              exact begins
          | false =>
              have more : config.maxIterations ≤ next.iteration + fuel := by omega
              rw [← clockOnly.2.2] at holds
              obtain ⟨last, final, ends, lastHolds, later, concludes⟩ :=
                @ih (config.follow oracle tradeoff run next) more holds
              refine ⟨last, final, ends, lastHolds, ?_, concludes⟩
              change next.iteration ≤ _ at later
              omega

/-- What steps preserve holds where they end.  There no further step is wanted, unless time
was limited. -/
theorem iterate_ends (invariant : config.Invariant oracle tradeoff property) {fuel : Nat}
    {run : Run ℚ σ} (enough : config.maxIterations ≤ run.state.iteration + fuel)
    (begins : property run.state run.workspace) :
    ∃ final, config.iterate oracle tradeoff clock started fuel run = (none, final) ∧
      property final.state final.workspace ∧ run.state.iteration ≤ final.state.iteration ∧
      (config.maxSeconds = none → config.shouldStop final.state = true) := by
  have preserved : config.HistoryInvariant oracle tradeoff fun state workspace _ =>
      property state workspace := fun state workspace _ => invariant.step state workspace
  obtain ⟨last, ⟨state, workspace, readings, history, events⟩, ends, holds, later, concludes⟩ :=
    @iterate_concludes σ config oracle tradeoff clock started _ preserved fuel run enough begins
  refine ⟨_, ends, ?_⟩
  cases concludes with
  | stop stops => exact ⟨holds, later, fun _ => stops⟩
  | interrupt limited wanted =>
      exact ⟨invariant.interrupt limited last workspace holds, later,
        fun unlimited => absurd unlimited limited⟩

/-- A run without a time limit passes no situation that has more steps behind it than the
last one. -/
theorem iteration_le_of_advances (invariant : config.Invariant oracle tradeoff property)
    (unlimited : config.maxSeconds = none) {before after : Situation σ}
    (path : Relation.ReflTransGen (config.Advances oracle tradeoff) before after) {fuel : Nat}
    {run final : Run ℚ σ} (here : (run.state, run.workspace) = before)
    (enough : config.maxIterations ≤ run.state.iteration + fuel)
    (begins : property run.state run.workspace)
    (ends : config.iterate oracle tradeoff clock started fuel run = (none, final)) :
    after.1.iteration ≤ final.state.iteration := by
  induction path using Relation.ReflTransGen.head_induction_on generalizing fuel run with
  | refl =>
      obtain ⟨other, otherEnds, -, later, -⟩ := iterate_ends invariant enough begins
      rw [ends] at otherEnds
      cases otherEnds
      rw [← here]
      exact later
  | @head source target advances path ih =>
      subst here
      obtain ⟨next, outcome, counted, holds⟩ :=
        invariant.step run.state run.workspace begins advances.wanted
      have same : next = target.1 := Except.ok.inj (outcome.symm.trans advances.outcome)
      cases fuel with
      | zero =>
          have wanted := (shouldStop_eq_false.mp advances.wanted).2
          change run.state.iteration < config.maxIterations at wanted
          omega
      | succ fuel =>
          rw [iterate_wanted fuel advances.wanted outcome] at ends
          have inTime : config.isOverdue clock started run.readings = false := by
            simp [isOverdue, unlimited]
          rw [inTime] at ends
          have more : config.maxIterations ≤ next.iteration + fuel := by omega
          refine @ih fuel (config.follow oracle tradeoff run next) ?_ more holds ends
          exact Prod.ext same advances.workspace

theorem Visited.holds (invariant : config.Invariant oracle tradeoff property) {oracleState : σ}
    {reached : Situation σ} (visited : config.Visited oracle tradeoff oracleState reached)
    (begins : property (beginning oracle oracleState).1 (beginning oracle oracleState).2) :
    property reached.1 reached.2 := by
  induction visited with
  | refl => exact begins
  | tail path advances ih =>
      obtain ⟨next, outcome, -, holds⟩ := invariant.step _ _ ih advances.wanted
      have same := Except.ok.inj (outcome.symm.trans advances.outcome)
      rw [← same, ← advances.workspace]
      exact holds

end OptimizerConfig

/-- The result says what the last state knows. -/
structure OptimizationResult.Reports (result : OptimizationResult ℚ) (state : OptimizerState ℚ) :
    Prop where
  weights_eq : result.weights = state.best.elim state.weights (·.weights)
  best_eq : result.best = state.best
  lowerBound_eq : result.lowerBound = state.lowerBound
  iterations_eq : result.iterations = state.iteration
  stopReason_eq : result.stopReason = state.stopReason.getD .maxIterations

theorem OptimizationResult.Reports.converged_eq {result : OptimizationResult ℚ}
    {state : OptimizerState ℚ} (reports : result.Reports state) :
    result.converged = state.converged := by
  rw [OptimizationResult.converged, OptimizerState.converged, reports.stopReason_eq]
  cases state.stopReason with
  | none => rfl
  | some reason => rfl

namespace OptimizerConfig

variable {property : OptimizerState ℚ → Workspace ℚ σ → Prop}

/-- Nothing keeps a run from being concluded if everything can be computed. -/
theorem closingFault_eq_none (config : OptimizerConfig ℚ) (computable : config.obstacles = .none)
    (state : OptimizerState ℚ) : config.closingFault state = none := by
  unfold closingFault
  rw [computable]
  split
  · rfl
  · split <;> rfl

/-- A run whose steps succeed has a result, which reports the state in which it ends. -/
theorem optimize_of_iterate (computable : config.obstacles = .none) {clock : Nat → ℚ}
    {readings : Nat} {oracleState : σ} {final : Run ℚ σ}
    (ends : config.iterate oracle tradeoff clock (clock readings) config.maxIterations
      (.initial oracle.dimension oracleState (readings + 1)) = (none, final)) :
    let outcome := config.optimize oracle tradeoff clock readings oracleState
    ∃ result, outcome.result = .ok result ∧ outcome.workspace = final.workspace ∧
      result.Reports final.state ∧ result.planeCount = final.workspace.arena.size ∧
      result.history = final.history := by
  have closes := config.closingFault_eq_none computable final.state
  simp only [optimize, ends, closes]
  exact ⟨_, rfl, rfl, ⟨rfl, rfl, rfl, rfl, rfl⟩, rfl, rfl⟩

/-- What steps preserve, along with the history, is true of the last of them when a run has its
result. -/
theorem optimize_concludes {property : OptimizerState ℚ → Workspace ℚ σ → List (ℚ × ℚ) → Prop}
    (invariant : config.HistoryInvariant oracle tradeoff property)
    (computable : config.obstacles = .none) (clock : Nat → ℚ) (readings : Nat) (oracleState : σ)
    (begins : property (beginning oracle oracleState).1 (beginning oracle oracleState).2 []) :
    let outcome := config.optimize oracle tradeoff clock readings oracleState
    ∃ result last final, outcome.result = .ok result ∧
      property last outcome.workspace result.history ∧ config.Concludes last final ∧
      result.Reports final ∧ result.planeCount = outcome.workspace.arena.size := by
  intro outcome
  let first : Run ℚ σ := .initial oracle.dimension oracleState (readings + 1)
  obtain ⟨last, final, ends, holds, -, concludes⟩ :=
    @iterate_concludes σ config oracle tradeoff clock (clock readings) property invariant
      config.maxIterations first (Nat.le_add_left _ _) begins
  obtain ⟨result, reported, workspace_eq, reports, count_eq, history_eq⟩ :=
    optimize_of_iterate computable ends
  rw [← workspace_eq, ← history_eq] at holds
  rw [← workspace_eq] at count_eq
  exact ⟨result, last, final.state, reported, holds, concludes, reports, count_eq⟩

/-- A run that can be computed has a result, which reports a state with every property that
steps preserve. -/
theorem optimize_reports (invariant : config.Invariant oracle tradeoff property)
    (computable : config.obstacles = .none) (clock : Nat → ℚ) (readings : Nat) (oracleState : σ)
    (begins : property (beginning oracle oracleState).1 (beginning oracle oracleState).2) :
    ∃ result state workspace,
      (config.optimize oracle tradeoff clock readings oracleState).result = .ok result ∧
      result.Reports state ∧ property state workspace ∧
      (config.maxSeconds = none → config.shouldStop state = true ∧
        ∀ reached, config.Visited oracle tradeoff oracleState reached →
          reached.1.iteration ≤ result.iterations) := by
  let first : Run ℚ σ := .initial oracle.dimension oracleState (readings + 1)
  have enough : config.maxIterations ≤ first.state.iteration + config.maxIterations :=
    Nat.le_add_left _ _
  obtain ⟨final, ends, holds, -, stops⟩ :=
    @iterate_ends σ config oracle tradeoff property clock (clock readings) invariant
      config.maxIterations first enough begins
  obtain ⟨result, reported, -, reports, -⟩ := optimize_of_iterate computable ends
  refine ⟨result, final.state, final.workspace, reported, reports, holds, ?_⟩
  intro unlimited
  refine ⟨stops unlimited, ?_⟩
  intro reached visited
  rw [reports.iterations_eq]
  exact iteration_le_of_advances invariant unlimited visited rfl enough begins ends

end OptimizerConfig

end

/-!
## Runs without a time limit

A run whose time is not limited reads the clock when it begins and when it ends.  Another
clock, or one that has been read more often, therefore changes nothing but the time that the
run reports.
-/

namespace OptimizerConfig

variable {σ : Type} {config : OptimizerConfig ℚ} {oracle : LossOracle ℚ σ} {tradeoff : ℚ}

/-- Steps without a time limit do not depend on the clock and pass its readings on. -/
theorem iterate_untimed (untimed : config.maxSeconds = none) (clock otherClock : Nat → ℚ)
    (started otherStarted : ℚ) (fuel : Nat) (run : Run ℚ σ) (readings : Nat) :
    let ended := config.iterate oracle tradeoff clock started fuel run
    config.iterate oracle tradeoff otherClock otherStarted fuel { run with readings } =
      (ended.1, { ended.2 with readings }) := by
  induction fuel generalizing run with
  | zero => rfl
  | succ fuel ih =>
      simp only [iterate]
      cases config.shouldStop run.state with
      | true => rfl
      | false =>
          simp only [isOverdue, untimed, Option.any_none, Option.isSome_none, Bool.false_eq_true,
            if_false]
          let result := config.step oracle tradeoff run.state run.workspace
          cases result.outcome with
          | error problem => rfl
          | ok next =>
              exact ih { run with
                state := next
                workspace := result.workspace
                events := run.events ++ result.events
                history := run.history ++ Run.historyEntry next }

/-- A run without a time limit reports the same by any clock, apart from the time. -/
theorem optimize_untimed (untimed : config.maxSeconds = none) {clock : Nat → ℚ}
    {readings : Nat} {oracleState : σ} {report : OptimizationResult ℚ}
    (outcome : (config.optimize oracle tradeoff clock readings oracleState).result = .ok report)
    (otherClock : Nat → ℚ) (otherReadings : Nat) :
    ∃ elapsed, (config.optimize oracle tradeoff otherClock otherReadings oracleState).result =
      .ok { report with elapsed } := by
  let first : Run ℚ σ := .initial oracle.dimension oracleState (readings + 1)
  let otherFirst : Run ℚ σ := .initial oracle.dimension oracleState (otherReadings + 1)
  obtain ⟨ended, ends⟩ : ∃ ended, config.iterate oracle tradeoff clock (clock readings)
    config.maxIterations first = ended := ⟨_, rfl⟩
  have otherEnds : config.iterate oracle tradeoff otherClock (otherClock otherReadings)
      config.maxIterations otherFirst =
        (ended.1, { ended.2 with readings := otherReadings + 1 }) := by
    rw [← ends]
    exact iterate_untimed untimed clock otherClock (clock readings) (otherClock otherReadings)
      config.maxIterations first (otherReadings + 1)
  simp only [optimize] at outcome ⊢
  rw [ends] at outcome
  rw [otherEnds]
  cases closes : ended.1 <|> (config.closingFault ended.2.state).map Error.fault with
  | some problem =>
      simp only [closes] at outcome
      cases outcome
  | none =>
      simp only [closes] at outcome ⊢
      cases outcome
      exact ⟨_, rfl⟩

end OptimizerConfig

end HingeRank
