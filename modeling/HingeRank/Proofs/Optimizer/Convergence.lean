import Mathlib
import HingeRank.Proofs.Optimizer.Certificate
import HingeRank.Proofs.Optimizer.Run

/-!
# Convergence with finitely many planes

Where a subproblem has been solved up to its tolerance, no plane in the arena exceeds the
lower bound by more than that at the next weights.  The tolerance is smaller than the
accepted gap.  So if the plane that touches the risk at these weights is in the arena
already, the objective is close to the bound and the step converges; a step that does not
converge adds a new plane.

As long as no plane is dropped, a run therefore makes no more steps than there are planes
with which the oracle can answer.
-/

namespace HingeRank

open Linear

variable {risk : List ℚ → ℚ} {tradeoff : ℚ}

namespace PlaneLedger

variable {ledger : PlaneLedger}

/-- Slopes and offsets without what is known of their use. -/
def planes (ledger : PlaneLedger) : List (List ℚ × ℚ) :=
  ledger.records.map fun record => (record.gradient, record.offset)

theorem Matches.planes_eq {arena : PlaneArena ℚ} (holds : ledger.Matches arena) :
    arena.gradients.zip arena.offsets = ledger.planes := by
  rw [holds.represents.gradients_eq, holds.represents.offsets_eq, List.zip_map']
  rfl

@[simp] theorem planes_append (ledger : PlaneLedger) (gradient : List ℚ) (offset : ℚ) :
    (ledger.append gradient offset).planes = ledger.planes ++ [(gradient, offset)] := by
  simp [planes, append]

theorem planes_use {multipliers : List ℚ} (equal : multipliers.length = ledger.records.length) :
    (ledger.use multipliers).planes = ledger.planes :=
  PlaneRecord.map_plane_use equal (fun record => (record.gradient, record.offset))
    fun _ _ => rfl

theorem planes_trim_sublist (ledger : PlaneLedger) (threshold : Nat) :
    (ledger.trim threshold).planes.Sublist ledger.planes :=
  (PlaneArena.keep_sublist threshold ledger.records).map _

/-- A step that adds a plane brings in no other one. -/
theorem planes_descend_subset {multipliers gradient : List ℚ} {offset : ℚ}
    (equal : multipliers.length = (ledger.append gradient offset).records.length)
    (threshold : Nat) :
    (((ledger.append gradient offset).use multipliers).trim threshold).planes ⊆
      ledger.planes ++ [(gradient, offset)] := by
  rw [← planes_append, ← planes_use equal]
  exact (planes_trim_sublist _ threshold).subset

theorem Aligned.of_planes (aligned : ledger.Aligned) {records : List (PlaneRecord ℚ)}
    (fewer : ({ ledger with records } : PlaneLedger).planes ⊆ ledger.planes) :
    ({ ledger with records } : PlaneLedger).Aligned := by
  intro record member
  obtain ⟨source, sourceMem, same⟩ := List.mem_map.mp (fewer (List.mem_map_of_mem member))
  rw [← (Prod.mk.inj same).1]
  exact aligned source sourceMem

/-- Planes that have been used recently enough all stay. -/
theorem trim_eq_self {threshold : Nat} (recent : ∀ record ∈ ledger.records,
    record.idle < threshold) : ledger.trim threshold = ledger := by
  have kept : PlaneRecord.keep threshold ledger.records = ledger.records := by
    cases records : ledger.records with
    | nil => rfl
    | cons first rest =>
        rw [PlaneRecord.keep, List.filter_eq_self.mpr]
        intro record member
        rw [records] at recent
        exact decide_eq_true (recent record (List.mem_cons_of_mem _ member))
  rw [trim, kept]

/-- No plane has been left unused for more than this many solutions. -/
def IdleAtMost (ledger : PlaneLedger) (count : Nat) : Prop :=
  ∀ record ∈ ledger.records, record.idle ≤ count

theorem IdleAtMost.append {count : Nat} (idle : ledger.IdleAtMost count) (gradient : List ℚ)
    (offset : ℚ) : (ledger.append gradient offset).IdleAtMost count := by
  intro record member
  rcases List.mem_append.mp member with old | new
  · exact idle record old
  · rw [List.mem_singleton.mp new]
    exact Nat.zero_le count

theorem IdleAtMost.use {count : Nat} (idle : ledger.IdleAtMost count) (multipliers : List ℚ) :
    (ledger.use multipliers).IdleAtMost (count + 1) := by
  intro record member
  obtain ⟨position, bounds, rfl⟩ := List.mem_iff_getElem.mp member
  simp only [PlaneLedger.use] at bounds ⊢
  rw [List.getElem_zipWith]
  unfold PlaneRecord.use
  dsimp only
  split
  · exact Nat.zero_le _
  · exact Nat.succ_le_succ (idle _ (List.getElem_mem _))

theorem IdleAtMost.trim {count : Nat} (idle : ledger.IdleAtMost count) (threshold : Nat) :
    (ledger.trim threshold).IdleAtMost count := by
  intro record member
  exact idle record ((PlaneArena.keep_sublist threshold ledger.records).subset member)

/-- Where no plane is old enough to be dropped, a step adds one to all that there are. -/
theorem planes_descend {count threshold : Nat} (idle : ledger.IdleAtMost count)
    (recent : count + 1 < threshold) {multipliers gradient : List ℚ} {offset : ℚ}
    (equal : multipliers.length = (ledger.append gradient offset).records.length) :
    (((ledger.append gradient offset).use multipliers).trim threshold).planes =
      ledger.planes ++ [(gradient, offset)] := by
  have used := (idle.append gradient offset).use multipliers
  rw [trim_eq_self fun record member => (used record member).trans_lt recent, planes_use equal,
    planes_append]

/-- At the weights no plane exceeds the bound by more than the tolerance. -/
def Near (ledger : PlaneLedger) (tradeoff tolerance : ℚ) (weights : List ℚ) (bound : ℚ) : Prop :=
  ∀ plane ∈ ledger.planes,
    halfNorm weights + tradeoff * (dot plane.1 weights + plane.2) ≤ bound + tolerance

/-- With fewer planes and a higher bound the weights remain near. -/
theorem Near.mono {after : PlaneLedger} {tolerance bound higher : ℚ} {weights : List ℚ}
    (near : ledger.Near tradeoff tolerance weights bound) (fewer : after.planes ⊆ ledger.planes)
    (le : bound ≤ higher) : after.Near tradeoff tolerance weights higher := by
  intro plane member
  exact (near plane (fewer member)).trans (add_le_add_left le _)

/-- The first weights are near the zero plane. -/
theorem initial_near {tolerance : ℚ} (nonneg : 0 ≤ tolerance) (dimension : Nat) (tradeoff : ℚ) :
    (initial dimension).Near tradeoff tolerance (zeros dimension) 0 := by
  intro plane member
  rw [List.mem_singleton.mp member]
  simpa [PlaneRecord.zeroPlane, halfNorm_eq] using nonneg

/-- A settled solution comes near the planes of its model. -/
theorem near_of_solved (aligned : ledger.Aligned) (nonempty : ledger.records ≠ [])
    (tradeoff_pos : 0 < tradeoff) {options : ModelOptions ℚ} {solution : ModelSolution ℚ}
    (solved : (ledger.model tradeoff).Solved options solution)
    (early : solution.iterations < options.cap) :
    ledger.Near tradeoff options.tolerance solution.weights solution.dualValue := by
  intro plane member
  have wellFormed := aligned.model_wellFormed nonempty tradeoff_pos
  have value : dot plane.1 solution.weights + plane.2 ∈
      (ledger.model tradeoff).planeValues solution.weights := by
    rw [planeValues_model]
    obtain ⟨record, recordMem, rfl⟩ := List.mem_map.mp member
    exact List.mem_map_of_mem recordMem
  have reached := PlaneModel.le_of_value? wellFormed solved.primalValue_eq value
  have settled := solved.settled early
  have found := solved.primalValue_eq
  rw [solved.weights_eq] at settled found
  have close := PlaneModel.value?_le_of_settled wellFormed solved.feasible settled found
  rw [← solved.weights_eq, ← solved.dualValue_eq] at close
  exact reached.trans close

end PlaneLedger

namespace OptimizerConfig

variable {σ : Type} {config : OptimizerConfig ℚ} {oracle : LossOracle ℚ σ}
  {allowed : List ℚ → List ℚ → Prop} {state next : OptimizerState ℚ}
  {ledger after : PlaneLedger} {planes : List (List ℚ × ℚ)}

/-- The tolerance of subproblems is smaller than the accepted gap. -/
theorem subproblemTolerance_lt (valid : config.Valid) (fine : config.qpEpsilon < 1)
    (tradeoff_pos : 0 < tradeoff) :
    config.subproblemTolerance tradeoff < config.acceptedGap tradeoff := by
  have positive : 0 < config.epsilon * tradeoff := mul_pos valid.epsilon_pos tradeoff_pos
  calc
    config.subproblemTolerance tradeoff = config.qpEpsilon * (config.epsilon * tradeoff) :=
      mul_assoc _ _ _
    _ < 1 * (config.epsilon * tradeoff) := mul_lt_mul_of_pos_right fine positive
    _ = config.acceptedGap tradeoff := by rw [one_mul, mul_comm]; rfl

/-- Where the gap is not accepted, the objective exceeds the bound by as much. -/
theorem add_accepted_le {accepted : ℚ}
    (rejected : (state.evaluated risk tradeoff).isAccepted accepted = false) :
    state.lowerBound + accepted ≤ regularized risk tradeoff state.weights := by
  obtain ⟨best, improved, -, atMost, -⟩ := OptimizerState.improve_least state.best
    ⟨state.weights, regularized risk tradeoff state.weights, risk state.weights⟩
  have far : accepted ≤ best.objective - state.lowerBound := by
    by_contra close
    have isAccepted : (state.evaluated risk tradeoff).isAccepted accepted = true :=
      OptimizerState.isAccepted_iff.mpr ⟨best, improved, not_le.mp close⟩
    rw [rejected] at isAccepted
    cases isAccepted
  exact (le_sub_iff_add_le'.mp far).trans atMost

/-- Where the gap is not accepted, the risk lies above all planes that are near the bound. -/
theorem add_gap_le_of_near {tolerance accepted : ℚ}
    (near : ledger.Near tradeoff tolerance state.weights state.lowerBound)
    (rejected : (state.evaluated risk tradeoff).isAccepted accepted = false)
    {plane : List ℚ × ℚ} (member : plane ∈ ledger.planes) :
    tradeoff * (dot plane.1 state.weights + plane.2) + (accepted - tolerance) ≤
      tradeoff * risk state.weights := by
  have bounded := near plane member
  have far := add_accepted_le rejected
  rw [regularized] at far
  linarith

/-- A step that does not converge meets a plane that is not there yet. -/
theorem touching_not_mem (close : config.subproblemTolerance tradeoff <
      config.acceptedGap tradeoff)
    (near : ledger.Near tradeoff (config.subproblemTolerance tradeoff) state.weights
      state.lowerBound)
    (rejected : (state.evaluated risk tradeoff).isAccepted (config.acceptedGap tradeoff) = false)
    (slope : List ℚ) :
    (slope, risk state.weights - dot slope state.weights) ∉ ledger.planes := by
  intro member
  have above := add_gap_le_of_near near rejected member
  rw [add_sub_cancel] at above
  linarith

/-- How far a run has come: after every step one more plane, as long as none is dropped. -/
structure Progress (config : OptimizerConfig ℚ) (tradeoff : ℚ) (planes : List (List ℚ × ℚ))
    (state : OptimizerState ℚ) (ledger : PlaneLedger) : Prop where
  weights_eq : state.weights.length = ledger.dimension
  aligned : ledger.Aligned
  near : ledger.Near tradeoff (config.subproblemTolerance tradeoff) state.weights state.lowerBound
  idle : ledger.IdleAtMost state.iteration
  known : ∀ plane ∈ ledger.planes, plane ∈ planes
  distinct : state.converged = false → state.iteration < config.inactivePlaneThreshold →
    ledger.planes.Nodup ∧ ledger.planes.length = state.iteration + 1
  bounded : state.converged = true → state.iteration < config.inactivePlaneThreshold →
    state.iteration ≤ planes.length

theorem initial_progress (valid : config.Valid) (tradeoff_pos : 0 < tradeoff) {dimension : Nat}
    (zero : (zeros dimension, 0) ∈ planes) :
    config.Progress tradeoff planes (.initial dimension) (.initial dimension) where
  weights_eq := length_zeros dimension
  aligned := PlaneLedger.initial_aligned dimension
  near := PlaneLedger.initial_near (valid.subproblemTolerance_pos tradeoff_pos).le _ _
  idle := by
    intro record member
    rw [List.mem_singleton.mp member]
    exact le_rfl
  known := by
    intro plane member
    rw [List.mem_singleton.mp member]
    exact zero
  distinct := fun _ _ => ⟨List.nodup_singleton _, rfl⟩
  bounded := by
    intro converged
    cases converged

/-- An accepted gap ends the run, with no more steps than planes. -/
theorem Progress.converge (progress : config.Progress tradeoff planes state ledger)
    (unfinished : state.converged = false) :
    config.Progress tradeoff planes
      { state.evaluated risk tradeoff with stopReason := some .converged } ledger where
  weights_eq := progress.weights_eq
  aligned := progress.aligned
  near := progress.near
  idle := by
    intro record member
    exact Nat.le_succ_of_le (progress.idle record member)
  known := progress.known
  distinct := by
    intro impossible
    cases impossible
  bounded := by
    intro _ below
    change state.iteration + 1 < _ at below
    obtain ⟨nodup, length⟩ := progress.distinct unfinished (Nat.lt_of_succ_lt below)
    change state.iteration + 1 ≤ _
    rw [← length]
    exact nodup.length_le_of_subset progress.known

/-- A solution up to the tolerance adds the plane of the answer, which is a new one. -/
theorem Progress.descend (progress : config.Progress tradeoff planes state ledger)
    (close : config.subproblemTolerance tradeoff < config.acceptedGap tradeoff)
    (tradeoff_pos : 0 < tradeoff) (unfinished : state.converged = false) {slope : List ℚ}
    {solution : ModelSolution ℚ}
    (rejected : (state.evaluated risk tradeoff).isAccepted (config.acceptedGap tradeoff) = false)
    (aligned : slope.length = ledger.dimension)
    (touches : (slope, risk state.weights - dot slope state.weights) ∈ planes)
    (solved : PlaneModel.Solved ((extended risk ledger state.weights slope).model tradeoff)
      (config.modelOptions tradeoff (extended risk ledger state.weights slope)) solution)
    (early : solution.iterations < config.qpMaxIterations) :
    config.Progress tradeoff planes
      { state.evaluated risk tradeoff with
        weights := solution.weights
        lowerBound := max state.lowerBound solution.dualValue }
      (((extended risk ledger state.weights slope).use solution.dual).trim
        config.inactivePlaneThreshold) := by
  have nonempty := ledger.append_records_ne_nil slope
    (risk state.weights - dot slope state.weights)
  have extendedAligned : (extended risk ledger state.weights slope).Aligned :=
    progress.aligned.append aligned _
  have dualLength := PlaneLedger.length_dual_of_solved solved
  have fewer := PlaneLedger.planes_descend_subset dualLength config.inactivePlaneThreshold
  have fewerExtended := fewer
  rw [← PlaneLedger.planes_append] at fewerExtended
  exact {
    weights_eq := PlaneLedger.length_weights_of_solved extendedAligned solved
    aligned := extendedAligned.of_planes fewerExtended
    near := (PlaneLedger.near_of_solved extendedAligned nonempty tradeoff_pos solved early).mono
      fewerExtended (le_max_right _ _)
    idle := ((progress.idle.append _ _).use _).trim _
    known := by
      intro plane member
      rcases List.mem_append.mp (fewer member) with old | new
      · exact progress.known plane old
      · rw [List.mem_singleton.mp new]
        exact touches
    distinct := by
      intro _ below
      change state.iteration + 1 < _ at below
      obtain ⟨nodup, length⟩ := progress.distinct unfinished (Nat.lt_of_succ_lt below)
      have fresh := touching_not_mem close progress.near rejected slope
      rw [extended, PlaneLedger.planes_descend progress.idle below dualLength]
      constructor
      · apply List.Nodup.append nodup (List.nodup_singleton _)
        exact List.disjoint_singleton.mpr fresh
      · rw [List.length_append, length]
        rfl
    bounded := by
      intro converged
      change state.converged = true at converged
      rw [unfinished] at converged
      cases converged }

/-- A wanted step makes progress: it ends the run, or it adds a plane. -/
theorem Steps.progress {found : ModelSolution ℚ → Prop} (valid : config.Valid)
    (fine : config.qpEpsilon < 1) (tradeoff_pos : 0 < tradeoff)
    (steps : config.Steps risk allowed found tradeoff state ledger next after)
    (unfinished : state.converged = false)
    (touches : ∀ slope, allowed state.weights slope →
      (slope, risk state.weights - dot slope state.weights) ∈ planes)
    (settles : ∀ solution, found solution → solution.iterations < config.qpMaxIterations)
    (progress : config.Progress tradeoff planes state ledger) :
    config.Progress tradeoff planes next after := by
  cases steps with
  | converge accepted => exact progress.converge unfinished
  | descend slope solution rejected aligned answered isFound solved =>
      exact progress.descend (subproblemTolerance_lt valid fine tradeoff_pos) tradeoff_pos
        unfinished rejected aligned (touches slope answered) solved (settles solution isFound)

/-- There are too few planes for a run to stop in any other way. -/
theorem Progress.converged_of_stops (progress : config.Progress tradeoff planes state ledger)
    (enough : planes.length ≤ config.maxIterations)
    (below : state.iteration < config.inactivePlaneThreshold)
    (stops : config.shouldStop state = true) : state.converged = true := by
  cases unfinished : state.converged with
  | true => rfl
  | false =>
      obtain ⟨nodup, length⟩ := progress.distinct unfinished below
      have most := nodup.length_le_of_subset progress.known
      have going : config.shouldStop state = false :=
        shouldStop_eq_false.mpr ⟨unfinished, by omega⟩
      rw [going] at stops
      cases stops

/-- In every situation that a run without a time limit visits it has made progress. -/
theorem progress_invariant (valid : config.Valid) (fine : config.qpEpsilon < 1)
    (untimed : config.maxSeconds = none) (tradeoff_pos : 0 < tradeoff)
    (answers : oracle.Answers risk allowed)
    (touches : ∀ weights slope, weights.length = oracle.dimension → allowed weights slope →
      (slope, risk weights - dot slope weights) ∈ planes) (oracleState : σ)
    (settles : ∀ reached, config.Visited oracle tradeoff oracleState reached →
      config.shouldStop reached.1 = false →
      ∀ solution, config.Finds oracle tradeoff reached.1 reached.2 solution →
        solution.iterations < config.qpMaxIterations) :
    config.Invariant oracle tradeoff fun state workspace =>
      config.Visited oracle tradeoff oracleState (state, workspace) ∧
        ∃ ledger : PlaneLedger, ledger.dimension = oracle.dimension ∧
          ledger.Matches workspace.arena ∧ config.Progress tradeoff planes state ledger where
  step := by
    intro state workspace holds wanted
    rcases holds with ⟨visited, ledger, dimension_eq, matched, progress⟩
    have weights_eq := progress.weights_eq.trans dimension_eq
    obtain ⟨next, after, outcome, steps, afterMatched⟩ := step_steps valid tradeoff_pos answers
      matched progress.aligned dimension_eq weights_eq
    have unfinished := (shouldStop_eq_false.mp wanted).1
    have nextProgress := steps.progress valid fine tradeoff_pos unfinished
      (fun slope => touches state.weights slope weights_eq)
      (settles (state, workspace) visited wanted) progress
    refine ⟨next, outcome, steps.iteration_eq, visited.tail ⟨wanted, outcome, rfl⟩, after, ?_,
      afterMatched, nextProgress⟩
    cases steps <;> exact dimension_eq
  interrupt := fun limited => absurd untimed limited

/-- With finitely many planes in reach, a run that drops none converges within as many
steps, and adds another plane with every step before. -/
theorem optimize_converges (valid : config.Valid) (fine : config.qpEpsilon < 1)
    (untimed : config.maxSeconds = none) (tradeoff_pos : 0 < tradeoff)
    (answers : oracle.Answers risk allowed)
    (touches : ∀ weights slope, weights.length = oracle.dimension → allowed weights slope →
      (slope, risk weights - dot slope weights) ∈ planes)
    (zero : (zeros oracle.dimension, 0) ∈ planes) (enough : planes.length ≤ config.maxIterations)
    (clock : Nat → ℚ) (readings : Nat) (oracleState : σ)
    (settles : ∀ reached, config.Visited oracle tradeoff oracleState reached →
      config.shouldStop reached.1 = false →
      ∀ solution, config.Finds oracle tradeoff reached.1 reached.2 solution →
        solution.iterations < config.qpMaxIterations)
    (untrimmed : ∀ result,
      (config.optimize oracle tradeoff clock readings oracleState).result = .ok result →
      result.iterations < config.inactivePlaneThreshold) :
    ∃ result, (config.optimize oracle tradeoff clock readings oracleState).result = .ok result ∧
      result.converged = true ∧ result.iterations ≤ planes.length ∧
      ∀ reached, config.Visited oracle tradeoff oracleState reached →
        reached.1.converged = false →
        (reached.2.arena.gradients.zip reached.2.arena.offsets).Nodup ∧
          (reached.2.arena.gradients.zip reached.2.arena.offsets).length =
            reached.1.iteration + 1 := by
  have invariant := progress_invariant valid fine untimed tradeoff_pos answers touches oracleState
    settles
  have begins : config.Visited oracle tradeoff oracleState (beginning oracle oracleState) ∧
      ∃ ledger : PlaneLedger, ledger.dimension = oracle.dimension ∧
        ledger.Matches (beginning oracle oracleState).2.arena ∧
        config.Progress tradeoff planes (beginning oracle oracleState).1 ledger :=
    ⟨.refl, .initial oracle.dimension, rfl, .initial _ _,
      initial_progress valid tradeoff_pos zero⟩
  obtain ⟨result, state, workspace, outcome, reports, ⟨-, ledger, -, -, progress⟩, unlimited⟩ :=
    optimize_reports invariant valid.computable clock readings oracleState begins
  obtain ⟨stops, later⟩ := unlimited untimed
  have below := untrimmed result outcome
  have stateBelow : state.iteration < config.inactivePlaneThreshold := by
    rw [← reports.iterations_eq]
    exact below
  have converged := progress.converged_of_stops enough stateBelow stops
  refine ⟨result, outcome, reports.converged_eq.trans converged, ?_, ?_⟩
  · rw [reports.iterations_eq]
    exact progress.bounded converged stateBelow
  · intro reached visited unfinished
    obtain ⟨-, other, -, matched, reachedProgress⟩ := visited.holds invariant begins
    have distinct := reachedProgress.distinct unfinished ((later reached visited).trans_lt below)
    rw [matched.planes_eq]
    exact distinct

end OptimizerConfig

end HingeRank
