import HingeRank.Proofs.Optimizer.Eviction
import HingeRank.Proofs.Planes.Falling

/-!
# The dual value of a run

What a step carries over to the next one, and that every cut raises the dual value.
-/

namespace HingeRank

/-!
## What the multipliers on record stand for

After a solution the multipliers on record have the mass that the model spreads, and they stand for
the weights and the value of the solution.  All of these are sums over the planes, weighed by their
multipliers, in which a plane with multiplier zero counts for nothing.

So neither a plane that is appended nor one that is dropped without having been used changes what
the multipliers stand for.
-/

section

open Linear

namespace PlaneLedger

variable {ledger after : PlaneLedger} {tradeoff value : ℚ} {nonnegative : Bool} {weights : List ℚ}

/-! ### Weighed sums -/

/-- The latest multipliers. -/
def multipliers (ledger : PlaneLedger) : List ℚ := ledger.records.map (·.multiplier)

/-- The sum of a part of all planes, weighed by their multipliers. -/
def weighed (ledger : PlaneLedger) (part : PlaneRecord ℚ → ℚ) : ℚ :=
  (ledger.records.map fun record => record.multiplier * part record).sum

theorem dot_multipliers (ledger : PlaneLedger) (part : PlaneRecord ℚ → ℚ) :
    dot ledger.multipliers (ledger.records.map part) = ledger.weighed part :=
  dot_map_map _ _ _

theorem sum_multipliers (ledger : PlaneLedger) :
    ledger.multipliers.sum = ledger.weighed fun _ => 1 := by
  simp only [multipliers, weighed, mul_one]

@[simp] theorem weighed_append (ledger : PlaneLedger) (gradient : List ℚ) (offset : ℚ)
    (part : PlaneRecord ℚ → ℚ) :
    (ledger.append gradient offset).weighed part = ledger.weighed part := by
  simp [weighed, append]

/-- The planes, other than the first one, that have not been used for so long have multiplier
zero. -/
def Spares (ledger : PlaneLedger) (threshold : Nat) : Prop :=
  ∀ record ∈ ledger.records.tail, threshold ≤ record.idle → record.multiplier = 0

theorem Spares.weighed_trim {threshold : Nat} (spares : ledger.Spares threshold)
    (part : PlaneRecord ℚ → ℚ) : (ledger.trim threshold).weighed part = ledger.weighed part := by
  rcases ledger with ⟨dimension, records⟩
  cases records with
  | nil => rfl
  | cons first rest =>
      simp only [weighed, trim, PlaneRecord.keep, List.map_cons, List.sum_cons, sum_map_filter,
        decide_eq_true_eq]
      congr 2
      refine List.map_congr_left fun record member => ?_
      by_cases recent : record.idle < threshold
      · rw [if_pos recent]
      · rw [if_neg recent, spares record member (not_lt.mp recent), zero_mul]

/-! ### Weights and value -/

/-- The multipliers on record are feasible and stand for the weights and the value. -/
structure Carries (ledger : PlaneLedger) (tradeoff : ℚ) (nonnegative : Bool) (weights : List ℚ)
    (value : ℚ) : Prop where
  aligned : ledger.Aligned
  feasible : Dual.Feasible ledger.records.length tradeoff ledger.multipliers
  weights_eq : (ledger.model tradeoff).weightsOf nonnegative ledger.multipliers = weights
  value_eq : (ledger.model tradeoff).worth nonnegative ledger.multipliers = value

/-- Ledgers that weigh all parts alike combine their gradients alike. -/
theorem combine_eq_of_weighed (aligned : ledger.Aligned) (afterAligned : after.Aligned)
    (dimension_eq : after.dimension = ledger.dimension)
    (same : ∀ part, after.weighed part = ledger.weighed part) :
    combine after.dimension after.multipliers (after.records.map (·.gradient)) =
      combine ledger.dimension ledger.multipliers (ledger.records.map (·.gradient)) := by
  have products (any : PlaneLedger) (anyAligned : any.Aligned) (vector : List ℚ) :
      dot (combine any.dimension any.multipliers (any.records.map (·.gradient))) vector =
        any.weighed fun record => dot record.gradient vector := by
    rw [dot_combine _ anyAligned.gradients, apply, List.map_map]
    exact any.dot_multipliers _
  apply ext_dot
  · rw [length_combine _ afterAligned.gradients, length_combine _ aligned.gradients, dimension_eq]
  · intro vector _
    rw [products after afterAligned, products ledger aligned, same]

/-- What multipliers stand for depends on weighed sums alone. -/
theorem Carries.of_weighed (carries : ledger.Carries tradeoff nonnegative weights value)
    (afterAligned : after.Aligned) (dimension_eq : after.dimension = ledger.dimension)
    (nonneg : ∀ multiplier ∈ after.multipliers, 0 ≤ multiplier)
    (same : ∀ part, after.weighed part = ledger.weighed part) :
    after.Carries tradeoff nonnegative weights value := by
  have combined := combine_eq_of_weighed carries.aligned afterAligned dimension_eq same
  have weightsOf_eq : (after.model tradeoff).weightsOf nonnegative after.multipliers =
      (ledger.model tradeoff).weightsOf nonnegative ledger.multipliers := by
    cases nonnegative with
    | false =>
        rw [PlaneModel.weightsOf_false, PlaneModel.weightsOf_false]
        exact congrArg neg combined
    | true =>
        rw [PlaneModel.weightsOf_true, PlaneModel.weightsOf_true]
        exact congrArg (fun vector => (neg vector).map Scalar.positivePart) combined
  have offsets_eq : dot after.multipliers (after.model tradeoff).offsets =
      dot ledger.multipliers (ledger.model tradeoff).offsets := by
    rw [model, model, dot_multipliers, dot_multipliers, same]
  constructor
  case aligned => exact afterAligned
  case feasible =>
    refine ⟨List.length_map _, nonneg, ?_⟩
    rw [sum_multipliers, same, ← sum_multipliers]
    exact carries.feasible.sum_eq
  case weights_eq => rw [weightsOf_eq, carries.weights_eq]
  case value_eq =>
    rw [PlaneModel.worth, PlaneModel.dualValue, weightsOf_eq, offsets_eq]
    exact carries.value_eq

/-! ### What a step does -/

/-- A plane that is appended has no multiplier yet. -/
theorem Carries.append (carries : ledger.Carries tradeoff nonnegative weights value)
    {gradient : List ℚ} (equal : gradient.length = ledger.dimension) (offset : ℚ) :
    (ledger.append gradient offset).Carries tradeoff nonnegative weights value := by
  refine carries.of_weighed (carries.aligned.append equal offset) rfl ?_
    (ledger.weighed_append gradient offset)
  intro multiplier member
  simp only [multipliers, PlaneLedger.append, List.map_append, List.map_singleton,
    List.mem_append, List.mem_singleton] at member
  rcases member with old | rfl
  · exact carries.feasible.nonneg multiplier old
  · exact le_rfl

/-- Recorded multipliers stand for the solution that they belong to. -/
theorem carries_of_solved (aligned : ledger.Aligned) {options : ModelOptions ℚ}
    {solution : ModelSolution ℚ} (solved : (ledger.model tradeoff).Solved options solution) :
    (ledger.use solution.dual).Carries tradeoff options.nonnegative solution.weights
      solution.dualValue := by
  have equal := length_dual_of_solved solved
  have recorded : (ledger.use solution.dual).multipliers = solution.dual :=
    PlaneRecord.map_multiplier_use equal
  have model_eq : (ledger.use solution.dual).model tradeoff = ledger.model tradeoff := by
    simp only [model, PlaneLedger.use, PlaneRecord.map_plane_use equal (·.gradient) fun _ _ => rfl,
      PlaneRecord.map_plane_use equal (·.offset) fun _ _ => rfl]
  constructor
  case aligned =>
    apply aligned.of_planes
    rw [← planes_use equal]
    exact List.Subset.refl _
  case feasible =>
    refine ⟨List.length_map _, ?_, ?_⟩
    · rw [recorded]
      exact solved.feasible.nonneg
    · rw [recorded]
      exact solved.feasible.sum_eq
  case weights_eq => rw [recorded, model_eq, solved.weights_eq]
  case value_eq =>
    rw [recorded, model_eq, solved.dualValue_eq, solved.weights_eq, PlaneModel.worth]

/-- Planes that are dropped without a multiplier take nothing along. -/
theorem Carries.trim {threshold : Nat} (carries : ledger.Carries tradeoff nonnegative weights value)
    (spares : ledger.Spares threshold) :
    (ledger.trim threshold).Carries tradeoff nonnegative weights value := by
  have fewer := PlaneArena.keep_sublist threshold ledger.records
  refine carries.of_weighed ?_ rfl ?_ spares.weighed_trim
  · intro record member
    exact carries.aligned record (fewer.subset member)
  · intro multiplier member
    exact carries.feasible.nonneg multiplier ((fewer.map _).subset member)

end PlaneLedger

end

/-!
## Every cut raises the dual value

Until a trim drops a plane that is in use, the multipliers on record stand for the weights of the
latest solution and for its value.  The next subproblem starts from them.  If its step does not
converge, then the new plane lies above that value at those weights by the accepted gap at least,
which is more than the tolerance of subproblems.  So the solver moves, and the new value is higher.

The lower bound is therefore the value of the latest solution, unless that is negative.
-/

section

open Linear

variable {σ : Type}

/-- If the slots that a trim drops have multiplier zero, then so have the records. -/
theorem PlaneLedger.Matches.spares {ledger : PlaneLedger} {arena : PlaneArena ℚ} {threshold : Nat}
    (holds : ledger.Matches arena)
    (unused : ∀ slot < arena.size, slot ∉ arena.survivors threshold → entry arena.dual slot = 0) :
    ledger.Spares threshold := by
  intro record member disused
  obtain ⟨position, bounds, rfl⟩ := List.mem_iff_getElem.mp member
  rw [List.getElem_tail] at disused ⊢
  have inBounds : position + 1 < ledger.records.length := by
    rw [List.length_tail] at bounds
    omega
  have represents := holds.represents
  have dual_eq := unused (position + 1) (represents.size_eq ▸ inBounds)
  rw [PlaneArena.mem_survivors_succ, represents.idle_eq, represents.dual_eq] at dual_eq
  simp only [entry, List.getD_eq_getElem?_getD, List.getElem?_map,
    List.getElem?_eq_getElem inBounds, Option.map_some, Option.getD_some] at dual_eq
  exact dual_eq fun recent => absurd recent.2 disused.not_gt

namespace OptimizerConfig

variable {config : OptimizerConfig ℚ} {oracle : LossOracle ℚ σ} {tradeoff : ℚ}

/-- If the next step makes a cut, all planes that it drops have multiplier zero. -/
def DropsUnused (config : OptimizerConfig ℚ) (oracle : LossOracle ℚ σ) (tradeoff : ℚ)
    (situation : Situation σ) : Prop :=
  ∀ cut ∈ config.cut? oracle tradeoff situation,
    ∀ slot < (cut.recordedIn situation.2.arena).size,
      slot ∉ (cut.recordedIn situation.2.arena).survivors config.inactivePlaneThreshold →
      entry (cut.recordedIn situation.2.arena).dual slot = 0

instance (config : OptimizerConfig ℚ) (oracle : LossOracle ℚ σ) (tradeoff : ℚ)
    (situation : Situation σ) : Decidable (config.DropsUnused oracle tradeoff situation) :=
  inferInstanceAs (Decidable (∀ cut ∈ config.cut? oracle tradeoff situation, _))

/-! ### One cut -/

/-- A cut gains on what the multipliers on record stand for, unless the bound lies below that. -/
theorem Makes.lt_dualValue (valid : config.Valid) (fine : config.qpEpsilon < 1)
    (tradeoff_pos : 0 < tradeoff) {situation : Situation σ} {cut : Cut}
    (makes : config.Makes oracle tradeoff situation cut) {ledger : PlaneLedger}
    (holds : ledger.Matches situation.2.arena) {value : ℚ}
    (carries : ledger.Carries tradeoff config.nonnegative situation.1.weights value)
    (bounded : value ≤ situation.1.lowerBound) : value < cut.solution.dualValue := by
  have extendedHolds := holds.append cut.plane.1 cut.plane.2
  have extended : (ledger.append cut.plane.1 cut.plane.2).Carries tradeoff config.nonnegative
      situation.1.weights value :=
    carries.append (makes.aligned.trans holds.dimension_eq) cut.plane.2
  -- The new plane has the risk of the answer at the weights that the multipliers stand for.
  have touches : cut.answer.risk ∈
      ((ledger.append cut.plane.1 cut.plane.2).model tradeoff).planeValues situation.1.weights := by
    rw [PlaneLedger.planeValues_model, PlaneLedger.append, List.map_append, ← makes.weights_eq]
    exact List.mem_append_right _ (by simp [Cut.plane, LossAnswer.plane])
  have above : value + config.subproblemTolerance tradeoff <
      halfNorm situation.1.weights + tradeoff * cut.answer.risk := by
    have far := add_accepted_le makes.rejected
    have close := subproblemTolerance_lt valid fine tradeoff_pos
    rw [regularized] at far
    linarith
  have solves := makes.found
  rw [solveModel?_of_matches valid.computable extendedHolds] at solves
  -- Where the plane comes from is not needed any more.
  generalize ledger.append cut.plane.1 cut.plane.2 = after at *
  have wellFormed := extended.aligned.model_wellFormed extendedHolds.zeroFirst.ne_nil tradeoff_pos
  have feasible := extended.feasible
  rw [← List.length_map (·.offset)] at feasible
  rw [← extended.weights_eq] at touches above
  rw [← extended.value_eq] at above ⊢
  exact @PlaneModel.worth_lt_dualValue _ (config.modelOptions tradeoff after) _ _ wellFormed
    (valid.subproblemTolerance_pos tradeoff_pos).le valid.qpMaxIterations_pos rfl feasible _ touches
    above solves

/-! ### All cuts of a run -/

/-- The latest cut has the highest dual value, which is the lower bound unless it is negative, and
its multipliers are on record. -/
inductive Climbs (config : OptimizerConfig ℚ) (tradeoff : ℚ) (state : OptimizerState ℚ)
    (ledger : PlaneLedger) : List Cut → Prop
  | begins (bound_eq : state.lowerBound = 0) : Climbs config tradeoff state ledger []
  | cut (cuts : List Cut) (latest : Cut)
      (carries : ledger.Carries tradeoff config.nonnegative state.weights
        latest.solution.dualValue)
      (bound_eq : state.lowerBound = max 0 latest.solution.dualValue)
      (rising : ∀ previous ∈ cuts, previous.solution.dualValue < latest.solution.dualValue) :
      Climbs config tradeoff state ledger (cuts ++ [latest])

section Climbing

variable {situation after : Situation σ} {ledger kept : PlaneLedger} {cuts : List Cut} {cut : Cut}

/-- The next cut rises above all cuts before. -/
theorem Climbs.rises (climbs : config.Climbs tradeoff situation.1 ledger cuts)
    (valid : config.Valid) (fine : config.qpEpsilon < 1) (tradeoff_pos : 0 < tradeoff)
    (makes : config.Makes oracle tradeoff situation cut)
    (holds : ledger.Matches situation.2.arena) :
    (∀ previous ∈ cuts, previous.solution.dualValue < cut.solution.dualValue) ∧
      max situation.1.lowerBound cut.solution.dualValue = max 0 cut.solution.dualValue := by
  cases climbs with
  | begins bound_eq => exact ⟨by simp, by rw [bound_eq]⟩
  | cut cuts latest carries bound_eq rising =>
      have less := makes.lt_dualValue valid fine tradeoff_pos holds carries
        (bound_eq ▸ le_max_right _ _)
      refine ⟨?_, ?_⟩
      · intro previous member
        rcases List.mem_append.mp member with earlier | last
        · exact (rising previous earlier).trans less
        · rw [List.mem_singleton.mp last]
          exact less
      · rw [bound_eq, max_assoc, max_eq_right less.le]

/-- A step keeps the latest cut on record, if it drops nothing that is in use. -/
theorem Follows.climbs (valid : config.Valid) (fine : config.qpEpsilon < 1)
    (tradeoff_pos : 0 < tradeoff) (filled : oracle.AnswersFilled)
    (holds : ledger.Matches situation.2.arena)
    (tracks : config.Tracks oracle tradeoff cuts situation.1 ledger)
    (unused : config.DropsUnused oracle tradeoff situation)
    (climbs : config.Climbs tradeoff situation.1 ledger cuts)
    (follows : config.Follows oracle tradeoff situation ledger after kept) :
    config.Climbs tradeoff after.1 kept
      (cuts ++ (config.cut? oracle tradeoff situation).toList) := by
  cases follows with
  | stay uncut weights_eq bound_eq =>
      rw [uncut, Option.toList_none, List.append_nil]
      cases climbs with
      | begins begins_eq => exact .begins (bound_eq.trans begins_eq)
      | cut cuts latest carries latest_eq rising =>
          refine .cut cuts latest ?_ (bound_eq.trans latest_eq) rising
          rw [weights_eq]
          exact carries
  | cut cut made weights_eq answered aligned solved next_eq bound_eq =>
      have makes := makes_of_cut? valid tradeoff_pos filled holds tracks.aligned
        tracks.dimension_eq tracks.weights_eq made
      obtain ⟨rising, higher_eq⟩ := climbs.rises valid fine tradeoff_pos makes holds
      have recorded := (holds.append cut.plane.1 cut.plane.2).use
        (PlaneLedger.length_dual_of_solved solved)
      have carries := PlaneLedger.carries_of_solved (tracks.aligned.append aligned _) solved
      rw [made, Option.toList_some]
      refine .cut cuts cut ?_ (bound_eq.trans higher_eq) rising
      rw [next_eq]
      exact carries.trim (recorded.spares (unused cut made))

end Climbing

theorem exists_climbs (valid : config.Valid) (fine : config.qpEpsilon < 1)
    (tradeoff_pos : 0 < tradeoff) (filled : oracle.AnswersFilled) (oracleState : σ) (steps : Nat)
    (unused : ∀ earlier < steps, config.DropsUnused oracle tradeoff
      (config.situationAfter oracle tradeoff oracleState earlier)) :
    ∃ ledger : PlaneLedger,
      ledger.Matches (config.situationAfter oracle tradeoff oracleState steps).2.arena ∧
      config.Tracks oracle tradeoff (config.cutsBefore oracle tradeoff oracleState steps)
        (config.situationAfter oracle tradeoff oracleState steps).1 ledger ∧
      config.Climbs tradeoff (config.situationAfter oracle tradeoff oracleState steps).1 ledger
        (config.cutsBefore oracle tradeoff oracleState steps) := by
  refine exists_ledger valid tradeoff_pos filled oracleState
    (fun cuts state ledger => config.Climbs tradeoff state ledger cuts) (.begins rfl) steps ?_
  intro earlier before ledger kept situation cuts after holds tracks follows climbs
  exact follows.climbs valid fine tradeoff_pos filled holds tracks (unused earlier before) climbs

/-- **Every step that does not converge raises the dual value**, as long as trims have dropped only
planes with multiplier zero.  Such a step makes a cut.  The value of its solution is higher than
those of all cuts before, whether or not the solver has used up its moves, and it is the lower bound
afterwards unless it is negative. -/
theorem cut_raises_dualValue (valid : config.Valid) (fine : config.qpEpsilon < 1)
    (tradeoff_pos : 0 < tradeoff) (filled : oracle.AnswersFilled) (oracleState : σ) (steps : Nat)
    (unused : ∀ earlier < steps, config.DropsUnused oracle tradeoff
      (config.situationAfter oracle tradeoff oracleState earlier)) :
    let cuts := config.cutsBefore oracle tradeoff oracleState steps
    let situation := config.situationAfter oracle tradeoff oracleState steps
    let outcome := (config.step oracle tradeoff situation.1 situation.2).outcome
    (∀ next, outcome = .ok next → next.converged = false →
      ∃ cut, config.cut? oracle tradeoff situation = some cut) ∧
    ∀ cut, config.cut? oracle tradeoff situation = some cut →
      (∀ previous ∈ cuts, previous.solution.dualValue < cut.solution.dualValue) ∧
      ∃ next, outcome = .ok next ∧ next.weights = cut.solution.weights ∧
        next.lowerBound = max 0 cut.solution.dualValue := by
  intro cuts situation outcome
  obtain ⟨ledger, holds, tracks, climbs⟩ :=
    exists_climbs valid fine tradeoff_pos filled oracleState steps unused
  refine ⟨?_, ?_⟩
  · intro next succeeds unconverged
    rcases makes_or_stays valid tradeoff_pos filled holds tracks.aligned tracks.dimension_eq
      tracks.weights_eq with ⟨cut, makes⟩ | stays
    · exact ⟨cut, makes.made⟩
    · rw [(stays.converged next succeeds).1] at unconverged
      cases unconverged
  · intro cut made
    have makes := makes_of_cut? valid tradeoff_pos filled holds tracks.aligned tracks.dimension_eq
      tracks.weights_eq made
    obtain ⟨rising, higher_eq⟩ := climbs.rises valid fine tradeoff_pos makes holds
    exact ⟨rising, _, makes.outcome, rfl, higher_eq⟩

/-- A configuration that drops planes at once and lets the solver make a single move. -/
def hasty : OptimizerConfig ℚ := { eager with nonnegative := true, qpMaxIterations := 1 }

theorem hasty_valid : hasty.Valid where
  epsilon_pos := eager_valid.epsilon_pos
  qpEpsilon_pos := eager_valid.qpEpsilon_pos
  qpMaxIterations_pos := le_rfl
  inactivePlaneThreshold_pos := eager_valid.inactivePlaneThreshold_pos
  maxSeconds_pos := eager_valid.maxSeconds_pos
  computable := rfl

/-- All solutions so far have used up their moves, and one of five planes has been dropped. -/
theorem cut_raises_dualValue_hasty :
    let loss : MaxAffineLoss ℚ := ⟨1, [([-1], 1), ([-3], 2), ([1], -1 / 2)]⟩
    let cuts := hasty.cutsBefore loss.oracle 1 0 4
    let situation := hasty.situationAfter loss.oracle 1 0 4
    (hasty.Valid ∧ hasty.qpEpsilon < 1 ∧ (0 : ℚ) < 1 ∧ loss.oracle.AnswersFilled ∧
        ∀ earlier < 4, hasty.DropsUnused loss.oracle 1
          (hasty.situationAfter loss.oracle 1 0 earlier)) ∧
      cuts.map (·.solution.dualValue) = [2 / 9, 5 / 18, 401 / 1152, 241 / 576] ∧
      cuts.map (·.solution.iterations) = [1, 1, 1, 1] ∧ situation.2.arena.size = 4 ∧
      ∃ cut, hasty.cut? loss.oracle 1 situation = some cut ∧
        cut.solution.dualValue = 563 / 1152 ∧
        (∀ previous ∈ cuts, previous.solution.dualValue < cut.solution.dualValue) ∧
        ∃ next, (hasty.step loss.oracle 1 situation.1 situation.2).outcome = .ok next ∧
          next.converged = false ∧ next.lowerBound = max 0 (563 / 1152) := by
  intro loss cuts situation
  have filled := (@MaxAffineLoss.oracle_represents loss (by decide)).answers.filled
  have fine : hasty.qpEpsilon < 1 := by norm_num [hasty, eager, coarse]
  have unused : ∀ earlier < 4, hasty.DropsUnused loss.oracle 1
      (hasty.situationAfter loss.oracle 1 0 earlier) := by
    decide +kernel
  let reply := (hasty.step loss.oracle 1 situation.1 situation.2).outcome
  have succeeds : reply = .ok (reply.toOption.getD situation.1) :=
    outcome_eq_ok _ (by decide +kernel)
  have unconverged : (reply.toOption.getD situation.1).converged = false := by decide +kernel
  obtain ⟨makes, raises⟩ :=
    cut_raises_dualValue hasty_valid fine one_pos filled (0 : Nat) 4 unused
  obtain ⟨cut, made⟩ := makes _ succeeds unconverged
  obtain ⟨rising, next, outcome, -, bound_eq⟩ := raises cut made
  have values : (hasty.cut? loss.oracle 1 situation).map (·.solution.dualValue) =
      some (563 / 1152) := by
    decide +kernel
  have value_eq : cut.solution.dualValue = 563 / 1152 := by
    rw [made] at values
    exact Option.some.inj values
  refine ⟨⟨hasty_valid, fine, one_pos, filled, unused⟩, by decide +kernel, by decide +kernel,
    by decide +kernel, cut, made, value_eq, rising, next, outcome, ?_, value_eq ▸ bound_eq⟩
  cases succeeds.symm.trans outcome
  exact unconverged

end OptimizerConfig

end

end HingeRank
