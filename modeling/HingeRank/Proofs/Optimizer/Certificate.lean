import Mathlib
import HingeRank.Proofs.Optimizer.Step

/-!
# Certificates and optima

What the states of a run certify, and how this bounds the distance to the optimum.
-/

namespace HingeRank

/-!
## States of the optimizer certify themselves

Every plane in the arena lies below the risk.  The model of the planes therefore lies below
the objective, and so does the value of every feasible dual, which makes the lower bound of
a state sound.  Together with its best evaluation a state thus says how far from the
optimum it can be.

All states of a session share one arena.  A step may be made from any of them, with what
the other steps have done to the arena, and also after convergence.
-/

section

open Linear

variable {risk : List ℚ → ℚ} {tradeoff : ℚ}

namespace PlaneLedger

variable {ledger : PlaneLedger}

/-- All planes have the dimension of the ledger and lie below the risk. -/
structure Sound (ledger : PlaneLedger) (risk : List ℚ → ℚ) : Prop where
  aligned : ledger.Aligned
  below : ∀ record ∈ ledger.records, ∀ weights : List ℚ, weights.length = ledger.dimension →
    dot record.gradient weights + record.offset ≤ risk weights

theorem initial_sound {dimension : Nat}
    (nonneg : ∀ weights : List ℚ, weights.length = dimension → 0 ≤ risk weights) :
    (initial dimension).Sound risk where
  aligned := initial_aligned dimension
  below := by
    intro record member weights equal
    rw [List.mem_singleton.mp member]
    simpa [PlaneRecord.zeroPlane] using nonneg weights equal

/-- The plane of a slope that supports the risk may join. -/
theorem Sound.extended (sound : ledger.Sound risk) {weights slope : List ℚ}
    (weights_eq : weights.length = ledger.dimension) (slope_eq : slope.length = ledger.dimension)
    (supports : Supports risk ledger.dimension weights slope) :
    (OptimizerConfig.extended risk ledger weights slope).Sound risk where
  aligned := sound.aligned.append slope_eq _
  below := by
    intro record member others others_eq
    rcases List.mem_append.mp member with old | new
    · exact sound.below record old others others_eq
    · rw [List.mem_singleton.mp new]
      have touches := supports others others_eq
      rw [dot_sub_right (others_eq.trans weights_eq.symm)] at touches
      change dot slope others + (risk weights - dot slope weights) ≤ risk others
      linarith

/-- Soundness is a matter of the planes alone. -/
theorem Sound.of_planes (sound : ledger.Sound risk) {records : List (PlaneRecord ℚ)}
    (planes : ∀ record ∈ records, ∃ source ∈ ledger.records,
      record.gradient = source.gradient ∧ record.offset = source.offset) :
    ({ ledger with records } : PlaneLedger).Sound risk where
  aligned := by
    intro record member
    obtain ⟨source, sourceMem, gradient_eq, -⟩ := planes record member
    rw [gradient_eq]
    exact sound.aligned source sourceMem
  below := by
    intro record member
    obtain ⟨source, sourceMem, gradient_eq, offset_eq⟩ := planes record member
    rw [gradient_eq, offset_eq]
    exact sound.below source sourceMem

theorem Sound.use (sound : ledger.Sound risk) (multipliers : List ℚ) :
    (ledger.use multipliers).Sound risk := by
  apply sound.of_planes
  intro record member
  obtain ⟨position, bounds, rfl⟩ := List.mem_iff_getElem.mp member
  rw [List.getElem_zipWith]
  exact ⟨_, List.getElem_mem _, rfl, rfl⟩

theorem Sound.trim (sound : ledger.Sound risk) (threshold : Nat) :
    (ledger.trim threshold).Sound risk := by
  apply sound.of_planes
  intro record member
  exact ⟨record, (PlaneArena.keep_sublist threshold ledger.records).subset member, rfl, rfl⟩

/-- The model of planes below the risk lies below the objective. -/
theorem Sound.planeValues_le (sound : ledger.Sound risk) {weights : List ℚ}
    (equal : weights.length = ledger.dimension) :
    ∀ value ∈ (ledger.model tradeoff).planeValues weights, value ≤ risk weights := by
  intro value member
  rw [planeValues_model] at member
  obtain ⟨record, recordMem, rfl⟩ := List.mem_map.mp member
  exact sound.below record recordMem weights equal

/-- The value of a solution of the model is a lower bound of the objective. -/
theorem Sound.dualValue_le (sound : ledger.Sound risk) (nonempty : ledger.records ≠ [])
    (tradeoff_pos : 0 < tradeoff) {options : ModelOptions ℚ} {solution : ModelSolution ℚ}
    (solved : (ledger.model tradeoff).Solved options solution) {weights : List ℚ}
    (admissible : Admissible options.nonnegative ledger.dimension weights) :
    solution.dualValue ≤ regularized risk tradeoff weights := by
  rw [solved.dualValue_eq, solved.weights_eq]
  exact PlaneModel.dualValue_le (sound.aligned.model_wellFormed nonempty tradeoff_pos)
    solved.feasible admissible (sound.planeValues_le admissible.length_eq)

end PlaneLedger

namespace PlaneArena

/-- The planes in an arena lie below the risk. -/
def Below (arena : PlaneArena ℚ) (risk : List ℚ → ℚ) (dimension : Nat) : Prop :=
  ∃ ledger : PlaneLedger, ledger.dimension = dimension ∧ ledger.Matches arena ∧ ledger.Sound risk

theorem initial_below {dimension : Nat} (capacity : Nat)
    (nonneg : ∀ weights : List ℚ, weights.length = dimension → 0 ≤ risk weights) :
    (initial dimension capacity).Below risk dimension :=
  ⟨.initial dimension, rfl, .initial dimension capacity, PlaneLedger.initial_sound nonneg⟩

end PlaneArena

namespace OptimizerState

/-- What a state of the optimizer vouches for. -/
structure Certified (config : OptimizerConfig ℚ) (risk : List ℚ → ℚ) (tradeoff : ℚ)
    (dimension : Nat) (state : OptimizerState ℚ) : Prop where
  weights_admissible : Admissible config.nonnegative dimension state.weights
  lowerBound_nonneg : 0 ≤ state.lowerBound
  lowerBound_le : ∀ weights, Admissible config.nonnegative dimension weights →
    state.lowerBound ≤ regularized risk tradeoff weights
  best_admissible : ∀ best, state.best = some best →
    Admissible config.nonnegative dimension best.weights
  best_risk : ∀ best, state.best = some best → best.risk = risk best.weights
  best_objective : ∀ best, state.best = some best →
    best.objective = regularized risk tradeoff best.weights
  best_exists : 0 < state.iteration → ∃ best, state.best = some best
  accepted : state.converged = true → state.isAccepted (config.acceptedGap tradeoff) = true

/-- The best evaluation is the old one or the new one, and no worse than either. -/
theorem improve_least (best : Option (Evaluated ℚ)) (new : Evaluated ℚ) :
    ∃ chosen, improve best new = some chosen ∧ (chosen = new ∨ best = some chosen) ∧
      chosen.objective ≤ new.objective ∧
      ∀ known, best = some known → chosen.objective ≤ known.objective := by
  cases best with
  | none => exact ⟨new, by simp [improve], .inl rfl, le_rfl, by simp⟩
  | some known =>
      by_cases better : new.objective < known.objective
      · refine ⟨new, by rw [improve, if_pos better], .inl rfl, le_rfl, ?_⟩
        rintro _ ⟨⟩
        exact better.le
      · refine ⟨known, by rw [improve, if_neg better], .inr rfl, not_lt.mp better, ?_⟩
        rintro _ ⟨⟩
        exact le_rfl

theorem isAccepted_iff {state : OptimizerState ℚ} {accepted : ℚ} :
    state.isAccepted accepted = true ↔
      ∃ best, state.best = some best ∧ best.objective - state.lowerBound < accepted := by
  simp only [isAccepted, gap, Option.any_map]
  cases state.best with
  | none => simp
  | some best => simp

variable {config : OptimizerConfig ℚ} {state : OptimizerState ℚ} {dimension : Nat}

theorem initial_certified (config : OptimizerConfig ℚ) (tradeoff_pos : 0 < tradeoff)
    (nonneg : ∀ weights : List ℚ, weights.length = dimension → 0 ≤ risk weights) :
    (initial dimension : OptimizerState ℚ).Certified config risk tradeoff dimension where
  weights_admissible := by
    refine ⟨length_zeros dimension, ?_⟩
    intro _ weight member
    rw [List.eq_of_mem_replicate member]
  lowerBound_nonneg := le_rfl
  lowerBound_le := by
    intro weights admissible
    exact add_nonneg (halfNorm_nonneg weights)
      (mul_nonneg tradeoff_pos.le (nonneg weights admissible.length_eq))
  best_admissible := by simp [initial]
  best_risk := by simp [initial]
  best_objective := by simp [initial]
  best_exists := by simp [initial]
  accepted := by simp [initial, converged]

/-- What the old best evaluation and the new one have, the best of both has. -/
theorem evaluated_best (property : Evaluated ℚ → Prop)
    (new : property
      ⟨state.weights, regularized risk tradeoff state.weights, risk state.weights⟩)
    (old : ∀ best, state.best = some best → property best) :
    ∀ best, (state.evaluated risk tradeoff).best = some best → property best := by
  intro best found
  obtain ⟨chosen, improved, origin, -, -⟩ := improve_least state.best
    ⟨state.weights, regularized risk tradeoff state.weights, risk state.weights⟩
  have same : chosen = best := Option.some.inj (improved.symm.trans found)
  rw [← same]
  cases origin with
  | inl isNew =>
      rw [isNew]
      exact new
  | inr known => exact old chosen known

/-- An evaluation can only make the gap smaller. -/
theorem Certified.evaluated (certified : state.Certified config risk tradeoff dimension) :
    (state.evaluated risk tradeoff).Certified config risk tradeoff dimension where
  weights_admissible := certified.weights_admissible
  lowerBound_nonneg := certified.lowerBound_nonneg
  lowerBound_le := certified.lowerBound_le
  best_admissible :=
    evaluated_best _ certified.weights_admissible certified.best_admissible
  best_risk :=
    evaluated_best (fun best => best.risk = risk best.weights) rfl certified.best_risk
  best_objective :=
    evaluated_best (fun best => best.objective = regularized risk tradeoff best.weights) rfl
      certified.best_objective
  best_exists := by
    intro _
    obtain ⟨chosen, improved, -, -, -⟩ := improve_least state.best
      ⟨state.weights, regularized risk tradeoff state.weights, risk state.weights⟩
    exact ⟨chosen, improved⟩
  accepted := by
    intro converged
    obtain ⟨chosen, improved, -, -, least⟩ := improve_least state.best
      ⟨state.weights, regularized risk tradeoff state.weights, risk state.weights⟩
    obtain ⟨best, known, close⟩ := isAccepted_iff.mp (certified.accepted converged)
    apply isAccepted_iff.mpr
    exact ⟨chosen, improved, (sub_le_sub_right (least best known) _).trans_lt close⟩

/-- A state that has converged is close to the optimum. -/
theorem Certified.near_optimum (certified : state.Certified config risk tradeoff dimension)
    (converged : state.converged = true) :
    ∃ best, state.best = some best ∧
      ∀ weights, Admissible config.nonnegative dimension weights →
        best.objective < regularized risk tradeoff weights + tradeoff * config.epsilon := by
  obtain ⟨best, known, close⟩ := isAccepted_iff.mp (certified.accepted converged)
  refine ⟨best, known, ?_⟩
  intro weights admissible
  have bound := certified.lowerBound_le weights admissible
  rw [OptimizerConfig.acceptedGap] at close
  linarith

end OptimizerState

namespace OptimizerConfig

variable {σ : Type} {config : OptimizerConfig ℚ} {oracle : LossOracle ℚ σ}
  {state next : OptimizerState ℚ} {ledger after : PlaneLedger}

/-- A step from a certified state leads to a certified state whose bound is not smaller,
and keeps the planes below the risk. -/
theorem Steps.certified {found : ModelSolution ℚ → Prop} (tradeoff_pos : 0 < tradeoff)
    (steps : config.Steps risk (Supports risk ledger.dimension) found tradeoff state ledger
      next after)
    (certified : state.Certified config risk tradeoff ledger.dimension)
    (sound : ledger.Sound risk) :
    next.Certified config risk tradeoff ledger.dimension ∧ after.Sound risk ∧
      after.dimension = ledger.dimension ∧ state.lowerBound ≤ next.lowerBound := by
  cases steps with
  | converge accepted =>
      exact ⟨{ certified.evaluated with accepted := fun _ => accepted }, sound, rfl, le_rfl⟩
  | descend slope solution rejected aligned answered isFound solved =>
      have extendedSound :=
        sound.extended certified.weights_admissible.length_eq aligned answered
      have nonempty := ledger.append_records_ne_nil slope
        (risk state.weights - dot slope state.weights)
      have wellFormed := extendedSound.aligned.model_wellFormed nonempty tradeoff_pos
      refine ⟨?_, (extendedSound.use _).trim _, rfl, le_max_left _ _⟩
      exact { certified.evaluated with
        weights_admissible := by
          change Admissible config.nonnegative ledger.dimension solution.weights
          rw [solved.weights_eq]
          exact PlaneModel.weightsOf_admissible wellFormed _ _
        lowerBound_nonneg := certified.lowerBound_nonneg.trans (le_max_left _ _)
        lowerBound_le := by
          intro weights admissible
          apply max_le (certified.lowerBound_le weights admissible)
          exact extendedSound.dualValue_le nonempty tradeoff_pos solved admissible
        accepted := by
          intro converged
          have accepted := certified.evaluated.accepted converged
          rw [rejected] at accepted
          cases accepted }

/-- A step from a certified state succeeds, whatever planes below the risk it finds. -/
theorem step_certified {workspace : Workspace ℚ σ} (valid : config.Valid)
    (tradeoff_pos : 0 < tradeoff) (represents : oracle.Represents risk)
    (certified : state.Certified config risk tradeoff oracle.dimension)
    (below : workspace.arena.Below risk oracle.dimension) :
    ∃ next, (config.step oracle tradeoff state workspace).outcome = .ok next ∧
      next.iteration = state.iteration + 1 ∧ state.lowerBound ≤ next.lowerBound ∧
      next.Certified config risk tradeoff oracle.dimension ∧
      (config.step oracle tradeoff state workspace).workspace.arena.Below risk
        oracle.dimension := by
  rcases below with ⟨ledger, dimension_eq, holds, sound⟩
  obtain ⟨next, after, stepped, steps, afterHolds⟩ := step_steps valid tradeoff_pos
    represents.answers holds sound.aligned dimension_eq certified.weights_admissible.length_eq
  have counted := steps.iteration_eq
  rw [← dimension_eq] at steps certified ⊢
  obtain ⟨nextCertified, afterSound, kept, monotone⟩ :=
    steps.certified tradeoff_pos certified sound
  exact ⟨next, stepped, counted, monotone, nextCertified, after, kept, afterHolds, afterSound⟩

/-- The states that steps have led to, from the first state on, and the workspace that they
share.  A step may be made from any of them. -/
inductive Session (config : OptimizerConfig ℚ) (oracle : LossOracle ℚ σ) (tradeoff : ℚ) :
    List (OptimizerState ℚ) → Workspace ℚ σ → Prop
  | begin (oracleState : σ) :
      Session config oracle tradeoff [.initial oracle.dimension]
        ⟨.initial oracle.dimension PlaneArena.defaultCapacity, oracleState⟩
  | step {states : List (OptimizerState ℚ)} {workspace : Workspace ℚ σ}
      {state next : OptimizerState ℚ} (session : Session config oracle tradeoff states workspace)
      (member : state ∈ states)
      (outcome : (config.step oracle tradeoff state workspace).outcome = .ok next) :
      Session config oracle tradeoff (states ++ [next])
        (config.step oracle tradeoff state workspace).workspace

/-- What holds of a state and the workspace shared by the states of a session. -/
structure Certificate (config : OptimizerConfig ℚ) (oracle : LossOracle ℚ σ)
    (risk : List ℚ → ℚ) (tradeoff : ℚ) (state : OptimizerState ℚ) (workspace : Workspace ℚ σ) :
    Prop where
  /-- Every plane lies below the risk. -/
  planes_below : ∀ gradient offset, (gradient, offset) ∈
      workspace.arena.gradients.zip workspace.arena.offsets →
    ∀ weights : List ℚ, weights.length = oracle.dimension →
      dot gradient weights + offset ≤ risk weights
  lowerBound_nonneg : 0 ≤ state.lowerBound
  lowerBound_le : ∀ weights, Admissible config.nonnegative oracle.dimension weights →
    state.lowerBound ≤ halfNorm weights + tradeoff * risk weights
  /-- A step from the state succeeds and does not lower the bound. -/
  advances : ∃ next, (config.step oracle tradeoff state workspace).outcome = .ok next ∧
    state.lowerBound ≤ next.lowerBound
  /-- After an evaluation the best one is known for what it is. -/
  best : 0 < state.iteration → ∃ best, state.best = some best ∧
    best.objective = halfNorm best.weights + tradeoff * best.risk ∧
    best.risk = risk best.weights ∧ state.lowerBound ≤ best.objective
  weights_admissible : Admissible config.nonnegative oracle.dimension state.weights
  best_admissible : ∀ best, state.best = some best →
    Admissible config.nonnegative oracle.dimension best.weights
  /-- After convergence the best evaluation is close to the optimum. -/
  near_optimum : state.converged = true → ∃ best, state.best = some best ∧
    ∀ weights, Admissible config.nonnegative oracle.dimension weights →
      best.objective < halfNorm weights + tradeoff * risk weights + tradeoff * config.epsilon

/-- Through all of a session the states are certified and the planes lie below the risk. -/
theorem Session.certified (valid : config.Valid) (tradeoff_pos : 0 < tradeoff)
    (represents : oracle.Represents risk) {states : List (OptimizerState ℚ)}
    {workspace : Workspace ℚ σ} (session : config.Session oracle tradeoff states workspace) :
    (∀ state ∈ states, state.Certified config risk tradeoff oracle.dimension) ∧
      workspace.arena.Below risk oracle.dimension := by
  induction session with
  | begin oracleState =>
      refine ⟨?_, PlaneArena.initial_below _ represents.nonneg⟩
      intro state member
      rw [List.mem_singleton.mp member]
      exact OptimizerState.initial_certified config tradeoff_pos represents.nonneg
  | step session member outcome ih =>
      rcases ih with ⟨certified, below⟩
      obtain ⟨next, stepped, -, -, nextCertified, afterBelow⟩ :=
        step_certified valid tradeoff_pos represents (certified _ member) below
      have same := Except.ok.inj (outcome.symm.trans stepped)
      subst same
      refine ⟨?_, afterBelow⟩
      intro state stateMem
      rcases List.mem_append.mp stateMem with old | new
      · exact certified state old
      · rw [List.mem_singleton.mp new]
        exact nextCertified

/-- In every session with the oracle of a convex, nonnegative risk all states vouch for
their bounds, whatever order the steps are made in and whether or not a state has
converged. -/
theorem session_certificate (valid : config.Valid) (tradeoff_pos : 0 < tradeoff)
    (represents : oracle.Represents risk) {states : List (OptimizerState ℚ)}
    {workspace : Workspace ℚ σ} (session : config.Session oracle tradeoff states workspace) :
    ∀ state ∈ states, config.Certificate oracle risk tradeoff state workspace := by
  intro state member
  obtain ⟨certified, below⟩ := session.certified valid tradeoff_pos represents
  have stateCertified := certified state member
  obtain ⟨next, stepped, -, monotone, -, -⟩ :=
    step_certified valid tradeoff_pos represents stateCertified below
  rcases below with ⟨ledger, dimension_eq, holds, sound⟩
  exact {
    planes_below := by
      intro gradient offset plane weights equal
      rw [holds.represents.gradients_eq, holds.represents.offsets_eq, List.zip_map'] at plane
      obtain ⟨record, recordMem, same⟩ := List.mem_map.mp plane
      cases same
      exact sound.below record recordMem weights (equal.trans dimension_eq.symm)
    lowerBound_nonneg := stateCertified.lowerBound_nonneg
    lowerBound_le := stateCertified.lowerBound_le
    advances := ⟨next, stepped, monotone⟩
    best := by
      intro evaluated
      obtain ⟨best, known⟩ := stateCertified.best_exists evaluated
      have risk_eq := stateCertified.best_risk best known
      have objective_eq := stateCertified.best_objective best known
      refine ⟨best, known, ?_, risk_eq, ?_⟩
      · rw [objective_eq, risk_eq]
        rfl
      · rw [objective_eq]
        exact stateCertified.lowerBound_le _ (stateCertified.best_admissible best known)
    weights_admissible := stateCertified.weights_admissible
    best_admissible := stateCertified.best_admissible
    near_optimum := stateCertified.near_optimum }

/-! ### A small session -/

/-- A coarse accuracy and few iterations. -/
def coarse : OptimizerConfig ℚ where
  epsilon := 1 / 100
  maxIterations := 4
  nonnegative := false
  qpEpsilon := 1 / 10
  qpMaxIterations := 10
  inactivePlaneThreshold := 20
  maxSeconds := none
  verbose := false

theorem coarse_valid : coarse.Valid where
  epsilon_pos := by norm_num [coarse]
  qpEpsilon_pos := by norm_num [coarse]
  qpMaxIterations_pos := by decide
  inactivePlaneThreshold_pos := by decide
  maxSeconds_pos := by simp [coarse]
  computable := rfl

/-- The hinge loss in one dimension is minimised in two steps. -/
theorem session_certificate_hinge :
    let hinge : MaxAffineLoss ℚ := ⟨1, [([-1], 1)]⟩
    ∃ states workspace, coarse.Session hinge.oracle 1 states workspace ∧
      ∃ state ∈ states, state.converged = true ∧
        coarse.Certificate hinge.oracle (fun weights => (hinge.risk weights).1) 1 state
          workspace := by
  intro hinge
  have begun : coarse.Session hinge.oracle 1 _ _ := .begin 0
  have first := begun.step List.mem_cons_self (outcome_eq_ok (.initial 1) (by decide +kernel))
  have second := first.step (List.mem_append_right _ List.mem_cons_self)
    (outcome_eq_ok (.initial 1) (by decide +kernel))
  refine ⟨_, _, second, _, List.mem_append_right _ List.mem_cons_self, by decide +kernel, ?_⟩
  exact session_certificate coarse_valid one_pos
    (MaxAffineLoss.oracle_represents (by decide)) second _
    (List.mem_append_right _ List.mem_cons_self)

end OptimizerConfig

end

/-!
## Weights with the least objective

Half the squared length bends upwards along every segment, and a risk with supporting slopes
does not bend downwards.  So the objective grows at least by half the squared distance from
the weights where it is least.

The objective weighs the risk against the length of the weights, and weights with nearly the
least objective may be short and have a large risk.  How much larger it can be follows from
their distance from the optimum.
-/

section

namespace Linear

variable {left right : List ℚ} {dimension : Nat} {share : ℚ} {nonnegative : Bool}

/-! ### Segments -/

/-- The point that divides the way from one vector to another. -/
def between (share : ℚ) (left right : List ℚ) : List ℚ :=
  add (scale (1 - share) left) (scale share right)

theorem length_between (equal : left.length = right.length) :
    (between share left right).length = left.length := by
  simp [between, equal]

theorem dot_between (equal : left.length = right.length) (share : ℚ) (vector : List ℚ) :
    dot vector (between share left right) =
      (1 - share) * dot vector left + share * dot vector right := by
  have lengths : (scale (1 - share) left).length = (scale share right).length := by
    simpa using equal
  rw [between, dot_add_right lengths, dot_comm vector, dot_comm vector, dot_scale_left,
    dot_scale_left, dot_comm left, dot_comm right]

/-- Half the squared distance of two vectors in terms of their inner product. -/
theorem halfNorm_sub (equal : left.length = right.length) :
    halfNorm (sub left right) = halfNorm left + halfNorm right - dot left right := by
  simp only [halfNorm_eq, dot_sub_left equal, dot_sub_right equal, dot_comm right left]
  ring

/-- Half the squared length bends upwards along a segment. -/
theorem halfNorm_between (equal : left.length = right.length) (share : ℚ) :
    halfNorm (between share left right) + share * (1 - share) * halfNorm (sub left right) =
      (1 - share) * halfNorm left + share * halfNorm right := by
  have first := dot_between equal share left
  have second := dot_between equal share right
  rw [dot_comm right left] at second
  rw [halfNorm_sub equal]
  simp only [halfNorm_eq]
  rw [dot_between equal, dot_comm _ left, dot_comm _ right, first, second]
  ring

theorem zeros_admissible (nonnegative : Bool) (dimension : Nat) :
    Admissible nonnegative dimension (zeros dimension) := by
  refine ⟨length_zeros dimension, ?_⟩
  intro _ weight member
  rw [List.eq_of_mem_replicate member]

/-- Allowed weights form a convex set. -/
theorem Admissible.between (leftAllowed : Admissible nonnegative dimension left)
    (rightAllowed : Admissible nonnegative dimension right) (share_nonneg : 0 ≤ share)
    (share_le : share ≤ 1) : Admissible nonnegative dimension (between share left right) where
  length_eq := by
    rw [length_between (leftAllowed.length_eq.trans rightAllowed.length_eq.symm),
      leftAllowed.length_eq]
  nonneg := by
    intro asked weight member
    simp only [Linear.between, add, scale, List.zipWith_map] at member
    obtain ⟨position, bounds, rfl⟩ := List.mem_iff_getElem.mp member
    rw [List.getElem_zipWith]
    apply add_nonneg
    · exact mul_nonneg (sub_nonneg.mpr share_le)
        (leftAllowed.nonneg asked _ (List.getElem_mem _))
    · exact mul_nonneg share_nonneg (rightAllowed.nonneg asked _ (List.getElem_mem _))

end Linear

open Linear

/-- A risk that has a supporting slope on a segment lies below its chord there. -/
theorem Supports.risk_between_le {risk : List ℚ → ℚ} {dimension : Nat} {slope left right : List ℚ}
    {share : ℚ} (left_eq : left.length = dimension) (right_eq : right.length = dimension)
    (supports : Supports risk dimension (between share left right) slope)
    (share_nonneg : 0 ≤ share) (share_le : share ≤ 1) :
    risk (between share left right) ≤ (1 - share) * risk left + share * risk right := by
  have equal : left.length = right.length := left_eq.trans right_eq.symm
  have middle_eq : (between share left right).length = left.length := length_between equal
  have atLeft := supports left left_eq
  have atRight := supports right right_eq
  rw [dot_sub_right middle_eq.symm, dot_between equal] at atLeft
  rw [dot_sub_right (equal.symm.trans middle_eq.symm), dot_between equal] at atRight
  have leftShare := mul_le_mul_of_nonneg_left atLeft (sub_nonneg.mpr share_le)
  have rightShare := mul_le_mul_of_nonneg_left atRight share_nonneg
  linarith

section Optimum

variable {risk : List ℚ → ℚ} {tradeoff : ℚ} {nonnegative : Bool} {dimension : Nat}
  {optimum weights : List ℚ}

/-- Allowed weights whose objective no allowed weights undercut. -/
structure Optimal (risk : List ℚ → ℚ) (tradeoff : ℚ) (nonnegative : Bool) (dimension : Nat)
    (optimum : List ℚ) : Prop where
  admissible : Admissible nonnegative dimension optimum
  least : ∀ weights, Admissible nonnegative dimension weights →
    regularized risk tradeoff optimum ≤ regularized risk tradeoff weights

namespace Optimal

/-- The objective exceeds the least one by half the squared distance at least. -/
theorem halfNorm_sub_le (optimal : Optimal risk tradeoff nonnegative dimension optimum)
    (tradeoff_pos : 0 < tradeoff)
    (supported : ∀ middle : List ℚ, middle.length = dimension →
      ∃ slope, Supports risk dimension middle slope)
    (allowed : Admissible nonnegative dimension weights) :
    halfNorm (sub optimum weights) ≤
      regularized risk tradeoff weights - regularized risk tradeoff optimum := by
  -- Were the weights farther away, a short way towards them would lower the objective.
  by_contra tooFar
  have equal := optimal.admissible.length_eq.trans allowed.length_eq.symm
  have least := optimal.least weights allowed
  generalize distance_eq : halfNorm (sub optimum weights) = distance at tooFar
  generalize excess_eq :
    regularized risk tradeoff weights - regularized risk tradeoff optimum = excess at tooFar
  have excess_nonneg : 0 ≤ excess := by linarith
  have distance_pos : 0 < distance := by linarith
  let share := (distance - excess) / (2 * distance)
  have share_eq : share * (2 * distance) = distance - excess := by
    apply div_mul_cancel₀
    positivity
  have share_pos : 0 < share := div_pos (by linarith) (by positivity)
  have share_le : share ≤ 1 := by
    rw [div_le_one (by positivity)]
    linarith
  have onTheWay := optimal.admissible.between allowed share_pos.le share_le
  obtain ⟨slope, supports⟩ := supported _ onTheWay.length_eq
  have lower := optimal.least _ onTheWay
  have chord := supports.risk_between_le optimal.admissible.length_eq allowed.length_eq
    share_pos.le share_le
  have bend := halfNorm_between equal share
  rw [distance_eq] at bend
  have weighted := mul_le_mul_of_nonneg_left chord tradeoff_pos.le
  have descent : 0 ≤ share * (excess - (1 - share) * distance) := by
    rw [← excess_eq]
    simp only [regularized] at lower ⊢
    linarith
  have slow : 0 ≤ excess - (1 - share) * distance := nonneg_of_mul_nonneg_right descent share_pos
  linarith

/-- The objective trades length against risk, so the risk exceeds that of the optimum by what
the objective does and by what the length lacks.  What it lacks is bounded by the distance,
at any rate of exchange from one on. -/
theorem risk_excess_le (optimal : Optimal risk tradeoff nonnegative dimension optimum)
    (tradeoff_pos : 0 < tradeoff)
    (supported : ∀ middle : List ℚ, middle.length = dimension →
      ∃ slope, Supports risk dimension middle slope)
    (allowed : Admissible nonnegative dimension weights) {rate : ℚ} (one_le : 1 ≤ rate) :
    tradeoff * (risk weights - risk optimum) ≤ halfNorm optimum / rate +
      rate * (regularized risk tradeoff weights - regularized risk tradeoff optimum) := by
  have near := optimal.halfNorm_sub_le tradeoff_pos supported allowed
  have equal := optimal.admissible.length_eq.trans allowed.length_eq.symm
  have rate_pos : 0 < rate := by linarith
  have bend := halfNorm_between equal rate
  have length_nonneg := halfNorm_nonneg (between rate optimum weights)
  have lacking : halfNorm optimum - halfNorm weights ≤
      halfNorm optimum / rate + (rate - 1) * halfNorm (sub optimum weights) := by
    rw [div_add' _ _ _ rate_pos.ne', le_div_iff₀ rate_pos]
    linarith
  have paid := mul_le_mul_of_nonneg_left near (sub_nonneg.mpr one_le)
  have trade : tradeoff * (risk weights - risk optimum) =
      regularized risk tradeoff weights - regularized risk tradeoff optimum +
        (halfNorm optimum - halfNorm weights) := by
    simp only [regularized]
    ring
  rw [trade]
  linarith

/-- If the optimum is short and the risk does not exceed that of the optimum by more than two,
it exceeds it by less than twice the square root of the relative excess of the objective. -/
theorem sq_risk_excess_lt (optimal : Optimal risk tradeoff nonnegative dimension optimum)
    (tradeoff_pos : 0 < tradeoff)
    (supported : ∀ middle : List ℚ, middle.length = dimension →
      ∃ slope, Supports risk dimension middle slope)
    (allowed : Admissible nonnegative dimension weights) (short : halfNorm optimum ≤ tradeoff)
    (more : risk optimum < risk weights) (limited : risk weights - risk optimum ≤ 2)
    {epsilon : ℚ} (near : regularized risk tradeoff weights <
      regularized risk tradeoff optimum + tradeoff * epsilon) :
    (risk weights - risk optimum) ^ 2 < 4 * epsilon := by
  have excess_pos : 0 < risk weights - risk optimum := sub_pos.mpr more
  -- This rate makes the length of the optimum pay for half of the excess.
  have one_le : 1 ≤ 2 / (risk weights - risk optimum) := by
    rw [le_div_iff₀ excess_pos]
    linarith
  have bound := optimal.risk_excess_le tradeoff_pos supported allowed one_le
  generalize risk weights - risk optimum = excess at excess_pos bound ⊢
  have half : halfNorm optimum / (2 / excess) ≤ tradeoff * excess / 2 := by
    rw [div_div_eq_mul_div]
    apply div_le_div_of_nonneg_right _ zero_le_two
    exact mul_le_mul_of_nonneg_right short excess_pos.le
  have rest : 2 / excess * (regularized risk tradeoff weights - regularized risk tradeoff optimum) <
      2 / excess * (tradeoff * epsilon) := by
    apply mul_lt_mul_of_pos_left _ (by positivity)
    linarith
  have scaled : tradeoff * excess / 2 < 2 / excess * (tradeoff * epsilon) := by linarith
  rw [div_mul_eq_mul_div, lt_div_iff₀ excess_pos] at scaled
  have cancelled : tradeoff * excess ^ 2 < tradeoff * (4 * epsilon) := by linarith
  exact lt_of_mul_lt_mul_left cancelled tradeoff_pos.le

end Optimal

end Optimum

end

end HingeRank
