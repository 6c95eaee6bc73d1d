import HingeRank.Proofs.Optimizer.Convergence

/-!
# Steps that do not converge cut off their weights

Where the last subproblem was solved up to its tolerance, no plane in the arena exceeds the
lower bound by more than that at the next weights.  The objective of a step that does not
converge exceeds the bound by the accepted gap at least.  What is left between the two is a
depth by which the risk lies above all planes there, whatever the oracle answers.

Where the oracle answers with slopes that support a risk, an earlier plane that is still in the
arena keeps the weights of the two steps apart: between them the slope grows by a fixed
amount.
-/

namespace HingeRank

open Linear

variable {σ : Type}

/-! ## Oracles of any kind -/

/-- There are as many entries as the shape says. -/
def Tensor.IsFilled (array : Tensor ℚ) : Prop := array.entries.length = Tensor.sizeOf array.shape

theorem Tensor.isFilled_vector (entries : List ℚ) : (Tensor.vector entries).IsFilled := by
  simp [Tensor.IsFilled, Tensor.vector, Tensor.sizeOf]

/-- The plane that has the risk of an answer at the weights, and its slope. -/
def LossAnswer.plane (answer : LossAnswer ℚ) (weights : List ℚ) : List ℚ × ℚ :=
  (answer.subgradient.entries, answer.risk - dot answer.subgradient.entries weights)

namespace LossOracle

variable {oracle : LossOracle ℚ σ} {risk : List ℚ → ℚ} {allowed : List ℚ → List ℚ → Prop}

/-- If the oracle answers, then with an array, and with any number as the risk. -/
def AnswersFilled (oracle : LossOracle ℚ σ) : Prop :=
  ∀ weights : List ℚ, weights.length = oracle.dimension → ∀ oracleState answer,
    (oracle.evaluate weights oracleState).1 = .ok answer → answer.subgradient.IsFilled

/-- If the oracle answers, then with the risk and a slope that supports it. -/
def AnswersTruly (oracle : LossOracle ℚ σ) (risk : List ℚ → ℚ) : Prop :=
  ∀ weights : List ℚ, weights.length = oracle.dimension → ∀ oracleState answer,
    (oracle.evaluate weights oracleState).1 = .ok answer →
      answer.risk = risk weights ∧ answer.subgradient.entries.length = oracle.dimension ∧
      Supports risk oracle.dimension weights answer.subgradient.entries

theorem InShape.filled (answers : oracle.InShape) : oracle.AnswersFilled := by
  intro weights weights_eq oracleState answer answered
  obtain ⟨risk, slope, known, -⟩ := answers weights oracleState weights_eq
  cases Except.ok.inj (known.symm.trans answered)
  exact Tensor.isFilled_vector slope

theorem Answers.inShape (answers : oracle.Answers risk allowed) : oracle.InShape := by
  intro weights oracleState weights_eq
  obtain ⟨slope, slope_eq, -, answered⟩ := answers weights weights_eq oracleState
  exact ⟨_, slope, answered, slope_eq⟩

theorem Answers.filled (answers : oracle.Answers risk allowed) : oracle.AnswersFilled :=
  answers.inShape.filled

theorem Answers.truly (answers : oracle.Answers risk (Supports risk oracle.dimension)) :
    oracle.AnswersTruly risk := by
  intro weights weights_eq oracleState answer answered
  obtain ⟨slope, slope_eq, supports, known⟩ := answers weights weights_eq oracleState
  cases Except.ok.inj (known.symm.trans answered)
  exact ⟨rfl, slope_eq, supports⟩

end LossOracle

/-- An answer whose plane joins the arena has a slope of its dimension. -/
theorem PlaneArena.support?_eq_ok {arena extended : PlaneArena ℚ} {answer : LossAnswer ℚ}
    {weights : List ℚ} (filled : answer.subgradient.IsFilled)
    (weights_eq : weights.length = arena.dimension)
    (supported : arena.support? answer weights = .ok extended) :
    answer.subgradient.entries.length = arena.dimension ∧
      extended = arena.push (answer.plane weights).1 (answer.plane weights).2 := by
  rcases answer with ⟨risk, shape, entries⟩
  by_cases fits : shape = [arena.dimension]
  · subst fits
    have slope_eq : entries.length = arena.dimension := by
      simpa [Tensor.IsFilled, Tensor.sizeOf] using filled
    have joins := support?_vector slope_eq weights_eq risk
    rw [Tensor.vector, slope_eq, supported] at joins
    exact ⟨slope_eq, Except.ok.inj joins⟩
  · simp only [support?, add?, if_neg fits] at supported
    cases offset : planeOffset? risk ⟨shape, entries⟩ weights with
    | error fault =>
        rw [offset] at supported
        cases supported
    | ok offset =>
        rw [offset] at supported
        cases supported

/-! ## Cuts -/

/-- What a step does that neither converges nor fails: the answer at its weights adds a plane,
and the model with this plane has a solution. -/
structure Cut where
  weights : List ℚ
  answer : LossAnswer ℚ
  solution : ModelSolution ℚ

namespace Cut

def slope (cut : Cut) : List ℚ := cut.answer.subgradient.entries

def plane (cut : Cut) : List ℚ × ℚ := cut.answer.plane cut.weights

/-- The arena after the plane has joined it and the multipliers have been recorded. -/
def recordedIn (cut : Cut) (arena : PlaneArena ℚ) : PlaneArena ℚ :=
  (arena.push cut.plane.1 cut.plane.2).recordDual cut.solution.dual

end Cut

namespace OptimizerConfig

variable {config : OptimizerConfig ℚ} {oracle : LossOracle ℚ σ} {tradeoff : ℚ}

/-- The cut that the next step makes, if any. -/
def cut? (config : OptimizerConfig ℚ) (oracle : LossOracle ℚ σ) (tradeoff : ℚ)
    (situation : Situation σ) : Option Cut := do
  let (state, workspace) := situation
  let answer ← (oracle.evaluate state.weights workspace.oracleState).1.toOption
  let evaluated := state.evaluated (fun _ => answer.risk) tradeoff
  if evaluated.isAccepted (config.acceptedGap tradeoff) then none
  else
    let arena ← (workspace.arena.support? answer state.weights).toOption
    let solution ← (config.solveModel? tradeoff arena).toOption
    return ⟨state.weights, answer, solution⟩

/-- What a step makes of a situation with the planes of a ledger. -/
inductive Follows (config : OptimizerConfig ℚ) (oracle : LossOracle ℚ σ) (tradeoff : ℚ)
    (before : Situation σ) (ledger : PlaneLedger) : Situation σ → PlaneLedger → Prop
  /-- Without a cut the next weights, the bound and the planes stay. -/
  | stay {after : Situation σ} (uncut : config.cut? oracle tradeoff before = none)
      (weights_eq : after.1.weights = before.1.weights)
      (bound_eq : after.1.lowerBound = before.1.lowerBound) :
      Follows config oracle tradeoff before ledger after ledger
  | cut {after : Situation σ} (cut : Cut)
      (made : config.cut? oracle tradeoff before = some cut)
      (weights_eq : cut.weights = before.1.weights)
      (answered : ∃ oracleState, (oracle.evaluate cut.weights oracleState).1 = .ok cut.answer)
      (aligned : cut.slope.length = ledger.dimension)
      (solved : PlaneModel.Solved ((ledger.append cut.plane.1 cut.plane.2).model tradeoff)
        (config.modelOptions tradeoff (ledger.append cut.plane.1 cut.plane.2)) cut.solution)
      (next_eq : after.1.weights = cut.solution.weights)
      (bound_eq : after.1.lowerBound = max before.1.lowerBound cut.solution.dualValue) :
      Follows config oracle tradeoff before ledger after
        (((ledger.append cut.plane.1 cut.plane.2).use cut.solution.dual).trim
          config.inactivePlaneThreshold)

/-- A step that makes a cut: the gap is not accepted, the plane of the answer joins the arena, and
the model of all planes has a solution. -/
structure Makes (config : OptimizerConfig ℚ) (oracle : LossOracle ℚ σ) (tradeoff : ℚ)
    (situation : Situation σ) (cut : Cut) : Prop where
  made : config.cut? oracle tradeoff situation = some cut
  weights_eq : cut.weights = situation.1.weights
  answered : (oracle.evaluate cut.weights situation.2.oracleState).1 = .ok cut.answer
  rejected : (situation.1.evaluated (fun _ => cut.answer.risk) tradeoff).isAccepted
    (config.acceptedGap tradeoff) = false
  aligned : cut.slope.length = situation.2.arena.dimension
  found : config.solveModel? tradeoff (situation.2.arena.push cut.plane.1 cut.plane.2) =
    .ok cut.solution
  outcome : (config.step oracle tradeoff situation.1 situation.2).outcome =
    .ok { situation.1.evaluated (fun _ => cut.answer.risk) tradeoff with
      weights := cut.solution.weights
      lowerBound := max situation.1.lowerBound cut.solution.dualValue }
  arena_eq : (config.step oracle tradeoff situation.1 situation.2).workspace.arena =
    ((cut.recordedIn situation.2.arena).trim config.inactivePlaneThreshold).2

/-- A step that makes no cut: it leaves the planes alone, and it converges or fails. -/
structure Stays (config : OptimizerConfig ℚ) (oracle : LossOracle ℚ σ) (tradeoff : ℚ)
    (situation : Situation σ) : Prop where
  uncut : config.cut? oracle tradeoff situation = none
  converged : ∀ next, (config.step oracle tradeoff situation.1 situation.2).outcome = .ok next →
    next.converged = true ∧ next.weights = situation.1.weights ∧
      next.lowerBound = situation.1.lowerBound
  arena_eq : (config.step oracle tradeoff situation.1 situation.2).workspace.arena =
    situation.2.arena

section Following

variable {state next : OptimizerState ℚ} {workspace : Workspace ℚ σ} {ledger : PlaneLedger}
  {situation : Situation σ} {answer : LossAnswer ℚ} {problem : Error}

theorem following_of_ok
    (outcome : (config.step oracle tradeoff state workspace).outcome = .ok next) :
    (config.following oracle tradeoff (state, workspace)).1 = next := by
  rw [following, outcome]
  rfl

theorem following_of_error
    (outcome : (config.step oracle tradeoff state workspace).outcome = .error problem) :
    (config.following oracle tradeoff (state, workspace)).1 = state := by
  rw [following, outcome]
  rfl

/-- A plane that joins the arena makes a cut. -/
theorem exists_makes (valid : config.Valid) (tradeoff_pos : 0 < tradeoff)
    (holds : ledger.Matches workspace.arena) (aligned : ledger.Aligned)
    (answered : (oracle.evaluate state.weights workspace.oracleState).1 = .ok answer)
    (rejected : (state.evaluated (fun _ => answer.risk) tradeoff).isAccepted
      (config.acceptedGap tradeoff) = false)
    (slope_eq : answer.subgradient.entries.length = workspace.arena.dimension)
    (supported : workspace.arena.support? answer state.weights = .ok
      (workspace.arena.push (answer.plane state.weights).1 (answer.plane state.weights).2)) :
    ∃ cut, config.Makes oracle tradeoff (state, workspace) cut := by
  obtain ⟨solution, found, -⟩ := solveModel?_solved valid tradeoff_pos
    (holds.append (answer.plane state.weights).1 (answer.plane state.weights).2)
    (aligned.append (slope_eq.trans holds.dimension_eq) _)
  obtain ⟨outcome, arena_eq⟩ := step_rejected valid.computable answered rejected supported found
  refine ⟨⟨state.weights, answer, solution⟩, ?_, rfl, answered, rejected, slope_eq, found, outcome,
    arena_eq⟩
  simp [cut?, answered, Except.toOption, rejected, supported, found]

/-- Whatever the oracle answers, a step makes a cut or stays. -/
theorem makes_or_stays (valid : config.Valid) (tradeoff_pos : 0 < tradeoff)
    (filled : oracle.AnswersFilled) (holds : ledger.Matches situation.2.arena)
    (aligned : ledger.Aligned) (dimension_eq : ledger.dimension = oracle.dimension)
    (weights_eq : situation.1.weights.length = oracle.dimension) :
    (∃ cut, config.Makes oracle tradeoff situation cut) ∨
      config.Stays oracle tradeoff situation := by
  rcases situation with ⟨state, workspace⟩
  cases answered : (oracle.evaluate state.weights workspace.oracleState).1 with
  | error problem =>
      obtain ⟨outcome, arena_eq⟩ := @step_unanswered _ config oracle tradeoff _ _ _ answered
      refine .inr ⟨by simp [cut?, answered, Except.toOption], ?_, arena_eq⟩
      intro next succeeds
      cases outcome.symm.trans succeeds
  | ok answer =>
      cases accepted : (state.evaluated (fun _ => answer.risk) tradeoff).isAccepted
          (config.acceptedGap tradeoff) with
      | true =>
          obtain ⟨outcome, arena_eq⟩ := step_accepted valid.computable answered accepted
          refine .inr ⟨by simp [cut?, answered, Except.toOption, accepted], ?_, arena_eq⟩
          intro next succeeds
          cases outcome.symm.trans succeeds
          exact ⟨rfl, rfl, rfl⟩
      | false =>
          cases supported : workspace.arena.support? answer state.weights with
          | error problem =>
              obtain ⟨outcome, arena_eq⟩ :=
                step_refused valid.computable answered accepted supported
              refine .inr ⟨by simp [cut?, answered, Except.toOption, accepted, supported], ?_,
                arena_eq⟩
              intro next succeeds
              cases outcome.symm.trans succeeds
          | ok extended =>
              have arenaWeights_eq := weights_eq.trans
                (dimension_eq.symm.trans holds.dimension_eq.symm)
              obtain ⟨slope_eq, rfl⟩ := PlaneArena.support?_eq_ok
                (filled state.weights weights_eq workspace.oracleState answer answered)
                arenaWeights_eq supported
              exact .inl (exists_makes valid tradeoff_pos holds aligned answered accepted slope_eq
                supported)

theorem makes_of_cut? (valid : config.Valid) (tradeoff_pos : 0 < tradeoff)
    (filled : oracle.AnswersFilled) (holds : ledger.Matches situation.2.arena)
    (aligned : ledger.Aligned) (dimension_eq : ledger.dimension = oracle.dimension)
    (weights_eq : situation.1.weights.length = oracle.dimension) {cut : Cut}
    (made : config.cut? oracle tradeoff situation = some cut) :
    config.Makes oracle tradeoff situation cut := by
  rcases makes_or_stays valid tradeoff_pos filled holds aligned dimension_eq weights_eq with
    ⟨other, makes⟩ | stays
  · cases makes.made.symm.trans made
    exact makes
  · cases stays.uncut.symm.trans made

/-- Situations keep their weights and their bound where a step stays. -/
theorem Stays.following_eq (stays : config.Stays oracle tradeoff situation) :
    (config.following oracle tradeoff situation).1.weights = situation.1.weights ∧
      (config.following oracle tradeoff situation).1.lowerBound = situation.1.lowerBound := by
  cases outcome : (config.step oracle tradeoff situation.1 situation.2).outcome with
  | error problem =>
      rw [following_of_error outcome]
      exact ⟨rfl, rfl⟩
  | ok next =>
      rw [following_of_ok outcome]
      exact (stays.converged next outcome).2

/-- The solution of a cut solves the model of the ledger with the new plane. -/
theorem Makes.solved (valid : config.Valid) (tradeoff_pos : 0 < tradeoff) {cut : Cut}
    (makes : config.Makes oracle tradeoff situation cut) (holds : ledger.Matches situation.2.arena)
    (aligned : ledger.Aligned) :
    PlaneModel.Solved ((ledger.append cut.plane.1 cut.plane.2).model tradeoff)
      (config.modelOptions tradeoff (ledger.append cut.plane.1 cut.plane.2)) cut.solution := by
  obtain ⟨solution, found, solved⟩ := solveModel?_solved valid tradeoff_pos
    (holds.append cut.plane.1 cut.plane.2)
    (aligned.append (makes.aligned.trans holds.dimension_eq) _)
  cases found.symm.trans makes.found
  exact solved

/-- Whatever the oracle answers, a step leads to a situation with the planes of a ledger. -/
theorem following_follows (valid : config.Valid) (tradeoff_pos : 0 < tradeoff)
    (filled : oracle.AnswersFilled) (holds : ledger.Matches situation.2.arena)
    (aligned : ledger.Aligned) (dimension_eq : ledger.dimension = oracle.dimension)
    (weights_eq : situation.1.weights.length = oracle.dimension) :
    ∃ kept, config.Follows oracle tradeoff situation ledger
        (config.following oracle tradeoff situation) kept ∧
      kept.Matches (config.following oracle tradeoff situation).2.arena := by
  rcases makes_or_stays valid tradeoff_pos filled holds aligned dimension_eq weights_eq with
    ⟨cut, makes⟩ | stays
  · have solved := makes.solved valid tradeoff_pos holds aligned
    have reached := following_of_ok makes.outcome
    refine ⟨_, .cut cut makes.made makes.weights_eq ⟨_, makes.answered⟩
      (makes.aligned.trans holds.dimension_eq) solved ?_ ?_, ?_⟩
    · rw [reached]
    · rw [reached]
    · rw [following, makes.arena_eq]
      exact ((holds.append _ _).use (PlaneLedger.length_dual_of_solved solved)).trim _
  · obtain ⟨weights_eq, bound_eq⟩ := stays.following_eq
    refine ⟨ledger, .stay stays.uncut weights_eq bound_eq, ?_⟩
    rw [following, stays.arena_eq]
    exact holds

end Following

/-- The situation after a number of steps.  A step that fails is made again from the same
state. -/
def situationAfter (config : OptimizerConfig ℚ) (oracle : LossOracle ℚ σ) (tradeoff : ℚ)
    (oracleState : σ) (steps : Nat) : Situation σ :=
  (config.following oracle tradeoff)^[steps] (beginning oracle oracleState)

/-- The cuts that were made in so many steps, in their order. -/
def cutsBefore (config : OptimizerConfig ℚ) (oracle : LossOracle ℚ σ) (tradeoff : ℚ)
    (oracleState : σ) (steps : Nat) : List Cut :=
  (List.range steps).filterMap fun earlier =>
    config.cut? oracle tradeoff (config.situationAfter oracle tradeoff oracleState earlier)

/-! ## What the steps before have left behind -/

/-- What is known of weights, bound and planes after some cuts. -/
structure Tracks (config : OptimizerConfig ℚ) (oracle : LossOracle ℚ σ) (tradeoff : ℚ)
    (cuts : List Cut) (state : OptimizerState ℚ) (ledger : PlaneLedger) : Prop where
  dimension_eq : ledger.dimension = oracle.dimension
  weights_eq : state.weights.length = oracle.dimension
  aligned : ledger.Aligned
  /-- Only the zero plane and the planes of cuts are kept, each of them once. -/
  kept : ledger.planes.Sublist ((zeros oracle.dimension, 0) :: cuts.map (·.plane))
  answered : ∀ cut ∈ cuts, cut.weights.length = oracle.dimension ∧
    ∃ oracleState, (oracle.evaluate cut.weights oracleState).1 = .ok cut.answer
  /-- The latest solution comes near all planes if it was found in time. -/
  near : (∀ cut, cuts.getLast? = some cut → cut.solution.iterations < config.qpMaxIterations) →
    ledger.Near tradeoff (config.subproblemTolerance tradeoff) state.weights state.lowerBound

theorem initial_tracks (valid : config.Valid) (tradeoff_pos : 0 < tradeoff) :
    config.Tracks oracle tradeoff [] (.initial oracle.dimension) (.initial oracle.dimension) where
  dimension_eq := rfl
  weights_eq := length_zeros _
  aligned := PlaneLedger.initial_aligned _
  kept := List.Sublist.refl _
  answered := by simp
  near := fun _ => PlaneLedger.initial_near (valid.subproblemTolerance_pos tradeoff_pos).le _ _

/-- A cut takes its place behind the others. -/
theorem Follows.tracks (tradeoff_pos : 0 < tradeoff) {cuts : List Cut} {before after : Situation σ}
    {ledger kept : PlaneLedger}
    (follows : config.Follows oracle tradeoff before ledger after kept)
    (tracks : config.Tracks oracle tradeoff cuts before.1 ledger) :
    config.Tracks oracle tradeoff (cuts ++ (config.cut? oracle tradeoff before).toList) after.1
      kept := by
  cases follows with
  | stay uncut weights_eq bound_eq =>
      rw [uncut, Option.toList_none, List.append_nil]
      exact { tracks with
        weights_eq := weights_eq ▸ tracks.weights_eq
        near := by
          rw [weights_eq, bound_eq]
          exact tracks.near }
  | cut cut made weights_eq answered aligned solved next_eq bound_eq =>
      -- What was known of the old bound is not needed: the new solution is near all planes.
      rw [made, Option.toList_some]
      have nonempty := ledger.append_records_ne_nil cut.plane.1 cut.plane.2
      have extendedAligned := tracks.aligned.append aligned cut.plane.2
      have dualLength := PlaneLedger.length_dual_of_solved solved
      have fewer := PlaneLedger.planes_trim_sublist
        ((ledger.append cut.plane.1 cut.plane.2).use cut.solution.dual)
        config.inactivePlaneThreshold
      rw [PlaneLedger.planes_use dualLength] at fewer
      constructor
      case dimension_eq => exact tracks.dimension_eq
      case weights_eq =>
        rw [next_eq, ← tracks.dimension_eq]
        exact PlaneLedger.length_weights_of_solved extendedAligned solved
      case aligned => exact extendedAligned.of_planes fewer.subset
      case kept =>
        rw [List.map_append, ← List.cons_append]
        rw [PlaneLedger.planes_append] at fewer
        exact fewer.trans (tracks.kept.append_right _)
      case answered =>
        intro other member
        rcases List.mem_append.mp member with old | new
        · exact tracks.answered other old
        · rw [List.mem_singleton.mp new]
          exact ⟨weights_eq ▸ tracks.weights_eq, answered⟩
      case near =>
        intro early
        have near := PlaneLedger.near_of_solved extendedAligned nonempty tradeoff_pos solved
          (early cut List.getLast?_concat)
        rw [next_eq, bound_eq]
        exact near.mono fewer.subset (le_max_right _ _)

theorem situationAfter_succ (config : OptimizerConfig ℚ) (oracle : LossOracle ℚ σ) (tradeoff : ℚ)
    (oracleState : σ) (steps : Nat) :
    config.situationAfter oracle tradeoff oracleState (steps + 1) =
      config.following oracle tradeoff (config.situationAfter oracle tradeoff oracleState steps) :=
  Function.iterate_succ_apply' _ _ _

/-- Every situation that a run visits is reached in this way. -/
theorem Visited.exists_situationAfter {oracleState : σ} {reached : Situation σ}
    (visited : config.Visited oracle tradeoff oracleState reached) :
    ∃ steps, reached = config.situationAfter oracle tradeoff oracleState steps := by
  obtain ⟨steps, reached_eq, -⟩ := visited.exists_iterate
  exact ⟨steps, reached_eq⟩

theorem cutsBefore_succ (config : OptimizerConfig ℚ) (oracle : LossOracle ℚ σ) (tradeoff : ℚ)
    (oracleState : σ) (steps : Nat) :
    config.cutsBefore oracle tradeoff oracleState (steps + 1) =
      config.cutsBefore oracle tradeoff oracleState steps ++
        (config.cut? oracle tradeoff
          (config.situationAfter oracle tradeoff oracleState steps)).toList := by
  rw [cutsBefore, List.range_succ, List.filterMap_append]
  cases made : config.cut? oracle tradeoff
      (config.situationAfter oracle tradeoff oracleState steps) with
  | none => simp [cutsBefore, made]
  | some cut => simp [cutsBefore, made]

/-- What holds at the beginning and is kept by every step, together with what is known anyway,
holds after any number of steps. -/
theorem exists_ledger (valid : config.Valid) (tradeoff_pos : 0 < tradeoff)
    (filled : oracle.AnswersFilled) (oracleState : σ)
    (property : List Cut → OptimizerState ℚ → PlaneLedger → Prop)
    (begins : property [] (.initial oracle.dimension) (.initial oracle.dimension)) (steps : Nat)
    (keeps : ∀ earlier < steps, ∀ ledger kept,
      let situation := config.situationAfter oracle tradeoff oracleState earlier
      let cuts := config.cutsBefore oracle tradeoff oracleState earlier
      let after := config.following oracle tradeoff situation
      ledger.Matches situation.2.arena → config.Tracks oracle tradeoff cuts situation.1 ledger →
      config.Follows oracle tradeoff situation ledger after kept →
      property cuts situation.1 ledger →
      property (cuts ++ (config.cut? oracle tradeoff situation).toList) after.1 kept) :
    ∃ ledger : PlaneLedger,
      ledger.Matches (config.situationAfter oracle tradeoff oracleState steps).2.arena ∧
      config.Tracks oracle tradeoff (config.cutsBefore oracle tradeoff oracleState steps)
        (config.situationAfter oracle tradeoff oracleState steps).1 ledger ∧
      property (config.cutsBefore oracle tradeoff oracleState steps)
        (config.situationAfter oracle tradeoff oracleState steps).1 ledger := by
  induction steps with
  | zero => exact ⟨_, .initial _ _, initial_tracks valid tradeoff_pos, begins⟩
  | succ steps ih =>
      obtain ⟨ledger, holds, tracks, known⟩ :=
        ih fun earlier before => keeps earlier (Nat.lt_succ_of_lt before)
      obtain ⟨kept, follows, keptHolds⟩ := following_follows valid tradeoff_pos filled holds
        tracks.aligned tracks.dimension_eq tracks.weights_eq
      rw [cutsBefore_succ, situationAfter_succ]
      exact ⟨kept, keptHolds, follows.tracks tradeoff_pos tracks,
        keeps steps (Nat.lt_succ_self steps) ledger kept holds tracks follows known⟩

theorem exists_tracks (valid : config.Valid) (tradeoff_pos : 0 < tradeoff)
    (filled : oracle.AnswersFilled) (oracleState : σ) (steps : Nat) :
    ∃ ledger : PlaneLedger,
      ledger.Matches (config.situationAfter oracle tradeoff oracleState steps).2.arena ∧
      config.Tracks oracle tradeoff (config.cutsBefore oracle tradeoff oracleState steps)
        (config.situationAfter oracle tradeoff oracleState steps).1 ledger := by
  obtain ⟨ledger, holds, tracks, -⟩ := exists_ledger valid tradeoff_pos filled oracleState
    (fun _ _ _ => True) trivial steps fun _ _ _ _ _ _ _ _ => trivial
  exact ⟨ledger, holds, tracks⟩

/-! ## The depth of a cut -/

/-- What is left of the accepted gap beyond the tolerance of subproblems, in units of the
tradeoff. -/
def cutDepth (config : OptimizerConfig ℚ) : ℚ := config.epsilon * (1 - config.qpEpsilon)

theorem cutDepth_pos (valid : config.Valid) (fine : config.qpEpsilon < 1) : 0 < config.cutDepth :=
  mul_pos valid.epsilon_pos (sub_pos.mpr fine)

/-- Where the gap is not accepted, the risk lies above all planes by the depth. -/
theorem add_cutDepth_le (tradeoff_pos : 0 < tradeoff) {state : OptimizerState ℚ}
    {ledger : PlaneLedger} {risk : List ℚ → ℚ}
    (near : ledger.Near tradeoff (config.subproblemTolerance tradeoff) state.weights
      state.lowerBound)
    (rejected : (state.evaluated risk tradeoff).isAccepted (config.acceptedGap tradeoff) = false)
    {plane : List ℚ × ℚ} (member : plane ∈ ledger.planes) :
    dot plane.1 state.weights + plane.2 + config.cutDepth ≤ risk state.weights := by
  have above := add_gap_le_of_near near rejected member
  have depth_eq : config.acceptedGap tradeoff - config.subproblemTolerance tradeoff =
      tradeoff * config.cutDepth := by
    rw [acceptedGap, subproblemTolerance, cutDepth]
    ring
  rw [depth_eq, ← mul_add] at above
  exact le_of_mul_le_mul_left above tradeoff_pos

end OptimizerConfig

/-- A plane that touches the risk elsewhere and lies below it by some depth at the weights is
that much less steep on the way between the two. -/
theorem Supports.le_dot_sub {risk : List ℚ → ℚ} {dimension : Nat}
    {weights others slope otherSlope : List ℚ} {depth : ℚ}
    (supports : Supports risk dimension weights slope) (weights_eq : weights.length = dimension)
    (others_eq : others.length = dimension) (slopes : slope.length = otherSlope.length)
    (below : dot otherSlope weights + (risk others - dot otherSlope others) + depth ≤
      risk weights) :
    depth ≤ dot (sub slope otherSlope) (sub weights others) := by
  have touches := supports others others_eq
  rw [dot_sub_right (others_eq.trans weights_eq.symm)] at touches
  rw [dot_sub_right (weights_eq.trans others_eq.symm), dot_sub_left slopes, dot_sub_left slopes]
  linarith

namespace OptimizerConfig

variable {config : OptimizerConfig ℚ} {oracle : LossOracle ℚ σ} {tradeoff : ℚ}

/-- A step with an answer that does not converge has not accepted the gap. -/
theorem rejected_of_unconverged (computable : config.obstacles = .none)
    {state : OptimizerState ℚ} {workspace : Workspace ℚ σ} {answer : LossAnswer ℚ}
    (answered : (oracle.evaluate state.weights workspace.oracleState).1 = .ok answer)
    (unconverged : ∀ next, (config.step oracle tradeoff state workspace).outcome = .ok next →
      next.converged = false) :
    (state.evaluated (fun _ => answer.risk) tradeoff).isAccepted (config.acceptedGap tradeoff) =
      false := by
  by_contra notFalse
  have accepted := Bool.not_eq_false _ ▸ notFalse
  obtain ⟨outcome, -⟩ := step_accepted computable answered accepted
  cases unconverged _ outcome

/-- Weights at which the risk lies above the plane of an earlier cut are others than those of
the cut, and so is the slope there. -/
theorem Tracks.apart {cuts : List Cut} {state : OptimizerState ℚ} {ledger : PlaneLedger}
    (tracks : config.Tracks oracle tradeoff cuts state ledger) {risk : List ℚ → ℚ}
    (truly : oracle.AnswersTruly risk) {oracleState : σ} {answer : LossAnswer ℚ}
    (answered : (oracle.evaluate state.weights oracleState).1 = .ok answer) {cut : Cut}
    (member : cut ∈ cuts) {depth : ℚ} (positive : 0 < depth)
    (below : dot cut.plane.1 state.weights + cut.plane.2 + depth ≤ answer.risk) :
    depth ≤ dot (sub answer.subgradient.entries cut.slope) (sub state.weights cut.weights) ∧
      state.weights ≠ cut.weights ∧ answer.subgradient.entries ≠ cut.slope := by
  obtain ⟨cutWeights_eq, cutState, cutAnswered⟩ := tracks.answered cut member
  obtain ⟨risk_eq, slope_eq, supports⟩ :=
    truly state.weights tracks.weights_eq oracleState answer answered
  obtain ⟨cutRisk_eq, cutSlope_eq, -⟩ :=
    truly cut.weights cutWeights_eq cutState cut.answer cutAnswered
  have above : dot cut.slope state.weights + (cut.answer.risk - dot cut.slope cut.weights) +
      depth ≤ answer.risk := below
  rw [cutRisk_eq, risk_eq] at above
  have apart := supports.le_dot_sub tracks.weights_eq cutWeights_eq
    (slope_eq.trans cutSlope_eq.symm) above
  refine ⟨apart, ?_, ?_⟩
  · intro same
    rw [same, dot_sub_right rfl, sub_self] at apart
    exact absurd apart positive.not_ge
  · intro same
    rw [same] at apart
    change depth ≤ dot (sub cut.slope cut.slope) _ at apart
    rw [dot_sub_left rfl, sub_self] at apart
    exact absurd apart positive.not_ge

/-- If there are as many planes as there have been, none has been dropped. -/
theorem Tracks.plane_mem {cuts : List Cut} {state : OptimizerState ℚ} {ledger : PlaneLedger}
    (tracks : config.Tracks oracle tradeoff cuts state ledger)
    (all : ledger.planes.length = cuts.length + 1) {cut : Cut} (member : cut ∈ cuts) :
    cut.plane ∈ ledger.planes := by
  rw [tracks.kept.eq_of_length (by simpa using all)]
  exact List.mem_cons_of_mem _ (List.mem_map_of_mem member)

/-- **Steps that do not converge cut off their weights by a fixed depth**, provided that the
latest subproblem was solved up to its tolerance.  Whatever the oracle answers, the risk lies
above all planes there are by the depth, so that none of them is added again.  If its slopes
support a risk, then from the weights of an earlier cut, as long as its plane is there, to the
present ones the slope grows, so that neither of the two is the same again.  If no plane has
been dropped this holds for all cuts. -/
theorem step_cuts_off (valid : config.Valid) (fine : config.qpEpsilon < 1)
    (tradeoff_pos : 0 < tradeoff) (filled : oracle.AnswersFilled) (oracleState : σ) (steps : Nat)
    {answer : LossAnswer ℚ} :
    let cuts := config.cutsBefore oracle tradeoff oracleState steps
    let situation := config.situationAfter oracle tradeoff oracleState steps
    let weights := situation.1.weights
    let planes := situation.2.arena.gradients.zip situation.2.arena.offsets
    let depth := config.epsilon * (1 - config.qpEpsilon)
    (∀ cut, cuts.getLast? = some cut → cut.solution.iterations < config.qpMaxIterations) →
    (oracle.evaluate weights situation.2.oracleState).1 = .ok answer →
    (∀ next, (config.step oracle tradeoff situation.1 situation.2).outcome = .ok next →
      next.converged = false) →
    0 < depth ∧
      (∀ plane ∈ planes, dot plane.1 weights + plane.2 + depth ≤ answer.risk) ∧
      answer.plane weights ∉ planes ∧
      (∀ risk, oracle.AnswersTruly risk → ∀ cut ∈ cuts, cut.plane ∈ planes →
        depth ≤ dot (sub answer.subgradient.entries cut.slope) (sub weights cut.weights) ∧
          weights ≠ cut.weights ∧ answer.subgradient.entries ≠ cut.slope) ∧
      (planes.length = cuts.length + 1 → ∀ cut ∈ cuts, cut.plane ∈ planes) := by
  intro cuts situation weights planes depth early answered unconverged
  obtain ⟨ledger, holds, tracks⟩ := exists_tracks valid tradeoff_pos filled oracleState steps
  have planes_eq : planes = ledger.planes := holds.planes_eq
  have rejected := rejected_of_unconverged valid.computable answered unconverged
  have positive : 0 < depth := cutDepth_pos valid fine
  have below : ∀ plane ∈ planes, dot plane.1 weights + plane.2 + depth ≤ answer.risk := by
    intro plane member
    exact add_cutDepth_le tradeoff_pos (tracks.near early) rejected (planes_eq ▸ member)
  refine ⟨positive, below, ?_, ?_, ?_⟩
  · intro member
    have above := below _ member
    rw [LossAnswer.plane, add_sub_cancel] at above
    exact absurd above (lt_add_of_pos_right _ positive).not_ge
  · intro risk truly cut cutMem member
    exact tracks.apart truly answered cutMem positive (below _ member)
  · intro all cut cutMem
    rw [planes_eq] at all ⊢
    exact tracks.plane_mem all cutMem

/-- A configuration that drops planes at once. -/
def eager : OptimizerConfig ℚ := { coarse with inactivePlaneThreshold := 1 }

theorem eager_valid : eager.Valid where
  epsilon_pos := coarse_valid.epsilon_pos
  qpEpsilon_pos := coarse_valid.qpEpsilon_pos
  qpMaxIterations_pos := coarse_valid.qpMaxIterations_pos
  inactivePlaneThreshold_pos := le_rfl
  maxSeconds_pos := coarse_valid.maxSeconds_pos
  computable := rfl

/-- After two steps the plane of the first one has been dropped and that of the second one is
still there. -/
theorem step_cuts_off_dropped_plane :
    let loss : MaxAffineLoss ℚ := ⟨1, [([-1], 1), ([-3], 2), ([1], -1 / 2)]⟩
    let cuts := eager.cutsBefore loss.oracle 1 0 2
    let situation := eager.situationAfter loss.oracle 1 0 2
    let planes := situation.2.arena.gradients.zip situation.2.arena.offsets
    (eager.Valid ∧ eager.qpEpsilon < 1 ∧ (0 : ℚ) < 1 ∧ loss.oracle.AnswersFilled ∧
        loss.oracle.AnswersTruly fun weights => (loss.risk weights).1) ∧
      cuts.map (·.plane) = [([-3], 2), ([-1], 1)] ∧ planes = [([0], 0), ([-1], 1)] ∧
      cuts.map (·.solution.iterations) = [1, 5] ∧ situation.1.weights = [1] ∧
      (eager.step loss.oracle 1 situation.1 situation.2).outcome.toOption.map (·.converged) =
        some false ∧
      (∀ plane ∈ planes, dot plane.1 [1] + plane.2 + 1 / 100 * (1 - 1 / 10) ≤ 1 / 2) ∧
      ∃ cut ∈ cuts, cut.plane ∈ planes ∧
        1 / 100 * (1 - 1 / 10) ≤ dot (sub [1] cut.slope) (sub [1] cut.weights) := by
  intro loss cuts situation planes
  have answers := (@MaxAffineLoss.oracle_represents loss (by decide)).answers
  have fine : eager.qpEpsilon < 1 := by norm_num [eager, coarse]
  have weights_eq : situation.1.weights = [1] := by decide +kernel
  have cuts_eq : cuts.map (·.plane) = [([-3], 2), ([-1], 1)] := by decide +kernel
  have planes_eq : planes = [([0], 0), ([-1], 1)] := by decide +kernel
  have iterations_eq : cuts.map (·.solution.iterations) = [1, 5] := by decide +kernel
  have goesOn : (eager.step loss.oracle 1 situation.1 situation.2).outcome.toOption.map
      (·.converged) = some false := by
    decide +kernel
  let reply := (loss.oracle.evaluate situation.1.weights situation.2.oracleState).1
  have answered : reply = .ok (reply.toOption.getD ⟨0, .vector []⟩) :=
    outcome_eq_ok _ (by decide +kernel)
  have risk_eq : (reply.toOption.getD ⟨0, .vector []⟩).risk = 1 / 2 := by decide +kernel
  have slope_eq : (reply.toOption.getD ⟨0, .vector []⟩).subgradient.entries = [1] := by
    decide +kernel
  have early : ∀ cut, cuts.getLast? = some cut → cut.solution.iterations < 10 := by
    intro cut last
    have listed : cut.solution.iterations ∈ cuts.map (·.solution.iterations) :=
      List.mem_map_of_mem (List.mem_of_getLast? last)
    rw [iterations_eq] at listed
    exact (by decide : ∀ iterations ∈ [1, 5], iterations < 10) _ listed
  have unconverged : ∀ next,
      (eager.step loss.oracle 1 situation.1 situation.2).outcome = .ok next →
        next.converged = false := by
    intro next outcome
    rw [outcome] at goesOn
    exact Option.some.inj goesOn
  obtain ⟨-, below, -, apart, -⟩ := step_cuts_off eager_valid fine one_pos answers.filled 0 2
    early answered unconverged
  have depth_eq : eager.epsilon * (1 - eager.qpEpsilon) = 1 / 100 * (1 - 1 / 10) := rfl
  rw [risk_eq] at below
  rw [slope_eq] at apart
  change ∀ plane ∈ planes, dot plane.1 situation.1.weights + plane.2 + _ ≤ _ at below
  rw [weights_eq, depth_eq] at below
  refine ⟨⟨eager_valid, fine, one_pos, answers.filled, answers.truly⟩, cuts_eq, planes_eq,
    iterations_eq, weights_eq, goesOn, below, ?_⟩
  have made : ([-1], 1) ∈ cuts.map (·.plane) := by simp [cuts_eq]
  obtain ⟨cut, cutMem, plane_eq⟩ := List.mem_map.mp made
  have stillThere : cut.plane ∈ planes := by simp [plane_eq, planes_eq]
  have grows := (apart _ answers.truly cut cutMem stillThere).1
  change _ ≤ dot (sub [1] cut.slope) (sub situation.1.weights cut.weights) at grows
  rw [weights_eq, depth_eq] at grows
  exact ⟨cut, cutMem, stillThere, grows⟩

end OptimizerConfig

end HingeRank
