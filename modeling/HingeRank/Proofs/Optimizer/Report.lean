import Mathlib
import HingeRank.Loss.Scripted
import HingeRank.Proofs.Optimizer.Depth

/-!
# Reports are coherent

A report can be checked against the calls of the oracle, and the check succeeds whatever the oracle
has answered: even answers that belong to no risk at all are reported faithfully.

Every step takes a record of one more evaluation, and a bound goes into the history along with it.
The state, the history and the evaluations therefore tell the same story after every step.  What a
run reports at its end is read off from them.
-/

namespace HingeRank

open Linear

/-! ## The first of the best evaluations -/

/-- No evaluation has a smaller objective, and none of the earlier ones has the same. -/
def Evaluated.IsFirstBest (best : Evaluated ℚ) (evaluations : List (Evaluated ℚ)) : Prop :=
  ∃ before after, evaluations = before ++ best :: after ∧
    (∀ earlier ∈ before, best.objective < earlier.objective) ∧
    ∀ later ∈ after, best.objective ≤ later.objective

namespace Evaluated.IsFirstBest

variable {best : Evaluated ℚ} {evaluations : List (Evaluated ℚ)}

theorem mem (firstBest : best.IsFirstBest evaluations) : best ∈ evaluations := by
  obtain ⟨before, after, rfl, -, -⟩ := firstBest
  exact List.mem_append_right _ List.mem_cons_self

theorem isLeast (firstBest : best.IsFirstBest evaluations) :
    IsLeast {objective | objective ∈ evaluations.map (·.objective)} best.objective := by
  refine ⟨List.mem_map_of_mem firstBest.mem, ?_⟩
  obtain ⟨before, after, rfl, earlier, later⟩ := firstBest
  intro objective member
  obtain ⟨evaluation, evaluationMem, rfl⟩ := List.mem_map.mp member
  rcases List.mem_append.mp evaluationMem with first | last
  · exact (earlier evaluation first).le
  · rcases List.mem_cons.mp last with rfl | last
    · exact le_rfl
    · exact later evaluation last

/-- A smaller objective replaces what was best. -/
theorem append_of_lt (firstBest : best.IsFirstBest evaluations) {new : Evaluated ℚ}
    (better : new.objective < best.objective) : new.IsFirstBest (evaluations ++ [new]) := by
  refine ⟨evaluations, [], rfl, ?_, by simp⟩
  intro earlier member
  exact better.trans_le (firstBest.isLeast.2 (List.mem_map_of_mem member))

theorem append_of_le (firstBest : best.IsFirstBest evaluations) {new : Evaluated ℚ}
    (notBetter : best.objective ≤ new.objective) : best.IsFirstBest (evaluations ++ [new]) := by
  obtain ⟨before, after, rfl, earlier, later⟩ := firstBest
  refine ⟨before, after ++ [new], by simp, earlier, ?_⟩
  intro evaluation member
  rcases List.mem_append.mp member with old | last
  · exact later evaluation old
  · rw [List.mem_singleton.mp last]
    exact notBetter

end Evaluated.IsFirstBest

namespace OptimizerState

/-- Improving step by step leads to the first of the best evaluations. -/
theorem foldl_improve {evaluations : List (Evaluated ℚ)} (nonempty : evaluations ≠ []) :
    ∃ best, evaluations.foldl improve none = some best ∧ best.IsFirstBest evaluations := by
  induction evaluations using List.reverseRecOn with
  | nil => exact absurd rfl nonempty
  | append_singleton evaluations new ih =>
      rw [List.foldl_concat]
      by_cases only : evaluations = []
      · subst only
        exact ⟨new, by simp [improve], [], [], rfl, by simp, by simp⟩
      · obtain ⟨best, improved, firstBest⟩ := ih only
        rw [improved, improve]
        by_cases better : new.objective < best.objective
        · exact ⟨new, if_pos better, firstBest.append_of_lt better⟩
        · exact ⟨best, if_neg better, firstBest.append_of_le (not_lt.mp better)⟩

end OptimizerState

/-! ## Histories -/

/-- The bound after the last step of a history, zero before the first one. -/
def boundAfter (history : List (ℚ × ℚ)) : ℚ := (history.map (·.2)).getLast?.getD 0

/-- At the evaluation with this number, counted from zero, the best objective so far exceeds the
bound that was known before by less than what is accepted. -/
def ClosesGap (history : List (ℚ × ℚ)) (accepted : ℚ) (number : Nat) : Prop :=
  ∃ best, IsLeast {objective | objective ∈ (history.take (number + 1)).map (·.1)} best ∧
    best - boundAfter (history.take number) < accepted

/-- What follows later does not matter. -/
theorem closesGap_append {history : List (ℚ × ℚ)} {number : Nat}
    (earlier : number < history.length) (entry : ℚ × ℚ) (accepted : ℚ) :
    ClosesGap (history ++ [entry]) accepted number ↔ ClosesGap history accepted number := by
  simp only [ClosesGap, List.take_append_of_le_length (Nat.succ_le_of_lt earlier),
    List.take_append_of_le_length earlier.le]

theorem closesGap_last {history : List (ℚ × ℚ)} {objective bound accepted best : ℚ}
    (least : IsLeast {known | known ∈ history.map (·.1) ++ [objective]} best) :
    ClosesGap (history ++ [(objective, bound)]) accepted history.length ↔
      best - boundAfter history < accepted := by
  have all : (history ++ [(objective, bound)]).take (history.length + 1) =
      history ++ [(objective, bound)] := List.take_of_length_le (by simp)
  rw [ClosesGap, all, List.take_left, List.map_append]
  constructor
  · rintro ⟨other, otherLeast, close⟩
    rw [least.unique otherLeast]
    exact close
  · intro close
    exact ⟨best, least, close⟩

/-- A bound that is not lower than the last one can be appended. -/
theorem bounds_append {history : List (ℚ × ℚ)} (ascend : (0 :: history.map (·.2)).Pairwise (· ≤ ·))
    {entry : ℚ × ℚ} (notLower : boundAfter history ≤ entry.2) :
    (0 :: (history ++ [entry]).map (·.2)).Pairwise (· ≤ ·) := by
  have last : (0 :: history.map (·.2)).getLast? = some (boundAfter history) := List.getLast?_cons
  obtain ⟨others, bounds_eq⟩ := List.getLast?_eq_some_iff.mp last
  rw [List.map_append, ← List.cons_append, List.map_singleton]
  refine List.pairwise_append.mpr ⟨ascend, List.pairwise_singleton _ _, ?_⟩
  intro bound member latest latestMem
  rw [List.mem_singleton.mp latestMem]
  refine le_trans ?_ notLower
  rw [bounds_eq] at ascend member
  rcases List.mem_append.mp member with old | lastMem
  · exact (List.pairwise_append.mp ascend).2.2 bound old _ List.mem_cons_self
  · exact (List.mem_singleton.mp lastMem).le

/-! ## What every step records -/

namespace OptimizerState

variable {state : OptimizerState ℚ} {tradeoff risk : ℚ}

/-- The evaluation at the weights of a state where the oracle answers with this risk. -/
def evaluation (state : OptimizerState ℚ) (tradeoff risk : ℚ) : Evaluated ℚ :=
  ⟨state.weights, halfNorm state.weights + tradeoff * risk, risk⟩

end OptimizerState

namespace OptimizerConfig

variable {σ : Type} {config : OptimizerConfig ℚ} {oracle : LossOracle ℚ σ} {tradeoff : ℚ}

/-- What a step makes of a state where the oracle answers with this risk. -/
inductive Proceeds (config : OptimizerConfig ℚ) (tradeoff risk : ℚ) (state : OptimizerState ℚ) :
    OptimizerState ℚ → Prop
  | converge
      (accepted : (state.evaluated (fun _ => risk) tradeoff).isAccepted
        (config.acceptedGap tradeoff) = true) :
      Proceeds config tradeoff risk state
        { state.evaluated (fun _ => risk) tradeoff with stopReason := some .converged }
  | descend (weights : List ℚ) (bound : ℚ)
      (rejected : (state.evaluated (fun _ => risk) tradeoff).isAccepted
        (config.acceptedGap tradeoff) = false) :
      Proceeds config tradeoff risk state
        { state.evaluated (fun _ => risk) tradeoff with
          weights
          lowerBound := max state.lowerBound bound }

namespace Proceeds

variable {state next : OptimizerState ℚ} {risk : ℚ}

theorem iteration_eq (proceeds : config.Proceeds tradeoff risk state next) :
    next.iteration = state.iteration + 1 := by
  cases proceeds <;> rfl

theorem best_eq (proceeds : config.Proceeds tradeoff risk state next) :
    next.best = OptimizerState.improve state.best (state.evaluation tradeoff risk) := by
  cases proceeds <;> rfl

theorem historyEntry_eq (proceeds : config.Proceeds tradeoff risk state next) :
    Run.historyEntry next = [((state.evaluation tradeoff risk).objective, next.lowerBound)] := by
  cases proceeds <;> rfl

theorem lowerBound_le (proceeds : config.Proceeds tradeoff risk state next) :
    state.lowerBound ≤ next.lowerBound := by
  cases proceeds with
  | converge accepted => exact le_rfl
  | descend weights bound rejected => exact le_max_left _ _

theorem converged_eq (proceeds : config.Proceeds tradeoff risk state next)
    (unconverged : state.converged = false) :
    next.converged = (state.evaluated (fun _ => risk) tradeoff).isAccepted
      (config.acceptedGap tradeoff) := by
  cases proceeds with
  | converge accepted =>
      rw [accepted]
      rfl
  | descend weights bound rejected =>
      rw [rejected]
      exact unconverged

theorem stopReason_cases (proceeds : config.Proceeds tradeoff risk state next)
    (going : state.stopReason = none) :
    next.stopReason = none ∨ next.stopReason = some .converged := by
  cases proceeds with
  | converge accepted => exact .inr rfl
  | descend weights bound rejected => exact .inl going

end Proceeds

/-- With an oracle that answers in shape a step succeeds, whatever the answer is. -/
theorem step_proceeds (valid : config.Valid) (tradeoff_pos : 0 < tradeoff)
    (answers : oracle.InShape) {state : OptimizerState ℚ} {workspace : Workspace ℚ σ}
    {ledger : PlaneLedger} (holds : ledger.Matches workspace.arena) (aligned : ledger.Aligned)
    (dimension_eq : ledger.dimension = oracle.dimension)
    (weights_eq : state.weights.length = oracle.dimension) :
    ∃ answer next, (oracle.evaluate state.weights workspace.oracleState).1 = .ok answer ∧
      (config.step oracle tradeoff state workspace).outcome = .ok next ∧
      config.Proceeds tradeoff answer.risk state next := by
  obtain ⟨risk, slope, answered, slope_eq⟩ :=
    answers state.weights workspace.oracleState weights_eq
  have arena_eq := holds.dimension_eq.trans dimension_eq
  cases accepted : (state.evaluated (fun _ => risk) tradeoff).isAccepted
      (config.acceptedGap tradeoff) with
  | true =>
      have outcome := (step_accepted valid.computable answered accepted).1
      exact ⟨_, _, answered, outcome, .converge accepted⟩
  | false =>
      have supported := PlaneArena.support?_vector (slope_eq.trans arena_eq.symm)
        (weights_eq.trans arena_eq.symm) risk
      obtain ⟨cut, makes⟩ := exists_makes valid tradeoff_pos holds aligned answered accepted
        (slope_eq.trans arena_eq.symm) supported
      have cutAnswered := makes.answered
      rw [makes.weights_eq] at cutAnswered
      exact ⟨cut.answer, _, cutAnswered, makes.outcome, .descend _ _ makes.rejected⟩

/-- The evaluations and the history after some steps, and the state that they have led to. -/
structure Documents (config : OptimizerConfig ℚ) (tradeoff : ℚ) (dimension : Nat)
    (evaluations : List (Evaluated ℚ)) (history : List (ℚ × ℚ)) (state : OptimizerState ℚ) :
    Prop where
  iteration_eq : state.iteration = evaluations.length
  objectives_eq : history.map (·.1) = evaluations.map (·.objective)
  costs : ∀ evaluation ∈ evaluations,
    evaluation.objective = halfNorm evaluation.weights + tradeoff * evaluation.risk
  /-- The weights of the first evaluation, or else the next weights, are zero. -/
  begins : (evaluations.map (·.weights) ++ [state.weights]).head? = some (zeros dimension)
  bounds_ascend : (0 :: history.map (·.2)).Pairwise (· ≤ ·)
  lowerBound_eq : state.lowerBound = boundAfter history
  best_eq : state.best = evaluations.foldl OptimizerState.improve none
  stopReason_cases : state.stopReason = none ∨ state.stopReason = some .converged
  converged_iff : state.converged = true ↔
    ∃ last, last + 1 = evaluations.length ∧ ClosesGap history (config.acceptedGap tradeoff) last
  open_before : ∀ number, number + 1 < evaluations.length →
    ¬ ClosesGap history (config.acceptedGap tradeoff) number

theorem initial_documents (dimension : Nat) :
    config.Documents tradeoff dimension [] [] (.initial dimension) where
  iteration_eq := rfl
  objectives_eq := rfl
  costs := by simp
  begins := rfl
  bounds_ascend := List.pairwise_singleton _ _
  lowerBound_eq := rfl
  best_eq := rfl
  stopReason_cases := .inl rfl
  converged_iff := by simp [OptimizerState.converged, OptimizerState.initial]
  open_before := by simp

namespace Documents

variable {dimension : Nat} {evaluations : List (Evaluated ℚ)} {history : List (ℚ × ℚ)}
  {state next : OptimizerState ℚ}

theorem length_history (documents : config.Documents tradeoff dimension evaluations history state) :
    history.length = evaluations.length := by
  rw [← List.length_map (·.1), documents.objectives_eq, List.length_map]

/-- A step accepts its gap exactly if the history shows that it is closed. -/
theorem isAccepted_iff (documents : config.Documents tradeoff dimension evaluations history state)
    (risk bound : ℚ) :
    (state.evaluated (fun _ => risk) tradeoff).isAccepted (config.acceptedGap tradeoff) = true ↔
      ClosesGap (history ++ [((state.evaluation tradeoff risk).objective, bound)])
        (config.acceptedGap tradeoff) history.length := by
  obtain ⟨best, improved, firstBest⟩ := OptimizerState.foldl_improve
    (List.concat_ne_nil (state.evaluation tradeoff risk) evaluations)
  have least := firstBest.isLeast
  rw [List.map_append, ← documents.objectives_eq] at least
  rw [List.foldl_concat, ← documents.best_eq] at improved
  have best_eq : (state.evaluated (fun _ => risk) tradeoff).best = some best := improved
  rw [closesGap_last least, OptimizerState.isAccepted_iff, best_eq, ← documents.lowerBound_eq]
  simp only [Option.some.injEq, exists_eq_left']
  rfl

/-- No step before has closed the gap, as the last one would have converged. -/
theorem not_closesGap (documents : config.Documents tradeoff dimension evaluations history state)
    (unconverged : state.converged = false) {number : Nat} (earlier : number < history.length) :
    ¬ ClosesGap history (config.acceptedGap tradeoff) number := by
  rw [documents.length_history] at earlier
  rcases (Nat.succ_le_of_lt earlier).lt_or_eq with before | last
  · exact documents.open_before number before
  · intro closes
    rw [documents.converged_iff.mpr ⟨number, last, closes⟩] at unconverged
    cases unconverged

/-- Every step adds one evaluation and one entry to the history. -/
theorem proceed (documents : config.Documents tradeoff dimension evaluations history state)
    (unconverged : state.converged = false) {risk : ℚ}
    (proceeds : config.Proceeds tradeoff risk state next) :
    config.Documents tradeoff dimension (evaluations ++ [state.evaluation tradeoff risk])
      (history ++ Run.historyEntry next) next := by
  have accepted_iff := documents.isAccepted_iff risk next.lowerBound
  have length_eq := documents.length_history
  rw [← proceeds.converged_eq unconverged] at accepted_iff
  rw [proceeds.historyEntry_eq]
  constructor
  case iteration_eq => rw [proceeds.iteration_eq, documents.iteration_eq, List.length_append]; rfl
  case objectives_eq => rw [List.map_append, documents.objectives_eq, List.map_append]; rfl
  case costs =>
    intro evaluation member
    rcases List.mem_append.mp member with old | new
    · exact documents.costs evaluation old
    · rw [List.mem_singleton.mp new]
      rfl
  case begins =>
    rw [List.map_append, List.head?_append]
    exact congrArg (·.or [next.weights].head?) documents.begins
  case bounds_ascend =>
    apply bounds_append documents.bounds_ascend
    exact documents.lowerBound_eq.symm.trans_le proceeds.lowerBound_le
  case lowerBound_eq => simp [boundAfter]
  case best_eq => rw [proceeds.best_eq, documents.best_eq, List.foldl_concat]
  case stopReason_cases =>
    rcases documents.stopReason_cases with going | converged
    · exact proceeds.stopReason_cases going
    · rw [OptimizerState.converged, converged] at unconverged
      cases unconverged
  case converged_iff =>
    rw [accepted_iff, List.length_append, List.length_singleton, ← length_eq]
    constructor
    · intro closes
      exact ⟨history.length, rfl, closes⟩
    · rintro ⟨last, count, closes⟩
      rw [← Nat.succ.inj count]
      exact closes
  case open_before =>
    intro number before
    rw [List.length_append, List.length_singleton, ← length_eq] at before
    have earlier := Nat.lt_of_succ_lt_succ before
    rw [closesGap_append earlier]
    exact documents.not_closesGap unconverged earlier

end Documents

end OptimizerConfig

/-! ## What a run reports -/

/-- The evaluation that a call of an oracle amounts to, if it was answered. -/
def Exchange.evaluation? (exchange : Exchange ℚ) (tradeoff : ℚ) : Option (Evaluated ℚ) :=
  exchange.answer.toOption.map fun answer =>
    ⟨exchange.weights, halfNorm exchange.weights + tradeoff * answer.risk, answer.risk⟩

/-- A report tells what has happened: it fits the evaluations that the run has made. -/
structure OptimizationResult.Coherent (result : OptimizationResult ℚ) (config : OptimizerConfig ℚ)
    (tradeoff : ℚ) (dimension : Nat) (evaluations : List (Evaluated ℚ)) : Prop where
  iterations_eq : result.iterations = evaluations.length
  length_history : result.history.length = evaluations.length
  iterations_le : result.iterations ≤ config.maxIterations
  objectives_eq : result.history.map (·.1) = evaluations.map (·.objective)
  bounds_nonneg : ∀ entry ∈ result.history, 0 ≤ entry.2
  bounds_ascend : (result.history.map (·.2)).Pairwise (· ≤ ·)
  lowerBound_eq : result.lowerBound = boundAfter result.history
  /-- The first of the best evaluations is reported, and it is no worse than the first of all, which
  is made at zero. -/
  best : ∀ first, evaluations.head? = some first → ∃ best,
    result.best = some best ∧ result.weights = best.weights ∧ best.IsFirstBest evaluations ∧
    best.objective = halfNorm best.weights + tradeoff * best.risk ∧
    first.weights = zeros dimension ∧ best.objective ≤ tradeoff * first.risk
  unevaluated : evaluations = [] → result.best = none ∧ result.weights = zeros dimension
  /-- The run has converged exactly if its last evaluation closed the gap. -/
  converged_iff : result.converged = true ↔
    ∃ last, last + 1 = evaluations.length ∧
      ClosesGap result.history (config.acceptedGap tradeoff) last
  stopReason_iff : result.stopReason = .converged ↔ result.converged = true
  open_before : ∀ number, number + 1 < evaluations.length →
    ¬ ClosesGap result.history (config.acceptedGap tradeoff) number
  timeLimit : result.stopReason = .timeLimit → config.maxSeconds ≠ none
  maxIterations : result.stopReason = .maxIterations → result.iterations = config.maxIterations
  planes : 1 ≤ result.planeCount ∧ result.planeCount ≤ result.iterations + 1

namespace OptimizerConfig

variable {σ : Type} {config : OptimizerConfig ℚ} {oracle : LossOracle ℚ σ} {tradeoff : ℚ}

/-- What is known of a run with a recorded oracle before it ends. -/
structure Accounts (config : OptimizerConfig ℚ) (oracle : LossOracle ℚ σ) (tradeoff : ℚ)
    (state : OptimizerState ℚ) (workspace : Workspace ℚ (σ × List (Exchange ℚ)))
    (history : List (ℚ × ℚ)) (ledger : PlaneLedger) (cuts : List Cut)
    (evaluations : List (Evaluated ℚ)) : Prop where
  holds : ledger.Matches workspace.arena
  tracks : config.Tracks oracle.recorded tradeoff cuts state ledger
  /-- Not more than one plane for every step. -/
  cuts_le : cuts.length ≤ state.iteration
  iteration_le : state.iteration ≤ config.maxIterations
  calls_eq : workspace.oracleState.2.map (·.evaluation? tradeoff) = evaluations.map some
  documents : config.Documents tradeoff oracle.dimension evaluations history state

theorem initial_accounts (valid : config.Valid) (tradeoff_pos : 0 < tradeoff) (oracleState : σ) :
    config.Accounts oracle tradeoff (.initial oracle.dimension)
      ⟨.initial oracle.dimension PlaneArena.defaultCapacity, oracleState, []⟩ []
      (.initial oracle.dimension) [] [] where
  holds := .initial _ _
  tracks := initial_tracks valid tradeoff_pos
  cuts_le := le_rfl
  iteration_le := Nat.zero_le _
  calls_eq := rfl
  documents := initial_documents oracle.dimension

/-- An answered call becomes one more evaluation. -/
theorem calls_append {calls : List (Exchange ℚ)} {evaluations : List (Evaluated ℚ)}
    (calls_eq : calls.map (·.evaluation? tradeoff) = evaluations.map some) {weights : List ℚ}
    {answer : LossAnswer ℚ} :
    (calls ++ [Exchange.mk weights (.ok answer)]).map (·.evaluation? tradeoff) =
      (evaluations ++ [Evaluated.mk weights (halfNorm weights + tradeoff * answer.risk)
        answer.risk]).map some := by
  rw [List.map_append, calls_eq, List.map_append]
  rfl

/-- Every step keeps the accounts. -/
theorem accounts_invariant (valid : config.Valid) (tradeoff_pos : 0 < tradeoff)
    (answers : oracle.InShape) :
    config.HistoryInvariant oracle.recorded tradeoff fun state workspace history =>
      ∃ ledger cuts evaluations,
        config.Accounts oracle tradeoff state workspace history ledger cuts evaluations := by
  rintro state workspace history ⟨ledger, cuts, evaluations, accounts⟩ wanted
  obtain ⟨unconverged, more⟩ := shouldStop_eq_false.mp wanted
  rcases accounts with ⟨holds, tracks, cuts_le, -, calls_eq, documents⟩
  obtain ⟨answer, next, answered, outcome, proceeds⟩ := step_proceeds valid tradeoff_pos
    answers.recorded holds tracks.aligned tracks.dimension_eq tracks.weights_eq
  obtain ⟨kept, follows, keptHolds⟩ := @following_follows _ _ _ _ _ (state, workspace) valid
    tradeoff_pos answers.recorded.filled holds tracks.aligned tracks.dimension_eq tracks.weights_eq
  have reached := following_of_ok outcome
  have iteration_eq := proceeds.iteration_eq
  refine ⟨next, outcome, iteration_eq, kept, _, _, keptHolds,
    reached ▸ follows.tracks tradeoff_pos tracks, ?_, ?_, ?_,
    documents.proceed unconverged proceeds⟩
  case refine_1 =>
    have single := Option.length_toList_le
      (o := config.cut? oracle.recorded tradeoff (state, workspace))
    rw [List.length_append, iteration_eq]
    omega
  case refine_2 => omega
  case refine_3 =>
    rw [step_oracleState]
    have recorded : (oracle.recorded.evaluate state.weights workspace.oracleState).2.2 =
        workspace.oracleState.2 ++ [⟨state.weights, .ok answer⟩] := by
      rw [← answered]
      rfl
    rw [recorded]
    exact calls_append calls_eq

/-! ## The end of a run -/

namespace Concludes

variable {last final : OptimizerState ℚ}

/-- A run that ends leaves all but the reason as it is. -/
theorem keeps (concludes : config.Concludes last final) :
    final.weights = last.weights ∧ final.iteration = last.iteration ∧ final.best = last.best ∧
      final.lowerBound = last.lowerBound := by
  cases concludes <;> exact ⟨rfl, rfl, rfl, rfl⟩

theorem converged_eq (concludes : config.Concludes last final) :
    final.converged = last.converged := by
  cases concludes with
  | stop stops => rfl
  | interrupt limited wanted =>
      rw [(shouldStop_eq_false.mp wanted).1]
      rfl

/-- The reason for the end of a run that did not converge. -/
theorem stopReason_eq (concludes : config.Concludes last final)
    (cases : last.stopReason = none ∨ last.stopReason = some .converged) :
    final.stopReason = some .converged ∨
      final.stopReason = some .timeLimit ∧ config.maxSeconds ≠ none ∨
      final.stopReason = none ∧ config.maxIterations ≤ last.iteration := by
  cases concludes with
  | stop stops =>
      rcases cases with going | converged
      · simp only [shouldStop, OptimizerState.converged, going, Bool.or_eq_true, beq_iff_eq,
          reduceCtorEq, decide_eq_true_eq, false_or] at stops
        exact .inr (.inr ⟨going, stops⟩)
      · exact .inl converged
  | interrupt limited wanted => exact .inr (.inl ⟨rfl, limited⟩)

end Concludes

/-- The report of a run whose accounts are kept is coherent. -/
theorem Accounts.coherent {last final : OptimizerState ℚ}
    {workspace : Workspace ℚ (σ × List (Exchange ℚ))} {ledger : PlaneLedger} {cuts : List Cut}
    {evaluations : List (Evaluated ℚ)} {result : OptimizationResult ℚ}
    (accounts : config.Accounts oracle tradeoff last workspace result.history ledger cuts
      evaluations)
    (concludes : config.Concludes last final) (reports : result.Reports final)
    (count_eq : result.planeCount = workspace.arena.size) :
    result.Coherent config tradeoff oracle.dimension evaluations := by
  rcases accounts with ⟨holds, tracks, cuts_le, iteration_le, -, documents⟩
  obtain ⟨weights_eq, iteration_eq, best_eq, bound_eq⟩ := concludes.keeps
  have iterations_eq : result.iterations = last.iteration :=
    reports.iterations_eq.trans iteration_eq
  have converged_eq : result.converged = last.converged :=
    reports.converged_eq.trans concludes.converged_eq
  have reason := concludes.stopReason_eq documents.stopReason_cases
  have known := reports.stopReason_eq
  constructor
  case iterations_eq => rw [iterations_eq, documents.iteration_eq]
  case length_history => exact documents.length_history
  case iterations_le => rw [iterations_eq]; exact iteration_le
  case objectives_eq => exact documents.objectives_eq
  case bounds_nonneg =>
    intro entry member
    exact (List.pairwise_cons.mp documents.bounds_ascend).1 _ (List.mem_map_of_mem member)
  case bounds_ascend => exact (List.pairwise_cons.mp documents.bounds_ascend).2
  case lowerBound_eq => rw [reports.lowerBound_eq, bound_eq, documents.lowerBound_eq]
  case best =>
    intro first head
    have nonempty : evaluations ≠ [] := List.ne_nil_of_mem (List.mem_of_head? head)
    obtain ⟨best, improved, firstBest⟩ := OptimizerState.foldl_improve nonempty
    have found : result.best = some best := by
      rw [reports.best_eq, best_eq, documents.best_eq, improved]
    have first_eq := documents.begins
    rw [List.head?_append, List.head?_map, head] at first_eq
    have zero : first.weights = zeros oracle.dimension := Option.some.inj first_eq
    refine ⟨best, found, ?_, firstBest, documents.costs best firstBest.mem, zero, ?_⟩
    · rw [reports.weights_eq, ← reports.best_eq, found]
      rfl
    · calc
        best.objective ≤ first.objective :=
          firstBest.isLeast.2 (List.mem_map_of_mem (List.mem_of_head? head))
        _ = tradeoff * first.risk := by
          rw [documents.costs first (List.mem_of_head? head), zero, halfNorm_eq, dot_zeros_left,
            zero_div, zero_add]
  case unevaluated =>
    rintro rfl
    have found : result.best = none := by
      rw [reports.best_eq, best_eq, documents.best_eq]
      rfl
    refine ⟨found, ?_⟩
    rw [reports.weights_eq, ← reports.best_eq, found, weights_eq]
    exact Option.some.inj documents.begins
  case converged_iff => rw [converged_eq]; exact documents.converged_iff
  case stopReason_iff => rw [OptimizationResult.converged, beq_iff_eq]
  case open_before => exact documents.open_before
  case timeLimit =>
    intro limit
    rcases reason with converged | ⟨-, limited⟩ | ⟨none, -⟩
    · rw [known, converged] at limit
      cases limit
    · exact limited
    · rw [known, none] at limit
      cases limit
  case maxIterations =>
    intro limit
    rcases reason with converged | ⟨limited, -⟩ | ⟨-, notLess⟩
    · rw [known, converged] at limit
      cases limit
    · rw [known, limited] at limit
      cases limit
    · rw [iterations_eq]
      exact le_antisymm iteration_le notLess
  case planes =>
    have some := List.length_pos_iff.mpr holds.zeroFirst.ne_nil
    have most := tracks.kept.length_le
    rw [PlaneLedger.planes, List.length_map, List.length_cons, List.length_map] at most
    rw [count_eq, holds.represents.size_eq, iterations_eq]
    omega

/-- **Reports are coherent for any oracle**: whatever it answers at the weights of a run, and
whatever the clock shows, the run has a result, and recording the calls of the oracle changes
nothing about it.  The report fits the recorded calls. -/
theorem optimize_coherent (valid : config.Valid) (tradeoff_pos : 0 < tradeoff)
    (answers : oracle.InShape) (clock : Nat → ℚ) (readings : Nat) (oracleState : σ) :
    let recorded := config.optimize oracle.recorded tradeoff clock readings (oracleState, [])
    ∃ result evaluations,
      (config.optimize oracle tradeoff clock readings oracleState).result = .ok result ∧
      recorded.result = .ok result ∧
      recorded.workspace.oracleState.2.map (·.evaluation? tradeoff) = evaluations.map some ∧
      result.Coherent config tradeoff oracle.dimension evaluations := by
  intro recorded
  have same := optimize_through oracle.recorded_shows config tradeoff clock readings
    (oracleState, [])
  obtain ⟨result, last, final, reported, ⟨ledger, cuts, evaluations, accounts⟩, concludes, reports,
    count_eq⟩ := optimize_concludes (accounts_invariant valid tradeoff_pos answers)
      valid.computable clock readings (oracleState, [])
      ⟨_, _, _, initial_accounts valid tradeoff_pos oracleState⟩
  exact ⟨result, evaluations, same.trans reported, reported, accounts.calls_eq,
    accounts.coherent concludes reports count_eq⟩

end OptimizerConfig

/-- A script of vectors answers in shape, for ever. -/
theorem ScriptedLoss.oracle_inShape {script : ScriptedLoss ℚ} (nonempty : script.answers ≠ [])
    (vectors : ∀ answer ∈ script.answers, ∃ slope,
      answer.subgradient = .vector slope ∧ slope.length = script.dimension) :
    script.oracle.InShape := by
  intro weights number _
  have inBounds : min number (script.answers.length - 1) < script.answers.length := by
    have some := List.length_pos_iff.mpr nonempty
    omega
  obtain ⟨slope, slope_eq, length_eq⟩ := vectors _ (List.getElem_mem inBounds)
  refine ⟨(script.answers[min number (script.answers.length - 1)]).risk, slope, ?_, length_eq⟩
  rw [← slope_eq]
  simp only [oracle, answer?, List.getElem?_eq_getElem inBounds, Option.elim_some]

namespace OptimizerConfig

/-- A configuration with time for three steps by a clock that counts its readings. -/
def timed : OptimizerConfig ℚ := { coarse with maxSeconds := some 4 }

theorem timed_valid : timed.Valid where
  epsilon_pos := coarse_valid.epsilon_pos
  qpEpsilon_pos := coarse_valid.qpEpsilon_pos
  qpMaxIterations_pos := coarse_valid.qpMaxIterations_pos
  inactivePlaneThreshold_pos := coarse_valid.inactivePlaneThreshold_pos
  maxSeconds_pos := by
    rintro limit ⟨⟩
    norm_num
  computable := rfl

/-- A script that is the loss of nothing: of two evaluations that are equally good the first one is
reported when time is over. -/
theorem optimize_coherent_inconsistent :
    let script : ScriptedLoss ℚ := ⟨1, [⟨3, .vector [-6]⟩, ⟨1, .vector [4]⟩, ⟨1, .vector [-4]⟩]⟩
    (timed.Valid ∧ (0 : ℚ) < 1 ∧ script.oracle.InShape) ∧
      ∃ result evaluations,
        (timed.optimize script.oracle 1 (fun readings => (readings : ℚ)) 0 0).result = .ok result ∧
        result.Coherent timed 1 1 evaluations ∧
        evaluations.map (·.objective) = [3, 9 / 8, 9 / 8] ∧ result.weights = [1 / 2] ∧
        result.stopReason = .timeLimit ∧ result.planeCount = 4 := by
  intro script
  have vectors : ∀ answer ∈ script.answers, ∃ slope,
      answer.subgradient = .vector slope ∧ slope.length = script.dimension := by
    intro answer member
    simp only [script, List.mem_cons, List.not_mem_nil, or_false] at member
    rcases member with rfl | rfl | rfl <;> exact ⟨_, rfl, rfl⟩
  have answers : script.oracle.InShape := ScriptedLoss.oracle_inShape (by simp [script]) vectors
  obtain ⟨result, evaluations, outcome, -, -, coherent⟩ :=
    optimize_coherent timed_valid one_pos answers (fun readings => (readings : ℚ)) 0 0
  have facts : (timed.optimize script.oracle 1 (fun readings => (readings : ℚ)) 0
      0).result.toOption.map (fun result =>
        (result.history.map (·.1), result.weights, result.stopReason, result.planeCount)) =
      some ([3, 9 / 8, 9 / 8], [1 / 2], .timeLimit, 4) := by
    decide +kernel
  rw [outcome] at facts
  simp only [Except.toOption, Option.map_some, Option.some.injEq, Prod.mk.injEq] at facts
  rcases facts with ⟨objectives, weights, reason, planes⟩
  exact ⟨⟨timed_valid, one_pos, answers⟩, result, evaluations, outcome, coherent,
    coherent.objectives_eq.symm.trans objectives, weights, reason, planes⟩

end OptimizerConfig

end HingeRank
