import Mathlib
import HingeRank.Proofs.Evaluation.Accuracy
import HingeRank.Proofs.Evaluation.Folds

/-!
# Cross-validation judges every query once

A fold is judged by a model that was trained on the queries outside of it.  Every query lies
in exactly one fold, so that the results of all folds together are about each query once,
and no query is judged by a model that has seen it at its position.

The calls of the learner are made visible by a learner that writes them down; it answers as
the other one does.  A fold that leaves nothing to train on is found before the first call.
-/

namespace HingeRank

/-! ## Weighed shares -/

namespace Tally

@[simp] theorem zero_add (tally : Tally ℚ) : zero.add tally = tally := by
  simp [zero, add]

/-- Nothing is right where there is nothing to order, nor precise where nothing is relevant. -/
structure Grounded (tally : Tally ℚ) : Prop where
  correctPairs_eq_zero : tally.totalPairs = 0 → tally.correctPairs = 0
  precisionSum_eq_zero : tally.judgedQueries = 0 → tally.precisionSum = 0

theorem total_grounded {tallies : List (Tally ℚ)} (grounded : ∀ tally ∈ tallies, tally.Grounded) :
    (total tallies).Grounded where
  correctPairs_eq_zero := by
    intro none
    have each := List.sum_eq_zero_iff.mp none
    apply List.sum_eq_zero
    intro count member
    obtain ⟨tally, tallyMem, rfl⟩ := List.mem_map.mp member
    exact (grounded tally tallyMem).correctPairs_eq_zero (each _ (List.mem_map_of_mem tallyMem))
  precisionSum_eq_zero := by
    intro none
    have each := List.sum_eq_zero_iff.mp none
    apply List.sum_eq_zero
    intro precision member
    obtain ⟨tally, tallyMem, rfl⟩ := List.mem_map.mp member
    exact (grounded tally tallyMem).precisionSum_eq_zero (each _ (List.mem_map_of_mem tallyMem))

/-- Shares of counts, weighed by the counts, add up to what they are shares of. -/
theorem sum_weighed {tallies : List (Tally ℚ)} {count : Tally ℚ → Nat} {part : Tally ℚ → ℚ}
    (grounded : ∀ tally ∈ tallies, count tally = 0 → part tally = 0) :
    (tallies.map fun tally => (count tally : ℚ) * (part tally / count tally)).sum =
      (tallies.map part).sum := by
  apply congrArg List.sum
  apply List.map_congr_left
  intro tally member
  exact mul_div_cancel_of_imp' fun none => grounded tally member (Nat.cast_eq_zero.mp none)

/-- The accuracy of a total pools the accuracies of its parts by their pairs. -/
theorem rankingAccuracy_total {tallies : List (Tally ℚ)}
    (grounded : ∀ tally ∈ tallies, tally.Grounded) :
    (total tallies).summary.rankingAccuracy =
      (tallies.map fun tally =>
        (tally.summary.pairCount : ℚ) * tally.summary.rankingAccuracy).sum /
        (total tallies).summary.pairCount := by
  have weighed : (tallies.map fun tally =>
      (tally.totalPairs : ℚ) * (tally.correctPairs / tally.totalPairs)).sum =
        (tallies.map fun tally => (tally.correctPairs : ℚ)).sum := by
    apply sum_weighed
    intro tally member none
    rw [(grounded tally member).correctPairs_eq_zero none, Nat.cast_zero]
  have counts : ((total tallies).correctPairs : ℚ) =
      (tallies.map fun tally => (tally.correctPairs : ℚ)).sum := by
    rw [total, Nat.cast_list_sum, List.map_map]
    rfl
  simp only [rankingAccuracy_eq]
  rw [counts, ← weighed]
  rfl

/-- The mean precision of a total pools those of its parts by their queries. -/
theorem meanAveragePrecision_total {tallies : List (Tally ℚ)}
    (grounded : ∀ tally ∈ tallies, tally.Grounded) :
    (total tallies).summary.meanAveragePrecision =
      (tallies.map fun tally =>
        (tally.summary.queryCount : ℚ) * tally.summary.meanAveragePrecision).sum /
        (total tallies).summary.queryCount := by
  have weighed : (tallies.map fun tally =>
      (tally.judgedQueries : ℚ) * (tally.precisionSum / tally.judgedQueries)).sum =
        (total tallies).precisionSum :=
    sum_weighed fun tally member => (grounded tally member).precisionSum_eq_zero
  simp only [meanAveragePrecision_eq]
  rw [← weighed]
  rfl

end Tally

theorem Model.tallyOf_grounded (model : Model ℚ) (query : Query ℚ) :
    (model.tallyOf query).Grounded where
  correctPairs_eq_zero := by
    intro none
    apply Nat.le_zero.mp
    calc query.orderedCount model.weights
      _ ≤ query.pairs.length := List.countP_le_length
      _ = 0 := query.length_pairs.trans none
  precisionSum_eq_zero := by
    intro none
    cases relevant : query.relevant with
    | nil => simp [tallyOf, relevant, Metrics.averagePrecision]
    | cons first rest => simp [tallyOf, relevant] at none

/-! ## Writing down the calls -/

/-- What a learner was shown and what it answered. -/
structure LearnerCall where
  training : Dataset ℚ
  answer : Except Error (Model ℚ)

namespace Learner

variable {σ : Type}

/-- The learner with its calls kept beside its state. -/
def recorded (learner : Learner ℚ σ) : Learner ℚ (σ × List LearnerCall) :=
  fun training state =>
    let (answer, next) := learner training state.1
    (answer, next, state.2 ++ [⟨training, answer⟩])

/-- Results are shown to the learner's own state. -/
def watched (observe : FoldReport → σ → σ) :
    FoldReport → σ × List LearnerCall → σ × List LearnerCall :=
  fun report state => (observe report state.1, state.2)

/-- The learner can be trained on every dataset that asks for some ordering, and returns a
model of its dimension. -/
def Trains (learner : Learner ℚ σ) : Prop :=
  ∀ training state, training.isRankingProblem = true → ∃ model next,
    learner training state = (.ok model, next) ∧ training.dimension = some model.dimension

end Learner

namespace CrossValidation

variable {σ : Type} {learner : Learner ℚ σ} {observe : FoldReport → σ → σ}
  {dataset : Dataset ℚ} {folds fold : Nat}

/-- Writing down the calls does not change what is judged. -/
theorem judge_recorded (learner : Learner ℚ σ) (observe : FoldReport → σ → σ)
    (splits : List (FoldSplit ℚ)) (fold : Nat) (total : Tally ℚ) (state : σ)
    (calls : List LearnerCall) :
    let run := judge learner.recorded (Learner.watched observe) fold total splits (state, calls)
    judge learner observe fold total splits state = (run.1, run.2.1) := by
  induction splits generalizing fold total state calls with
  | nil => rfl
  | cons split rest ih =>
      simp only [judge, Learner.recorded, Learner.watched]
      cases (learner split.training state).1 >>= fun model => model.tally? split.heldOut with
      | error problem => rfl
      | ok tally => exact ih _ _ _ _

theorem ofDataset_recorded (learner : Learner ℚ σ) (observe : FoldReport → σ → σ)
    (dataset : Dataset ℚ) (folds : Nat) (state : σ) (calls : List LearnerCall) :
    let run := ofDataset learner.recorded (Learner.watched observe) dataset folds (state, calls)
    ofDataset learner observe dataset folds state = (run.1, run.2.1) := by
  simp only [ofDataset]
  cases splits? dataset folds with
  | error problem => rfl
  | ok splits => simp only [judge_recorded learner observe splits 0 .zero state calls]

/-! ## Judging fold by fold -/

/-- A split that was judged, and the model that was trained for it. -/
structure JudgedSplit where
  split : FoldSplit ℚ
  model : Model ℚ

namespace JudgedSplit

/-- What the queries of the fold contribute. -/
def tally (judged : JudgedSplit) : Tally ℚ :=
  .total (judged.split.heldOut.queries.map judged.model.tallyOf)

/-- The call that trained the model. -/
def call (judged : JudgedSplit) : LearnerCall := ⟨judged.split.training, .ok judged.model⟩

/-- The model fits what it was trained on and what it is judged on. -/
structure Fits (width : Nat) (judged : JudgedSplit) : Prop where
  dimension_eq : judged.model.dimension = width
  tally?_eq : judged.model.tally? judged.split.heldOut = .ok judged.tally

theorem tally_grounded (judged : JudgedSplit) : judged.tally.Grounded := by
  apply Tally.total_grounded
  intro tally member
  obtain ⟨query, -, rfl⟩ := List.mem_map.mp member
  exact judged.model.tallyOf_grounded query

end JudgedSplit

/-- Splits with something to train on are judged one after the other, each by the model of
one call. -/
theorem judge_recorded_eq (trains : learner.Trains) {numbers : List Nat}
    {splits : List (FoldSplit ℚ)}
    (splitsAt : List.Forall₂ (fun split fold => SplitsAt dataset folds fold split) splits numbers)
    (observe : FoldReport → σ → σ) (fold : Nat) (total : Tally ℚ) (state : σ)
    (calls : List LearnerCall) :
    ∃ (judged : List JudgedSplit) (next : σ), judged.map JudgedSplit.split = splits ∧
      (∀ entry ∈ judged, entry.Fits dataset.width) ∧
      judge learner.recorded (Learner.watched observe) fold total splits (state, calls) =
        (.ok (total.add (.total (judged.map JudgedSplit.tally))), next,
          calls ++ judged.map JudgedSplit.call) := by
  induction splitsAt generalizing fold total state calls with
  | nil =>
      refine ⟨[], state, rfl, by simp, ?_⟩
      simp [judge, Tally.total, Tally.add]
  | @cons split number rest numbers at_ others ih =>
      obtain ⟨model, trained, answer, known⟩ := trains split.training state at_.isProblem
      have dimension_eq : model.dimension = dataset.width :=
        (Option.some.inj (at_.training_width.symm.trans known)).symm
      have fits : model.Fits split.heldOut := by
        intro dimension heldOut
        exact (at_.heldOut_width dimension heldOut).trans dimension_eq.symm
      let entry : JudgedSplit := ⟨split, model⟩
      have judgedEntry : model.tally? split.heldOut = .ok entry.tally := Model.tally?_eq fits
      obtain ⟨judged, next, splits_eq, allFit, run⟩ := ih (fold + 1) (total.add entry.tally)
        (observe ⟨fold, entry.tally.correctPairs, entry.tally.totalPairs⟩ trained)
        (calls ++ [entry.call])
      refine ⟨entry :: judged, next, ?_, ?_, ?_⟩
      · rw [List.map_cons, splits_eq]
      · intro other member
        rcases List.mem_cons.mp member with rfl | later
        · exact ⟨dimension_eq, judgedEntry⟩
        · exact allFit other later
      · simp only [judge, Learner.recorded, Learner.watched, answer, ok_bind, judgedEntry]
        refine run.trans ?_
        simp [Tally.total, Tally.add, add_assoc, JudgedSplit.call, entry]

/-! ## All folds together -/

/-- Counting queries with relevant vectors one by one. -/
theorem Query.sum_isJudged (queries : List (Query ℚ)) :
    (queries.map fun query => if query.relevant.isEmpty then 0 else 1).sum =
      queries.countP fun query => !query.relevant.isEmpty := by
  induction queries with
  | nil => rfl
  | cons query queries ih =>
      rw [List.map_cons, List.sum_cons, List.countP_cons, ih]
      cases query.relevant.isEmpty with
      | true => exact Nat.zero_add _
      | false => exact Nat.add_comm _ _

theorem map_eq_map_of_forall₂ {α β γ : Type} {left : α → γ} {right : β → γ} {items : List α}
    {others : List β}
    (same : List.Forall₂ (fun item other => left item = right other) items others) :
    items.map left = others.map right := by
  rw [← List.forall₂_eq_eq_eq, List.forall₂_map_left_iff, List.forall₂_map_right_iff]
  exact same

section AllFolds

variable {judged : List JudgedSplit}
  (splitsAt : List.Forall₂ (fun split fold => SplitsAt dataset folds fold split)
    (judged.map JudgedSplit.split) (List.range folds))

include splitsAt

/-- The held-out parts one after the other are all queries. -/
theorem flatten_heldOut (someFold : 0 < folds) :
    (judged.map fun entry => entry.split.heldOut.queries).flatten = dataset.queries := by
  have parts : (judged.map JudgedSplit.split).map (·.heldOut.queries) =
      (List.range folds).map (Folds.inside dataset.queries folds) := by
    apply map_eq_map_of_forall₂
    exact splitsAt.imp fun split fold at_ => at_.heldOut_eq
  rw [List.map_map] at parts
  exact (congrArg List.flatten parts).trans (Folds.flatten_inside dataset.queries someFold)

/-- A count over the queries is the sum of the counts over the folds. -/
theorem sum_heldOut (someFold : 0 < folds) (value : Query ℚ → Nat) :
    (judged.map fun entry => (entry.split.heldOut.queries.map value).sum).sum =
      (dataset.queries.map value).sum := by
  rw [← flatten_heldOut splitsAt someFold, List.map_flatten, List.sum_flatten, List.map_map,
    List.map_map]
  rfl

theorem totalPairs_judged (someFold : 0 < folds) :
    (Tally.total (judged.map JudgedSplit.tally)).totalPairs = dataset.pairCount := by
  have sum_eq := sum_heldOut splitsAt someFold Query.pairCount
  simpa [Tally.total, JudgedSplit.tally, Model.tallyOf, Dataset.pairCount, Function.comp_def,
    ← List.sum_eq_foldr] using sum_eq

theorem judgedQueries_judged (someFold : 0 < folds) :
    (Tally.total (judged.map JudgedSplit.tally)).judgedQueries =
      dataset.queries.countP fun query => !query.relevant.isEmpty := by
  have sum_eq := sum_heldOut splitsAt someFold fun query =>
    if query.relevant.isEmpty then 0 else 1
  rw [← Query.sum_isJudged]
  simpa [Tally.total, JudgedSplit.tally, Model.tallyOf, Function.comp_def] using sum_eq

/-- One model for all folds finds together what it finds on the dataset. -/
theorem total_judged_of_same (someFold : 0 < folds) {model : Model ℚ}
    (same : ∀ entry ∈ judged, entry.model = model) :
    Tally.total (judged.map JudgedSplit.tally) =
      Tally.total (dataset.queries.map model.tallyOf) := by
  have groups : judged.map JudgedSplit.tally =
      (judged.map fun entry => entry.split.heldOut.queries.map model.tallyOf).map Tally.total := by
    rw [List.map_map]
    apply List.map_congr_left
    intro entry member
    rw [JudgedSplit.tally, same entry member]
    rfl
  rw [groups, ← Tally.total_flatten, ← flatten_heldOut splitsAt someFold, List.map_flatten,
    List.map_map]
  rfl

/-- One model for all folds fits the dataset. -/
theorem fits_of_same (someFold : 0 < folds) (fits : ∀ entry ∈ judged, entry.Fits dataset.width)
    {model : Model ℚ} (same : ∀ entry ∈ judged, entry.model = model) : model.Fits dataset := by
  have length_eq : judged.length = folds := by
    simpa using splitsAt.length_eq
  obtain ⟨entry, member⟩ := List.exists_mem_of_length_pos (length_eq ▸ someFold)
  intro dimension known
  rw [← same entry member, (fits entry member).dimension_eq, Dataset.width, known]
  rfl

end AllFolds

/-- What a cross-validation finds that trains once for every fold: the calls see the queries
outside of their folds, each fold is judged by the model of its own call, and the result pools
what was found on the folds by their pairs and by their queries. -/
structure Pools (dataset : Dataset ℚ) (folds : Nat) (calls : List LearnerCall)
    (accuracy : RankingAccuracy ℚ) : Prop where
  calls_length : calls.length = folds
  training_eq : ∀ fold (inRange : fold < calls.length),
    calls[fold].training.queries = Folds.outside dataset.queries folds fold
  pairCount_eq : accuracy.pairCount = dataset.pairCount
  queryCount_eq : accuracy.queryCount =
    dataset.queries.countP fun query => !query.relevant.isEmpty
  pooled : ∃ found : Fin calls.length → RankingAccuracy ℚ,
    (∀ fold : Fin calls.length, ∃ model heldOut tally, calls[fold].answer = .ok model ∧
      Dataset.ofQueries? (Folds.inside dataset.queries folds fold) = .ok heldOut ∧
      model.tally? heldOut = .ok tally ∧ found fold = tally.summary) ∧
    accuracy.rankingAccuracy =
      (∑ fold, (found fold).pairCount * (found fold).rankingAccuracy) / accuracy.pairCount ∧
    accuracy.meanAveragePrecision =
      (∑ fold, (found fold).queryCount * (found fold).meanAveragePrecision) / accuracy.queryCount

/-- A sum over the calls is a sum over the judged splits. -/
theorem sum_calls (judged : List JudgedSplit) (value : JudgedSplit → ℚ) :
    ∑ fold : Fin (judged.map JudgedSplit.call).length,
      value (judged.get (fold.cast (List.length_map _))) = (judged.map value).sum := by
  rw [← Fin.sum_univ_fun_getElem]
  exact Fintype.sum_equiv (finCongr (List.length_map _)) _ _ fun _ => rfl

/-- Judged splits at all folds pool to the summary of what they found. -/
theorem pools_summary {judged : List JudgedSplit} (someFold : 0 < folds)
    (splitsAt : List.Forall₂ (fun split fold => SplitsAt dataset folds fold split)
      (judged.map JudgedSplit.split) (List.range folds))
    (fits : ∀ entry ∈ judged, entry.Fits dataset.width) :
    Pools dataset folds (judged.map JudgedSplit.call)
      (Tally.total (judged.map JudgedSplit.tally)).summary := by
  have length_eq : judged.length = folds := by
    simpa using splitsAt.length_eq
  have at_ (fold : Nat) (inRange : fold < judged.length) :
      SplitsAt dataset folds fold judged[fold].split := by
    have related := splitsAt.get (i := fold) (by simpa using inRange)
      (by simpa [← length_eq] using inRange)
    simpa using related
  have grounded : ∀ tally ∈ judged.map JudgedSplit.tally, tally.Grounded := by
    intro tally member
    obtain ⟨entry, -, rfl⟩ := List.mem_map.mp member
    exact entry.tally_grounded
  exact {
    calls_length := by rw [List.length_map, length_eq]
    training_eq := by
      intro fold inRange
      have inJudged : fold < judged.length := by simpa using inRange
      simpa [JudgedSplit.call] using (at_ fold inJudged).training_eq
    pairCount_eq := totalPairs_judged splitsAt someFold
    queryCount_eq := judgedQueries_judged splitsAt someFold
    pooled := by
      refine ⟨fun fold => (judged.get (fold.cast (List.length_map _))).tally.summary, ?_, ?_, ?_⟩
      · intro fold
        have inJudged : fold.val < judged.length := by simpa using fold.isLt
        refine ⟨judged[fold.val].model, judged[fold.val].split.heldOut, judged[fold.val].tally,
          ?_, ?_, (fits _ (List.getElem_mem inJudged)).tally?_eq, rfl⟩
        · simp [JudgedSplit.call]
        · rw [← (at_ fold inJudged).heldOut_eq]
          exact Dataset.ofQueries?_queries _
      · rw [sum_calls judged fun entry =>
          entry.tally.summary.pairCount * entry.tally.summary.rankingAccuracy,
          Tally.rankingAccuracy_total grounded, List.map_map]
        rfl
      · rw [sum_calls judged fun entry =>
          entry.tally.summary.queryCount * entry.tally.summary.meanAveragePrecision,
          Tally.meanAveragePrecision_total grounded, List.map_map]
        rfl }

/-! ## The whole cross-validation -/

/-- A number of folds in range is taken as it is. -/
theorem ofSamples_eq {samples : Samples ℚ} (read : samples.toDataset? = .ok dataset)
    (isProblem : dataset.isRankingProblem = true) (least : 2 ≤ folds) (most : folds ≤ dataset.size)
    (learner : Learner ℚ σ) (observe : FoldReport → σ → σ) (state : σ) :
    ofSamples learner observe samples (.int folds) state =
      ofDataset learner observe dataset folds state := by
  have inRange : folds? dataset.size (.int folds) = .ok folds := by
    have notAbove : ¬ (dataset.size : Int) < folds := by omega
    simpa [folds?, Value.comparand?, Value.number?, Number.below, Number.above, notAbove]
      using Nat.lt_of_succ_le least
  simp only [ofSamples, Samples.toRankingProblem?, read, isProblem, inRange, ok_bind, pure_eq_ok,
    if_true]

/-- Every query is held out in exactly one fold, and judged by a model trained without it.  If
some fold leaves no pair to train on, the first such fold is refused before the learner is
called.  Otherwise the learner is called once for every fold and the results are pooled; the
same model for all folds finds what it finds on all samples at once. -/
theorem ofSamples_pools {samples : Samples ℚ} (read : samples.toDataset? = .ok dataset)
    (isProblem : dataset.isRankingProblem = true) (least : 2 ≤ folds) (most : folds ≤ dataset.size)
    (trains : learner.Trains) (observe : FoldReport → σ → σ) (state : σ) :
    let run := ofSamples learner.recorded (Learner.watched observe) samples (.int folds) (state, [])
    ofSamples learner observe samples (.int folds) state = (run.1, run.2.1) ∧
    (∀ position < dataset.size,
      ∃! fold, fold < folds ∧ Folds.holds dataset.size folds fold position = true) ∧
    (∀ fold < folds, (Folds.inside dataset.queries folds fold).length =
      dataset.size / folds + if fold < dataset.size % folds then 1 else 0) ∧
    (∀ fold < folds, LeavesNoPair dataset.queries folds fold →
      (∀ earlier < fold, ¬ LeavesNoPair dataset.queries folds earlier) →
        run = (.error (.foldWithoutPairs fold), state, []) ∧
          (Error.foldWithoutPairs fold).isA .configuration = true) ∧
    ((∀ fold < folds, ¬ LeavesNoPair dataset.queries folds fold) →
      ∃ accuracy final calls, run = (.ok accuracy, final, calls) ∧
        Pools dataset folds calls accuracy ∧
        ∀ model, (∀ call ∈ calls, call.answer = .ok model) →
          model.evaluate? samples = .ok accuracy) := by
  intro run
  have someFold : 0 < folds := by omega
  have run_eq : run =
      ofDataset learner.recorded (Learner.watched observe) dataset folds (state, []) :=
    ofSamples_eq read isProblem least most _ _ _
  refine ⟨?_, ?_, ?_, ?_, ?_⟩
  · rw [ofSamples_eq read isProblem least most, run_eq]
    exact ofDataset_recorded learner observe dataset folds state []
  · intro position inBounds
    exact Folds.existsUnique_holds someFold inBounds
  · intro fold inRange
    exact Folds.length_inside dataset.queries inRange
  · intro fold inRange bare earlier
    constructor
    · rw [run_eq, ofDataset, splits?_error inRange bare earlier]
    · rfl
  · intro leave
    obtain ⟨splits, made, splitsAt⟩ := splits?_splitsAt dataset leave
    obtain ⟨judged, final, splits_eq, fits, outcome⟩ :=
      judge_recorded_eq trains splitsAt observe 0 .zero state []
    rw [← splits_eq] at splitsAt
    refine ⟨(Tally.total (judged.map JudgedSplit.tally)).summary, final,
      judged.map JudgedSplit.call, ?_, pools_summary someFold splitsAt fits, ?_⟩
    · rw [Tally.zero_add, List.nil_append] at outcome
      rw [run_eq, ofDataset, made]
      simp only [outcome]
      rfl
    · intro model always
      have same : ∀ entry ∈ judged, entry.model = model := by
        intro entry member
        exact Except.ok.inj (always entry.call (List.mem_map_of_mem member))
      rw [total_judged_of_same splitsAt someFold same]
      apply Model.evaluate?_eq read isProblem
      exact fits_of_same splitsAt someFold fits same

/-- A learner that gives every component the same weight is trained three times on a query that
occurs twice and one without pairs, and all three are judged. -/
theorem ofSamples_pools_repeated_query :
    let query : Query ℚ := ⟨[.dense [1]], [.sparse 1 []]⟩
    let dataset : Dataset ℚ := ⟨[query, query, ⟨[.dense [2]], []⟩], some 1, rfl⟩
    let learner : Learner ℚ Unit := fun training state =>
      (.ok ⟨List.replicate training.width 1⟩, state)
    let observe : FoldReport → Unit → Unit := fun _ state => state
    dataset.isRankingProblem = true ∧ 2 ≤ 3 ∧ 3 ≤ dataset.size ∧ learner.Trains ∧
      (∀ fold < 3, ¬ LeavesNoPair dataset.queries 3 fold) ∧
      ∃ accuracy final calls,
        ofSamples learner.recorded (Learner.watched observe) (.dataset dataset) (.int 3) ((), []) =
          (.ok accuracy, final, calls) ∧
        Pools dataset 3 calls accuracy ∧ accuracy.pairCount = 2 ∧ accuracy.queryCount = 3 := by
  intro query dataset learner observe
  have isProblem : dataset.isRankingProblem = true := by decide
  have trains : learner.Trains := by
    intro training state trainable
    refine ⟨_, _, rfl, ?_⟩
    rw [Dataset.dimension_eq_some trainable, Model.dimension, List.length_replicate]
  have leave : ∀ fold < 3, ¬ LeavesNoPair dataset.queries 3 fold := by
    unfold LeavesNoPair
    decide
  obtain ⟨-, -, -, -, judges⟩ := @ofSamples_pools Unit learner dataset 3 (.dataset dataset) rfl
    isProblem (by decide) (by decide) trains observe ()
  obtain ⟨accuracy, final, calls, run, pools, -⟩ := judges leave
  exact ⟨isProblem, by decide, by decide, trains, leave, accuracy, final, calls, run, pools,
    pools.pairCount_eq, pools.queryCount_eq⟩

end CrossValidation

end HingeRank
