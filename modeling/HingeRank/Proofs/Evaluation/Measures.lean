import Mathlib
import HingeRank.Proofs.Evaluation.Accuracy
import HingeRank.Proofs.Evaluation.AveragePrecision

/-!
# What an evaluation measures

An evaluation never asks the model to score a vector.  It stacks vectors, multiplies the stacks
with the weights, and searches in sorted scores.  Its result is nevertheless determined by the
scores that the model gives the vectors one by one.

The two measures weigh differently, one all pairs and the other all queries with relevant vectors,
some of which have no pair.  Both are whole in the same case: the scores separate the relevant
vectors of every query from the others.
-/

namespace HingeRank

/-! ## Measures of scores -/

/-- The average precision of a query under given scores. -/
def Query.precisionBy (score : FeatureVector ℚ → ℚ) (query : Query ℚ) : ℚ :=
  Metrics.averagePrecision (query.relevant.map score) (query.nonrelevant.map score)

namespace Dataset

variable {dataset : Dataset ℚ} {score : FeatureVector ℚ → ℚ}

/-- The queries with relevant vectors. -/
def judgedQueries (dataset : Dataset ℚ) : List (Query ℚ) :=
  dataset.queries.filter (!·.relevant.isEmpty)

/-- What scores say about a dataset: the share of the pairs in which the relevant vector has the
higher score, and the mean of the average precisions of the queries with relevant vectors. -/
def accuracyBy (score : FeatureVector ℚ → ℚ) (dataset : Dataset ℚ) : RankingAccuracy ℚ where
  rankingAccuracy :=
    (dataset.pairs.countP fun pair => score pair.2 < score pair.1 : ℕ) / dataset.pairCount
  meanAveragePrecision :=
    (dataset.judgedQueries.map (Query.precisionBy score)).sum / dataset.judgedQueries.length
  pairCount := dataset.pairCount
  queryCount := dataset.judgedQueries.length

/-- Every relevant vector has a higher score than the nonrelevant ones of its query. -/
def IsSeparated (score : FeatureVector ℚ → ℚ) (dataset : Dataset ℚ) : Prop :=
  ∀ query ∈ dataset.queries, ∀ high ∈ query.relevant, ∀ low ∈ query.nonrelevant,
    score low < score high

/-! ## Bounds -/

theorem forall_mem_pairs {holds : RankingPair → Prop} :
    (∀ pair ∈ dataset.pairs, holds pair) ↔
      ∀ query ∈ dataset.queries, ∀ high ∈ query.relevant, ∀ low ∈ query.nonrelevant,
        holds (high, low) := by
  simp only [pairs, Query.pairs, List.forall_mem_flatMap, Prod.forall, List.pair_mem_product]
  grind

theorem rankingAccuracy_le_one (score : FeatureVector ℚ → ℚ) (dataset : Dataset ℚ) :
    (dataset.accuracyBy score).rankingAccuracy ≤ 1 := by
  apply div_le_one_of_le₀ _ (Nat.cast_nonneg _)
  rw [← dataset.length_pairs]
  exact_mod_cast List.countP_le_length

theorem rankingAccuracy_eq_one_iff (isProblem : dataset.isRankingProblem = true) :
    (dataset.accuracyBy score).rankingAccuracy = 1 ↔ dataset.IsSeparated score := by
  rw [accuracyBy, div_eq_one_iff_eq (pairCount_pos isProblem).ne', Nat.cast_inj,
    ← dataset.length_pairs, List.countP_eq_length, forall_mem_pairs]
  simp only [decide_eq_true_eq, IsSeparated]

@[simp] theorem mem_judgedQueries {query : Query ℚ} :
    query ∈ dataset.judgedQueries ↔ query ∈ dataset.queries ∧ query.relevant ≠ [] := by
  simp [judgedQueries]

theorem judgedQueries_ne_nil (isProblem : dataset.isRankingProblem = true) :
    dataset.judgedQueries ≠ [] := by
  obtain ⟨query, member, some, -⟩ := isRankingProblem_eq_true_iff.mp isProblem
  exact List.ne_nil_of_mem (mem_judgedQueries.mpr ⟨member, some⟩)

theorem meanAveragePrecision_eq_mean (score : FeatureVector ℚ → ℚ) (dataset : Dataset ℚ) :
    (dataset.accuracyBy score).meanAveragePrecision =
      (dataset.judgedQueries.map (Query.precisionBy score)).sum /
        (dataset.judgedQueries.map (Query.precisionBy score)).length := by
  rw [List.length_map]
  rfl

theorem meanAveragePrecision_pos (isProblem : dataset.isRankingProblem = true) :
    0 < (dataset.accuracyBy score).meanAveragePrecision := by
  rw [meanAveragePrecision_eq_mean]
  apply mean_pos
  · exact mt List.map_eq_nil_iff.mp (judgedQueries_ne_nil isProblem)
  · intro part partMem
    obtain ⟨query, judged, rfl⟩ := List.mem_map.mp partMem
    have some := (mem_judgedQueries.mp judged).2
    exact Metrics.averagePrecision_pos (mt List.map_eq_nil_iff.mp some)

theorem precisionBy_le_one (score : FeatureVector ℚ → ℚ) (queries : List (Query ℚ)) :
    ∀ part ∈ queries.map (Query.precisionBy score), part ≤ 1 := by
  intro part partMem
  obtain ⟨query, -, rfl⟩ := List.mem_map.mp partMem
  exact Metrics.averagePrecision_le_one _ _

theorem meanAveragePrecision_le_one (score : FeatureVector ℚ → ℚ) (dataset : Dataset ℚ) :
    (dataset.accuracyBy score).meanAveragePrecision ≤ 1 := by
  rw [meanAveragePrecision_eq_mean]
  exact mean_le_one (precisionBy_le_one score _)

/-- Queries without relevant vectors are not judged, but separated all the same. -/
theorem meanAveragePrecision_eq_one_iff (isProblem : dataset.isRankingProblem = true) :
    (dataset.accuracyBy score).meanAveragePrecision = 1 ↔ dataset.IsSeparated score := by
  have some : dataset.judgedQueries.map (Query.precisionBy score) ≠ [] :=
    mt List.map_eq_nil_iff.mp (judgedQueries_ne_nil isProblem)
  rw [meanAveragePrecision_eq_mean, mean_eq_one_iff some (precisionBy_le_one score _),
    List.forall_mem_map]
  constructor
  · intro whole query member high highMem low lowMem
    have judged := mem_judgedQueries.mpr ⟨member, List.ne_nil_of_mem highMem⟩
    have someScores : query.relevant.map score ≠ [] :=
      List.ne_nil_of_mem (List.mem_map_of_mem highMem)
    exact (Metrics.averagePrecision_eq_one_iff someScores).mp (whole query judged) _
      (List.mem_map_of_mem highMem) _ (List.mem_map_of_mem lowMem)
  · intro separated query judged
    obtain ⟨member, someRelevant⟩ := mem_judgedQueries.mp judged
    apply (Metrics.averagePrecision_eq_one_iff (mt List.map_eq_nil_iff.mp someRelevant)).mpr
    simpa only [List.forall_mem_map] using separated query member

end Dataset

namespace Model

open Dataset

variable {model : Model ℚ} {dataset : Dataset ℚ} {samples : Samples ℚ}

/-! ## Through the scores of a model -/

theorem judgedQueries_total (model : Model ℚ) (dataset : Dataset ℚ) :
    (Tally.total (dataset.queries.map model.tallyOf)).judgedQueries =
      dataset.judgedQueries.length := by
  have each (query : Query ℚ) : (model.tallyOf query).judgedQueries =
      if !query.relevant.isEmpty then 1 else 0 := by
    cases kind : query.relevant.isEmpty <;> simp [tallyOf, kind]
  simp only [Tally.total, List.map_map, Function.comp_def, each, sum_map_ite_eq_countP,
    List.countP_eq_length_filter, judgedQueries]

/-- Queries that are not judged add nothing to the precisions. -/
theorem precisionSum_total (model : Model ℚ) (dataset : Dataset ℚ) :
    (Tally.total (dataset.queries.map model.tallyOf)).precisionSum =
      (dataset.judgedQueries.map (Query.precisionBy (·.dot model.weights))).sum := by
  rw [judgedQueries, sum_map_filter]
  simp only [Tally.total, List.map_map]
  congr 1
  apply List.map_congr_left
  intro query _
  cases kind : query.relevant.isEmpty with
  | true => simp [tallyOf, Metrics.averagePrecision, kind]
  | false => rfl

/-- The tallies of all queries sum up to what the scores of the vectors say. -/
theorem summary_eq_accuracyBy (model : Model ℚ) (dataset : Dataset ℚ) :
    (Tally.total (dataset.queries.map model.tallyOf)).summary =
      dataset.accuracyBy (·.dot model.weights) := by
  have share := rankingAccuracy_summary model dataset
  have mean := Tally.meanAveragePrecision_eq (Tally.total (dataset.queries.map model.tallyOf))
  have ahead (pair : RankingPair) : 0 < RankingPair.lead model.weights pair ↔
      pair.2.dot model.weights < pair.1.dot model.weights := sub_pos
  simp only [ahead] at share
  rw [precisionSum_total, judgedQueries_total] at mean
  rw [accuracyBy, ← share, ← mean, ← totalPairs_total model, ← judgedQueries_total model]
  rfl

theorem evaluate?_of_noPairs (read : samples.toDataset? = .ok dataset)
    (none : dataset.pairCount = 0) : model.evaluate? samples = .error (.noPairs .evaluation) := by
  have notProblem : dataset.isRankingProblem = false := by simp [isRankingProblem, none]
  simp [evaluate?, Samples.toRankingProblem?, read, notProblem]

theorem evaluate?_of_mismatch (read : samples.toDataset? = .ok dataset)
    (isProblem : dataset.isRankingProblem = true) {dimension : Nat}
    (known : dataset.dimension = some dimension) (differs : dimension ≠ model.dimension) :
    model.evaluate? samples =
      .error (.dimensionMismatch (.int model.dimension) dimension "evaluation samples") := by
  simp [evaluate?, Samples.toRankingProblem?, read, isProblem, tally?, known, differs]

/-- Vectors of the dimension of a model are judged by the scores that it gives them. -/
theorem exists_scores (read : samples.toDataset? = .ok dataset)
    (isProblem : dataset.isRankingProblem = true)
    (fits : dataset.dimension = some model.dimension) :
    ∃ score : FeatureVector ℚ → ℚ,
      (∀ query ∈ dataset.queries, ∀ vector ∈ query.vectors,
        model.score? vector = .ok (score vector)) ∧
      model.evaluate? samples = .ok (dataset.accuracyBy score) := by
  refine ⟨(·.dot model.weights), ?_, ?_⟩
  · intro query member vector vectorMem
    apply score?_eq
    rw [dimension_eq_width member vectorMem, width, fits, Option.getD_some]
  · rw [← summary_eq_accuracyBy]
    apply evaluate?_eq read isProblem
    intro dimension known
    exact Option.some.inj (known.symm.trans fits)

/-- **An evaluation reports what the scores of the model say.**  Samples without pairs are refused,
and then those whose vectors have another dimension than the model.  For all others the model gives
every vector a score, dense or sparse, and the evaluation reports the share of the pairs in which
the relevant vector has the higher score, and the mean of the average precisions of these scores
over the queries with relevant vectors. -/
theorem evaluate?_scores (model : Model ℚ) (read : samples.toDataset? = .ok dataset) :
    (dataset.pairCount = 0 → model.evaluate? samples = .error (.noPairs .evaluation)) ∧
    (0 < dataset.pairCount → ∃ dimension, dataset.dimension = some dimension ∧
      (dimension ≠ model.dimension → model.evaluate? samples =
        .error (.dimensionMismatch (.int model.dimension) dimension "evaluation samples")) ∧
      (dimension = model.dimension → ∃ score : FeatureVector ℚ → ℚ,
        (∀ query ∈ dataset.queries, ∀ vector ∈ query.vectors,
          model.score? vector = .ok (score vector)) ∧
        model.evaluate? samples = .ok {
          rankingAccuracy :=
            (dataset.pairs.countP fun pair => score pair.2 < score pair.1 : ℕ) / dataset.pairCount
          meanAveragePrecision :=
            ((dataset.queries.filter (!·.relevant.isEmpty)).map fun query =>
              Metrics.averagePrecision (query.relevant.map score)
                (query.nonrelevant.map score)).sum /
            (dataset.queries.filter (!·.relevant.isEmpty)).length
          pairCount := dataset.pairCount
          queryCount := (dataset.queries.filter (!·.relevant.isEmpty)).length })) := by
  refine ⟨evaluate?_of_noPairs read, fun positive => ?_⟩
  have isProblem : dataset.isRankingProblem = true := decide_eq_true positive
  obtain ⟨dimension, known⟩ := exists_dimension isProblem
  refine ⟨dimension, known, evaluate?_of_mismatch read isProblem known, ?_⟩
  rintro rfl
  exact exists_scores read isProblem known

/-- A tie and a query without a pair, for which the second vector is sparse. -/
theorem evaluate?_scores_tie :
    let dataset : Dataset ℚ :=
      ⟨[⟨[.dense [1]], [.dense [1], .sparse 1 []]⟩, ⟨[.dense [2]], []⟩, ⟨[], [.dense [3]]⟩],
        some 1, rfl⟩
    (Model.mk [(1 : ℚ)]).evaluate? (.dataset dataset) = .ok ⟨1 / 2, 3 / 4, 2, 2⟩ := by
  intro dataset
  have read : (Samples.dataset dataset).toDataset? = .ok dataset := rfl
  obtain ⟨dimension, known, -, judges⟩ := (evaluate?_scores (Model.mk [1]) read).2 (by decide)
  obtain ⟨score, scored, judged⟩ := judges (Option.some.inj known).symm
  have score_eq (vector : FeatureVector ℚ) (fits : vector.dimension = 1)
      (member : ∃ query ∈ dataset.queries, vector ∈ query.vectors) :
      score vector = vector.dot [1] := by
    obtain ⟨query, queryMem, vectorMem⟩ := member
    exact Except.ok.inj ((scored query queryMem vector vectorMem).symm.trans (score?_eq fits))
  have one : score (.dense [1]) = 1 := by
    rw [score_eq _ rfl (by simp [dataset, Query.vectors])]
    decide +kernel
  have zero : score (.sparse 1 []) = 0 := by
    rw [score_eq _ rfl (by simp [dataset, Query.vectors])]
    decide +kernel
  have tied : Metrics.averagePrecision [(1 : ℚ)] [1, 0] = 1 / 2 := by
    rw [Metrics.averagePrecision_eq_sharesBehind (.refl [1]) (List.pairwise_singleton _ _)]
    decide +kernel
  have alone : Metrics.averagePrecision [score (.dense [2])] [] = 1 :=
    (Metrics.averagePrecision_eq_one_iff (List.cons_ne_nil _ _)).mpr (by simp)
  rw [judged]
  norm_num [dataset, pairs, Query.pairs, pairCount, Query.pairCount, List.product, one, zero,
    tied, alone]

/-- **Both measures are whole in the same case.**  An evaluation finds an accuracy of one exactly
if it finds a mean average precision of one.  Both are shares of the whole, and some of the
precision is always reached. -/
theorem evaluate?_perfect (read : samples.toDataset? = .ok dataset)
    (positive : 0 < dataset.pairCount) (fits : dataset.dimension = some model.dimension) :
    ∃ accuracy, model.evaluate? samples = .ok accuracy ∧
      (accuracy.rankingAccuracy = 1 ↔ accuracy.meanAveragePrecision = 1) ∧
      0 ≤ accuracy.rankingAccuracy ∧ accuracy.rankingAccuracy ≤ 1 ∧
      0 < accuracy.meanAveragePrecision ∧ accuracy.meanAveragePrecision ≤ 1 := by
  have isProblem : dataset.isRankingProblem = true := decide_eq_true positive
  obtain ⟨score, -, judged⟩ := exists_scores read isProblem fits
  refine ⟨dataset.accuracyBy score, judged, ?_, ?_, rankingAccuracy_le_one score dataset,
    meanAveragePrecision_pos isProblem, meanAveragePrecision_le_one score dataset⟩
  · rw [rankingAccuracy_eq_one_iff isProblem, meanAveragePrecision_eq_one_iff isProblem]
  · exact div_nonneg (Nat.cast_nonneg _) (Nat.cast_nonneg _)

/-- A query whose only pair is in the right order next to one that has no pair. -/
theorem evaluate?_perfect_ordered :
    let dataset : Dataset ℚ := ⟨[⟨[.dense [1]], [.sparse 1 []]⟩, ⟨[.dense [0]], []⟩], some 1, rfl⟩
    0 < dataset.pairCount ∧ dataset.dimension = some (Model.mk [(1 : ℚ)]).dimension ∧
      ∃ accuracy, (Model.mk [1]).evaluate? (.dataset dataset) = .ok accuracy ∧
        accuracy.rankingAccuracy = 1 ∧ accuracy.meanAveragePrecision = 1 := by
  intro dataset
  have read : (Samples.dataset dataset).toDataset? = .ok dataset := rfl
  have positive : 0 < dataset.pairCount := by decide
  have fits : dataset.dimension = some (Model.mk [(1 : ℚ)]).dimension := rfl
  obtain ⟨accuracy, judged, agree, -⟩ := evaluate?_perfect read positive fits
  have isProblem : dataset.isRankingProblem = true := decide_eq_true positive
  have modelFits : (Model.mk [1]).Fits dataset := fun _ known => Option.some.inj known.symm
  have whole : accuracy.rankingAccuracy = 1 := by
    rw [Except.ok.inj (judged.symm.trans (evaluate?_eq read isProblem modelFits))]
    apply summary_eq_one isProblem
    decide +kernel
  exact ⟨positive, fits, accuracy, judged, whole, agree.mp whole⟩

end Model

end HingeRank
