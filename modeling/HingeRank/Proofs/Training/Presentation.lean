import Mathlib
import HingeRank.Proofs.Training.Guarantee

/-!
# Presentations of samples

Neither the risk nor a training depends on how the same orderings are presented.
-/

namespace HingeRank

/-!
## Presentations of the same orderings

Queries can be put into another order, and so can the vectors on either side of a query.
Queries without pairs come and go, and all queries together can be repeated.  None of this
changes the average of any quantity over the pairs, and a loss consists of such averages.
-/

section

open Linear RankingPair

/-! ### Averages over pairs -/

/-- The average of a quantity over pairs. -/
def average (pairs : List RankingPair) (value : RankingPair → ℚ) : ℚ :=
  (pairs.map value).sum / pairs.length

/-- Every quantity has the same average over both lists. -/
def SameAverages (pairs others : List RankingPair) : Prop :=
  ∀ value, average others value = average pairs value

namespace SameAverages

variable {pairs others : List RankingPair}

theorem of_perm (perm : others.Perm pairs) : SameAverages pairs others := by
  intro value
  rw [average, average, perm.length_eq, (perm.map value).sum_eq]

/-- Repeating all pairs repeats their sum and their number. -/
theorem of_replicate (pairs : List RankingPair) {times : Nat} (some : 0 < times) :
    SameAverages pairs (List.replicate times pairs).flatten := by
  intro value
  have some' : (times : ℚ) ≠ 0 := Nat.cast_ne_zero.mpr some.ne'
  have sum_eq : ((List.replicate times pairs).flatten.map value).sum =
      times * (pairs.map value).sum := by
    rw [List.map_flatten, List.map_replicate, List.sum_flatten, List.map_replicate,
      List.sum_replicate, nsmul_eq_mul]
  have length_eq : (List.replicate times pairs).flatten.length = times * pairs.length := by
    simp
  rw [average, average, sum_eq, length_eq, Nat.cast_mul]
  exact mul_div_mul_left _ _ some'

/-- The average of one tells whether there are any pairs. -/
theorem ne_nil (same : SameAverages pairs others) (some : pairs ≠ []) : others ≠ [] := by
  intro none
  have one := same fun _ => 1
  have positive : (pairs.length : ℚ) ≠ 0 :=
    Nat.cast_ne_zero.mpr (List.length_pos_iff.mpr some).ne'
  rw [none] at one
  simp [average, positive] at one

end SameAverages

/-! ### Changes of presentation -/

/-- One change of how orderings are presented. -/
inductive Recast (dimension : Nat) : List (Query ℚ) → List (Query ℚ) → Prop where
  | reorder {queries others : List (Query ℚ)} (perm : others.Perm queries) :
      Recast dimension queries others
  | shuffle {before after : List (Query ℚ)} {query other : Query ℚ}
      (relevant : other.relevant.Perm query.relevant)
      (nonrelevant : other.nonrelevant.Perm query.nonrelevant) :
      Recast dimension (before ++ query :: after) (before ++ other :: after)
  | insert {before after : List (Query ℚ)} {query : Query ℚ} (pairless : query.pairCount = 0)
      (fits : ∀ vector ∈ query.vectors, vector.dimension = dimension) :
      Recast dimension (before ++ after) (before ++ query :: after)
  | delete {before after : List (Query ℚ)} {query : Query ℚ} (pairless : query.pairCount = 0) :
      Recast dimension (before ++ query :: after) (before ++ after)
  | replicate {queries : List (Query ℚ)} {times : Nat} (some : 0 < times) :
      Recast dimension queries (List.replicate times queries).flatten

/-- Any number of changes one after the other. -/
def Recasts (dimension : Nat) : List (Query ℚ) → List (Query ℚ) → Prop :=
  Relation.ReflTransGen (Recast dimension)

theorem Query.pairs_eq_nil {query : Query ℚ} (pairless : query.pairCount = 0) :
    query.pairs = [] := by
  rw [← List.length_eq_zero_iff, Query.length_pairs, pairless]

namespace Recast

variable {dimension : Nat} {queries others : List (Query ℚ)}

/-- A change keeps all averages over the pairs. -/
theorem sameAverages (recast : Recast dimension queries others) :
    SameAverages (queries.flatMap (·.pairs)) (others.flatMap (·.pairs)) := by
  cases recast with
  | reorder perm =>
      apply SameAverages.of_perm
      exact perm.flatMap_right _
  | @shuffle before after query other relevant nonrelevant =>
      apply SameAverages.of_perm
      rw [List.flatMap_append, List.flatMap_append, List.flatMap_cons, List.flatMap_cons]
      apply List.Perm.append_left
      apply List.Perm.append_right
      exact relevant.product nonrelevant
  | insert pairless =>
      rw [List.flatMap_append, List.flatMap_append, List.flatMap_cons,
        Query.pairs_eq_nil pairless]
      exact fun _ => rfl
  | delete pairless =>
      rw [List.flatMap_append, List.flatMap_append, List.flatMap_cons,
        Query.pairs_eq_nil pairless]
      exact fun _ => rfl
  | replicate some =>
      rw [List.flatMap_def, List.flatMap_def, List.map_flatten, List.map_replicate,
        List.flatten_flatten, List.map_replicate]
      exact SameAverages.of_replicate _ some

/-- A change keeps the dimension of all vectors. -/
theorem agree (recast : Recast dimension queries others) (before : Agree dimension queries) :
    Agree dimension others := by
  cases recast with
  | reorder perm => exact before.subset fun query member => perm.subset member
  | shuffle relevant nonrelevant =>
      rw [Agree.append_cons_iff] at before ⊢
      constructor
      · intro vector member
        exact before.1 vector ((relevant.append nonrelevant).subset member)
      · exact before.2
  | insert pairless fits => exact Agree.append_cons_iff.mpr ⟨fits, before⟩
  | delete pairless => exact (Agree.append_cons_iff.mp before).2
  | replicate some =>
      apply before.subset
      intro changed member
      obtain ⟨copy, copyMem, changedMem⟩ := List.mem_flatten.mp member
      rw [List.eq_of_mem_replicate copyMem] at changedMem
      exact changedMem

end Recast

namespace Recasts

variable {dimension : Nat} {queries others : List (Query ℚ)}

theorem sameAverages (recasts : Recasts dimension queries others) :
    SameAverages (queries.flatMap (·.pairs)) (others.flatMap (·.pairs)) := by
  induction recasts with
  | refl => exact fun _ => rfl
  | tail _ recast ih => exact fun value => (recast.sameAverages value).trans (ih value)

theorem agree (recasts : Recasts dimension queries others) (before : Agree dimension queries) :
    Agree dimension others := by
  induction recasts with
  | refl => exact before
  | tail _ recast ih => exact recast.agree ih

end Recasts

namespace Dataset

variable {dataset other : Dataset ℚ}

theorem isRankingProblem_iff : dataset.isRankingProblem = true ↔ dataset.pairs ≠ [] := by
  rw [isRankingProblem, decide_eq_true_iff, ← length_pairs, List.length_pos_iff]

/-- Changes of presentation lead from one dataset to another of the same dimension. -/
theorem exists_recast (isProblem : dataset.isRankingProblem = true) {others : List (Query ℚ)}
    (recasts : Recasts dataset.width dataset.queries others) :
    ∃ other, ofQueries? others = .ok other ∧ other.queries = others ∧
      other.isRankingProblem = true ∧ other.width = dataset.width ∧
      SameAverages dataset.pairs other.pairs := by
  obtain ⟨other, built, queries_eq, only⟩ := (recasts.agree dataset.agree).ofQueries?_eq
  have same : SameAverages dataset.pairs other.pairs := by
    rw [pairs, pairs, queries_eq]
    exact recasts.sameAverages
  have otherProblem : other.isRankingProblem = true :=
    isRankingProblem_iff.mpr (same.ne_nil (isRankingProblem_iff.mp isProblem))
  exact ⟨other, built, queries_eq, otherProblem, only _ (dimension_eq_some otherProblem), same⟩

/-- The leads of missed pairs have an average over all pairs. -/
theorem sum_missed_eq_average (dataset : Dataset ℚ) (margin : ℚ) (weights others : List ℚ) :
    -((dataset.missed margin weights).map (lead others)).sum / dataset.pairCount =
      -average dataset.pairs fun pair =>
        if isMissed margin weights pair then lead others pair else 0 := by
  rw [missed, sum_map_filter, average, length_pairs, neg_div]

section SameAverages

variable (same : SameAverages dataset.pairs other.pairs) (margin : ℚ)

include same

theorem risk_eq_of_sameAverages (weights : List ℚ) :
    other.risk margin weights = dataset.risk margin weights := by
  rw [risk, risk, ← length_pairs, ← length_pairs]
  exact same (shortfall margin weights)

theorem slopeOf_eq_of_sameAverages (width_eq : other.width = dataset.width)
    (weights : List ℚ) : other.slopeOf (other.missed margin weights) =
      dataset.slopeOf (dataset.missed margin weights) := by
  have known := dataset.missed_sublist margin weights
  have isSlope : other.IsSlope margin weights
      (dataset.slopeOf (dataset.missed margin weights)) := by
    constructor
    · rw [length_slopeOf known, width_eq]
    · intro others others_eq
      rw [dot_slopeOf known (others_eq.trans width_eq), sum_missed_eq_average,
        sum_missed_eq_average other]
      exact congrArg _ (same _).symm
  exact isSlope.eq_slopeOf.symm

/-- Datasets with the same averages have the same oracle. -/
theorem pairOracle_eq_of_sameAverages (width_eq : other.width = dataset.width) :
    other.pairOracle margin = dataset.pairOracle margin := by
  simp only [pairOracle, width_eq, risk_eq_of_sameAverages same,
    slopeOf_eq_of_sameAverages same margin width_eq]

end SameAverages

end Dataset

end

/-!
## Training does not depend on the presentation

Training meets a dataset only through its oracle, and datasets that present the same
orderings have the same oracle.  The samples may come as a dataset, as a single query, or as
a sequence or stream of queries.  Without a time limit the runs differ in nothing but the time
that they report.
-/

/-! ### Samples made of queries -/

/-- The samples consist of these queries, in one form or another. -/
inductive Samples.Presents : Samples ℚ → List (Query ℚ) → Prop where
  | dataset (content : Dataset ℚ) : Presents (.dataset content) content.queries
  | query (content : Query ℚ) : Presents (.query content) [content]
  | sequence (queries : List (Query ℚ)) : Presents (.sequence (queries.map .query)) queries
  | stream (queries : List (Query ℚ)) : Presents (.stream (queries.map .query)) queries

namespace Samples

variable {samples : Samples ℚ} {queries : List (Query ℚ)} {dataset : Dataset ℚ}

theorem Presents.lists (presents : samples.Presents queries) : samples.Lists queries := by
  cases presents with
  | dataset content => exact .dataset content
  | query content => exact .query content
  | sequence queries => exact .sequence queries
  | stream queries => exact .stream queries

/-- Every form of samples is read as the dataset of its queries. -/
theorem Presents.toDataset?_eq (presents : samples.Presents queries) :
    samples.toDataset? = Dataset.ofQueries? queries :=
  presents.lists.toDataset?_eq

/-- Samples that ask for some ordering are accepted as a ranking problem. -/
theorem Presents.toRankingProblem?_eq (presents : samples.Presents queries)
    (built : Dataset.ofQueries? queries = .ok dataset)
    (isProblem : dataset.isRankingProblem = true) (purpose : Purpose) :
    samples.toRankingProblem? purpose = .ok dataset := by
  rw [toRankingProblem?_of_read (presents.toDataset?_eq.trans built), if_pos isProblem]

end Samples

namespace RankingLoss

variable {dataset other : Dataset ℚ} {margin : ℚ} {loss otherLoss : RankingLoss ℚ}

/-- The losses of datasets with the same averages give the same answers. -/
theorem Averages.risk?_eq_of_sameAverages (averages : loss.Averages dataset margin)
    (otherAverages : otherLoss.Averages other margin) (width_eq : other.width = dataset.width)
    (same : SameAverages dataset.pairs other.pairs) (weights : List ℚ) :
    otherLoss.risk? weights = loss.risk? weights := by
  have dimension_eq : otherLoss.dimension = loss.dimension := by
    rw [otherAverages.dimension_eq, width_eq, averages.dimension_eq]
  have risk_eq : otherLoss.risk weights = loss.risk weights := by
    apply Prod.ext
    · rw [otherAverages.risk_eq, averages.risk_eq, Dataset.risk_eq_of_sameAverages same]
    · rw [(otherAverages.isSlope weights).eq_slopeOf, (averages.isSlope weights).eq_slopeOf,
        Dataset.slopeOf_eq_of_sameAverages same margin width_eq]
  rw [risk?, risk?, dimension_eq, risk_eq]

end RankingLoss

namespace TrainerConfig

variable {config : TrainerConfig ℚ} {overrides : OptimizerConfig ℚ} {dataset : Dataset ℚ}

/-- Training on a dataset has a result, which the optimizer reports. -/
theorem exists_train_result (valid : config.Valid) (overridesValid : overrides.Valid)
    (dataset : Dataset ℚ) (clock : Nat → ℚ) (readings : Nat) :
    ∃ report, ((config.optimizer overrides).optimize (dataset.pairOracle 1) config.tradeoff clock
        readings 0).result = .ok report ∧
      (config.train overrides dataset clock readings).result = .ok ⟨⟨report.weights⟩, report⟩ := by
  obtain ⟨count, -, workers⟩ := valid.workers_pos
  have represents := dataset.pairOracle_represents 1
  have optimizerValid := valid.optimizer overridesValid
  have invariant := OptimizerConfig.certified_invariant optimizerValid valid.tradeoff_pos represents
  have started : (OptimizerState.initial dataset.width).Certified (config.optimizer overrides)
      (dataset.risk 1) config.tradeoff dataset.width :=
    OptimizerState.initial_certified _ valid.tradeoff_pos represents.nonneg
  obtain ⟨report, state, workspace, outcome, -⟩ :=
    OptimizerConfig.optimize_reports invariant optimizerValid.computable clock readings 0
      ⟨started, PlaneArena.initial_below _ represents.nonneg⟩
  refine ⟨report, outcome, ?_⟩
  rw [train_result dataset clock readings workers, outcome]
  rfl

/-- Samples that present the same orderings have losses with the same answers, and training on
them without a time limit has the same result, by any clock. -/
theorem train_recasts (valid : config.Valid) (overridesValid : overrides.Valid)
    (untimed : config.maxSeconds = none) (isProblem : dataset.isRankingProblem = true)
    {others : List (Query ℚ)} (recasts : Recasts dataset.width dataset.queries others)
    {samples otherSamples : Samples ℚ} (presents : samples.Presents dataset.queries)
    (otherPresents : otherSamples.Presents others) (clock otherClock : Nat → ℚ)
    (readings otherReadings : Nat) :
    ∃ other, other.queries = others ∧
      (∀ purpose, samples.toRankingProblem? purpose = .ok dataset ∧
        otherSamples.toRankingProblem? purpose = .ok other) ∧
      (∀ margin (workers otherWorkers : Int), ∃ loss otherLoss,
        RankingLoss.ofDataset? dataset margin (.whole workers) = .ok loss ∧
        RankingLoss.ofDataset? other margin (.whole otherWorkers) = .ok otherLoss ∧
        ∀ weights, otherLoss.risk? weights = loss.risk? weights) ∧
      ∃ result otherResult,
        (config.train overrides dataset clock readings).result = .ok result ∧
        (config.train overrides other otherClock otherReadings).result = .ok otherResult ∧
        otherResult.model = result.model ∧
        { otherResult.report with elapsed := result.report.elapsed } = result.report := by
  obtain ⟨other, built, queries_eq, otherProblem, width_eq, same⟩ :=
    Dataset.exists_recast isProblem recasts
  refine ⟨other, queries_eq, ?_, ?_, ?_⟩
  · intro purpose
    constructor
    · exact presents.toRankingProblem?_eq dataset.ofQueries?_queries isProblem purpose
    · exact otherPresents.toRankingProblem?_eq built otherProblem purpose
  · intro margin workers otherWorkers
    obtain ⟨loss, lossBuilt⟩ := RankingLoss.ofDataset?_whole dataset margin workers
    obtain ⟨otherLoss, otherBuilt⟩ := RankingLoss.ofDataset?_whole other margin otherWorkers
    have averages := RankingLoss.ofDataset?_averages lossBuilt
    have otherAverages := RankingLoss.ofDataset?_averages otherBuilt
    exact ⟨loss, otherLoss, lossBuilt, otherBuilt,
      averages.risk?_eq_of_sameAverages otherAverages width_eq same⟩
  · obtain ⟨report, outcome, trained⟩ :=
      exists_train_result valid overridesValid dataset clock readings
    obtain ⟨otherReport, otherOutcome, otherTrained⟩ :=
      exists_train_result valid overridesValid other otherClock otherReadings
    rw [Dataset.pairOracle_eq_of_sameAverages same 1 width_eq] at otherOutcome
    have optimizerUntimed : (config.optimizer overrides).maxSeconds = none := untimed
    obtain ⟨elapsed, reported⟩ :=
      OptimizerConfig.optimize_untimed optimizerUntimed outcome otherClock otherReadings
    have report_eq : otherReport = { report with elapsed } :=
      Except.ok.inj (otherOutcome.symm.trans reported)
    refine ⟨_, _, trained, otherTrained, ?_, ?_⟩
    · rw [report_eq]
    · rw [report_eq]

/-- A bare query is trained on like a stream that repeats it, once with its vectors turned
around, behind a query without pairs. -/
theorem train_recasts_repeated_query :
    let query : Query ℚ := ⟨[.dense [1]], [.dense [0], .sparse 1 []]⟩
    let turned : Query ℚ := ⟨[.dense [1]], [.sparse 1 [], .dense [0]]⟩
    let pairless : Query ℚ := ⟨[], [.dense [5]]⟩
    let dataset : Dataset ℚ := ⟨[query], some 1, rfl⟩
    let config : TrainerConfig ℚ :=
      { tradeoff := 1, epsilon := 1 / 100, maxIterations := 4, nonnegativeWeights := false
        verbose := false, workers := .whole 1, maxSeconds := none }
    config.Valid ∧ OptimizerConfig.coarse.Valid ∧ config.maxSeconds = none ∧
      dataset.isRankingProblem = true ∧
      Recasts dataset.width dataset.queries [pairless, turned, query] ∧
      (Samples.query query).Presents dataset.queries ∧
      (Samples.stream [.query pairless, .query turned, .query query]).Presents
        [pairless, turned, query] ∧
      ∃ other : Dataset ℚ, other.queries = [pairless, turned, query] ∧
        ∃ result otherResult,
          (config.train .coarse dataset (fun reading => reading) 0).result = .ok result ∧
          (config.train .coarse other (fun reading => 2 * reading) 7).result = .ok otherResult ∧
          otherResult.model = result.model ∧
          { otherResult.report with elapsed := result.report.elapsed } = result.report := by
  intro query turned pairless dataset config
  have valid : config.Valid :=
    ⟨one_pos, by norm_num [config], ⟨1, le_rfl, rfl⟩, by simp [config], rfl⟩
  have recasts : Recasts dataset.width dataset.queries [pairless, turned, query] := by
    have doubled : Recast dataset.width [query] [query, query] :=
      @Recast.replicate dataset.width [query] 2 (by decide)
    have shuffled : Recast dataset.width [query, query] [turned, query] :=
      @Recast.shuffle dataset.width [] [query] query turned (.refl _) (.swap _ _ _)
    have extended : Recast dataset.width [turned, query] [pairless, turned, query] :=
      @Recast.insert dataset.width [] [turned, query] pairless rfl (by decide)
    exact ((Relation.ReflTransGen.single doubled).tail shuffled).tail extended
  have isProblem : dataset.isRankingProblem = true := by decide
  have presents : (Samples.query query).Presents dataset.queries := .query query
  have otherPresents : (Samples.stream [.query pairless, .query turned, .query query]).Presents
      [pairless, turned, query] := .stream [pairless, turned, query]
  obtain ⟨other, queries_eq, -, -, trained⟩ := train_recasts valid OptimizerConfig.coarse_valid rfl
    isProblem recasts presents otherPresents (fun reading => reading) (fun reading => 2 * reading)
    0 7
  exact ⟨valid, OptimizerConfig.coarse_valid, rfl, isProblem, recasts, presents, otherPresents,
    other, queries_eq, trained⟩

end TrainerConfig

end HingeRank
