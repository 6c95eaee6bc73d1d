import Mathlib
import HingeRank.Evaluation
import HingeRank.Proofs.Ranking.Risk

/-!
# Ranking accuracy

Pairs in the right order are counted by searching, added up, and bounded by the risk.
-/

namespace HingeRank

/-!
## Counting by binary search

In ascending scores those below a given score stand in front, so that the position of the
first one that is not below is their number.  Adding up these positions over the relevant
scores counts the pairs in the right order; a tie is not in the right order.
-/

namespace Metrics

@[simp] theorem ascends_eq_true {left right : ℚ} : ascends left right = true ↔ left ≤ right := by
  simp [ascends]

@[simp] theorem isBelow_eq {left right : ℚ} : isBelow left right = decide (left < right) := by
  simp [isBelow]

/-! ### Properties of a front part -/

section Front

variable {α : Type} {passes : α → Bool} {entries : List α}

/-- Where the first entry fails a test that only a front part passes, all entries do. -/
theorem countP_eq_zero_of_head {first : α}
    (front : (first :: entries).Pairwise fun left right => passes right = true → passes left = true)
    (fails : passes first = false) : (first :: entries).countP passes = 0 := by
  apply List.countP_eq_zero.mpr
  intro entry member
  rcases List.mem_cons.mp member with rfl | later
  · simp [fails]
  · intro passed
    have headPassed := (List.pairwise_cons.mp front).1 entry later passed
    simp [fails] at headPassed

/-- A test that only a front part passes is passed at the positions below the number of
entries that pass it. -/
theorem passes_iff_lt_countP
    (front : entries.Pairwise fun left right => passes right = true → passes left = true)
    {position : Nat} (inBounds : position < entries.length) :
    passes entries[position] = true ↔ position < entries.countP passes := by
  induction entries generalizing position with
  | nil => simp at inBounds
  | cons first entries ih =>
      cases kind : passes first with
      | false =>
          have none := countP_eq_zero_of_head front kind
          have fails := List.countP_eq_zero.mp none _ (List.getElem_mem inBounds)
          simp [none, fails]
      | true =>
          cases position with
          | zero => simp [kind]
          | succ position =>
              have later := ih (List.pairwise_cons.mp front).2 (Nat.lt_of_succ_lt_succ inBounds)
              simp [kind, later]

end Front

/-- The search closes in on the boundary between the entries that pass and those that
fail. -/
theorem firstFailing_eq {passes : ℚ → Bool} {sorted : Array ℚ} {boundary low high : Nat}
    (split : ∀ position (inBounds : position < sorted.size),
      passes sorted[position] = true ↔ position < boundary)
    (above : low ≤ boundary) (below : boundary ≤ high) (inside : high ≤ sorted.size) :
    firstFailing passes sorted low high = boundary := by
  fun_induction firstFailing passes sorted low high with
  | case1 low high isOpen middle passed ih =>
      have inBounds : middle < sorted.size := by omega
      apply ih
      · rw [Array.getElem?_eq_getElem inBounds] at passed
        exact (split middle inBounds).mp passed
      · exact below
      · exact inside
  | case2 low high isOpen middle failed ih =>
      have inBounds : middle < sorted.size := by omega
      apply ih
      · exact above
      · rw [Array.getElem?_eq_getElem inBounds] at failed
        by_contra beyond
        exact failed ((split middle inBounds).mpr (not_le.mp beyond))
      · omega
  | case3 low high closed => omega

/-- The first score in ascending order that is not below a given one stands behind exactly
those that are. -/
theorem firstFailing_mergeSort (scores : List ℚ) (score : ℚ) :
    firstFailing (isBelow · score) (scores.mergeSort ascends).toArray 0
        (scores.mergeSort ascends).toArray.size = scores.countP (· < score) := by
  have ascending : (scores.mergeSort ascends).Pairwise fun left right => left ≤ right := by
    have sorted := @List.pairwise_mergeSort _ (ascends (K := ℚ))
      (by simpa using fun first second third => le_trans)
      (by simpa using le_total) scores
    simpa using sorted
  have front : (scores.mergeSort ascends).Pairwise fun left right =>
      isBelow right score = true → isBelow left score = true := by
    apply ascending.imp
    intro left right atMost
    simpa using atMost.trans_lt
  have counted : (scores.mergeSort ascends).countP (isBelow · score) =
      scores.countP (· < score) := by
    rw [(List.mergeSort_perm scores ascends).countP_eq]
    simp
  rw [← counted]
  apply firstFailing_eq
  · intro position inBounds
    exact passes_iff_lt_countP front inBounds
  · exact Nat.zero_le _
  · exact List.countP_le_length
  · exact le_rfl

/-- Every relevant score counts the nonrelevant ones strictly below it. -/
theorem correctPairs_eq (relevant nonrelevant : List ℚ) :
    correctPairs relevant nonrelevant =
      (relevant.map fun score => nonrelevant.countP (· < score)).sum := by
  simp only [correctPairs, firstFailing_mergeSort, List.sum_eq_foldr]

end Metrics

/-!
## What an evaluation adds up

A model is judged by adding up what every query contributes.  Without stacks, sorting and
searching a query contributes the number of its pairs in which the relevant vector leads,
the number of its pairs, and its average precision if it has relevant vectors.

Vectors of one dimension can always be scored, so that judging a dataset succeeds unless the
model has another dimension.
-/

section

open RankingPair

/-! ### Sums of contributions -/

namespace Tally

/-- All contributions added up. -/
def total (tallies : List (Tally ℚ)) : Tally ℚ where
  correctPairs := (tallies.map (·.correctPairs)).sum
  totalPairs := (tallies.map (·.totalPairs)).sum
  precisionSum := (tallies.map (·.precisionSum)).sum
  judgedQueries := (tallies.map (·.judgedQueries)).sum

theorem foldl_add_eq (tallies : List (Tally ℚ)) (start : Tally ℚ) :
    tallies.foldl add start = start.add (total tallies) := by
  induction tallies generalizing start with
  | nil => simp [total, add]
  | cons tally tallies ih =>
      rw [List.foldl_cons, ih]
      simp [total, add, add_assoc]

/-- Contributions are added up from nothing. -/
@[simp] theorem foldl_add_zero (tallies : List (Tally ℚ)) :
    tallies.foldl add zero = total tallies := by
  rw [foldl_add_eq]
  simp [total, add, zero]

/-- The order in which groups of contributions are added up does not matter. -/
theorem total_flatten (groups : List (List (Tally ℚ))) :
    total groups.flatten = total (groups.map total) := by
  simp [total, List.map_flatten, List.sum_flatten, Function.comp_def]

/-- Without pairs the share of right ones counts as zero, as the quotient by zero does. -/
theorem rankingAccuracy_eq (tally : Tally ℚ) :
    tally.summary.rankingAccuracy = tally.correctPairs / tally.totalPairs := by
  simp only [summary, Scalar.ratio]
  split
  next none => rw [none, Nat.cast_zero, div_zero]
  next => rfl

theorem meanAveragePrecision_eq (tally : Tally ℚ) :
    tally.summary.meanAveragePrecision = tally.precisionSum / tally.judgedQueries := by
  simp only [summary]
  split
  next none => rw [none, Nat.cast_zero, div_zero]
  next => rfl

end Tally

/-! ### One query -/

namespace Query

/-- The pairs in which a weight vector puts the relevant vector strictly ahead. -/
def orderedCount (weights : List ℚ) (query : Query ℚ) : Nat :=
  query.pairs.countP fun pair => 0 < lead weights pair

/-- Counting by sorted scores counts the pairs in the right order. -/
theorem correctPairs_scores (weights : List ℚ) (query : Query ℚ) :
    Metrics.correctPairs (query.relevant.map (·.dot weights))
        (query.nonrelevant.map (·.dot weights)) = query.orderedCount weights := by
  rw [Metrics.correctPairs_eq, orderedCount, pairs, List.product, List.countP_flatMap, List.map_map]
  congr 1
  apply List.map_congr_left
  intro relevant _
  simp [List.countP_map, Function.comp_def, lead]

end Query

namespace Model

variable {model : Model ℚ} {query : Query ℚ} {dataset : Dataset ℚ}

/-- What a query contributes, from its pairs and scores. -/
def tallyOf (model : Model ℚ) (query : Query ℚ) : Tally ℚ where
  correctPairs := query.orderedCount model.weights
  totalPairs := query.pairCount
  precisionSum := Metrics.averagePrecision (query.relevant.map (·.dot model.weights))
    (query.nonrelevant.map (·.dot model.weights))
  judgedQueries := if query.relevant.isEmpty then 0 else 1

/-- Vectors of one dimension have scores, whether or not there are any. -/
theorem scoreAll?_eq {vectors : List (FeatureVector ℚ)} {dimension : Nat}
    (same : ∀ vector ∈ vectors, vector.dimension = dimension) :
    model.scoreAll? vectors = .ok (vectors.map (·.dot model.weights)) := by
  cases vectors with
  | nil => rfl
  | cons first rest =>
      obtain ⟨stack, stacked, holds⟩ :=
        FeatureStack.ofVectors?_holds (List.cons_ne_nil first rest) same
      simp only [scoreAll?, List.isEmpty_cons, Bool.false_eq_true, if_false, stacked]
      exact congrArg Except.ok (holds.scores_eq model.weights)

theorem tallyQuery?_eq {dimension : Nat}
    (same : ∀ vector ∈ query.vectors, vector.dimension = dimension) :
    model.tallyQuery? query = .ok (model.tallyOf query) := by
  have relevant := @scoreAll?_eq model _ dimension fun vector member =>
    same vector (List.mem_append_left query.nonrelevant member)
  have nonrelevant := @scoreAll?_eq model _ dimension fun vector member =>
    same vector (List.mem_append_right query.relevant member)
  simp only [tallyQuery?, relevant, nonrelevant, ok_bind, pure_eq_ok, Query.correctPairs_scores,
    List.isEmpty_map]
  rfl

/-! ### A whole dataset -/

/-- The model has the dimension of the vectors, if there are any. -/
def Fits (model : Model ℚ) (dataset : Dataset ℚ) : Prop :=
  ∀ dimension, dataset.dimension = some dimension → dimension = model.dimension

/-- A model that fits can judge a dataset. -/
theorem tally?_eq (fits : model.Fits dataset) :
    model.tally? dataset = .ok (.total (dataset.queries.map model.tallyOf)) := by
  have judged : dataset.queries.mapM model.tallyQuery? =
      .ok (dataset.queries.map model.tallyOf) := by
    apply mapM_eq_pure
    intro query member
    exact tallyQuery?_eq fun vector => Dataset.dimension_eq_width member
  unfold tally?
  cases known : dataset.dimension with
  | none => simp only [judged, ok_bind, Tally.foldl_add_zero, pure_eq_ok]
  | some dimension =>
      simp only [fits dimension known, ne_eq, not_true_eq_false, if_false, judged,
        ok_bind, Tally.foldl_add_zero, pure_eq_ok]

/-- The pairs of a dataset that a weight vector puts in the right order. -/
theorem correctPairs_total (model : Model ℚ) (dataset : Dataset ℚ) :
    (Tally.total (dataset.queries.map model.tallyOf)).correctPairs =
      dataset.pairs.countP fun pair => 0 < lead model.weights pair := by
  simp [Tally.total, tallyOf, Query.orderedCount, Dataset.pairs, List.countP_flatMap,
    Function.comp_def]

@[simp] theorem totalPairs_total (model : Model ℚ) (dataset : Dataset ℚ) :
    (Tally.total (dataset.queries.map model.tallyOf)).totalPairs = dataset.pairCount := by
  simp [Tally.total, tallyOf, Dataset.pairCount, List.sum_eq_foldr, Function.comp_def]

/-- Samples that ask for some ordering are judged by a model that fits. -/
theorem evaluate?_eq {samples : Samples ℚ} (read : samples.toDataset? = .ok dataset)
    (isProblem : dataset.isRankingProblem = true) (fits : model.Fits dataset) :
    model.evaluate? samples = .ok (Tally.total (dataset.queries.map model.tallyOf)).summary := by
  simp only [evaluate?, Samples.toRankingProblem?, read, ok_bind, isProblem, if_true,
    tally?_eq fits, pure_eq_ok]

end Model

end

/-!
## The hinge risk bounds the ranking error

A pair whose relevant vector is not strictly ahead falls short of the margin one by one at
least.  The average shortfall of all pairs, which is the risk of a ranking loss, therefore
bounds the share of pairs that an evaluation counts as wrong, ties among them.  A risk below
the share of a single pair leaves no pair in the wrong order.

The loss sweeps over sorted scores and the evaluation searches in them; both are compared
through the pairs themselves.
-/

namespace RankingPair

variable {weights : List ℚ} {pair : RankingPair} {pairs : List RankingPair}

/-- A pair that is tied or in the wrong order falls short by one at least. -/
theorem one_le_shortfall (behind : ¬ 0 < lead weights pair) : 1 ≤ shortfall 1 weights pair := by
  apply le_max_of_le_right
  linarith

/-- There are at most as many pairs in the wrong order as their shortfalls add up to. -/
theorem length_sub_countP_le (weights : List ℚ) (pairs : List RankingPair) :
    (pairs.length : ℚ) - (pairs.countP fun pair => 0 < lead weights pair : ℕ) ≤
      (pairs.map (shortfall 1 weights)).sum := by
  induction pairs with
  | nil => simp
  | cons pair pairs ih =>
      rw [List.map_cons, List.sum_cons, List.length_cons, List.countP_cons]
      by_cases ahead : 0 < lead weights pair
      · have nonneg := shortfall_nonneg 1 weights pair
        simp only [ahead, decide_true, if_true]
        push_cast
        linarith
      · have most := one_le_shortfall ahead
        simp only [ahead, decide_false, Bool.false_eq_true, if_false]
        push_cast
        linarith

/-- Shortfalls that add up to less than one leave every pair in the right order. -/
theorem lead_pos_of_sum_lt (few : (pairs.map (shortfall 1 weights)).sum < 1)
    (member : pair ∈ pairs) : 0 < lead weights pair := by
  by_contra behind
  have own : shortfall 1 weights pair ≤ (pairs.map (shortfall 1 weights)).sum := by
    apply List.single_le_sum
    · intro value valueMem
      obtain ⟨other, -, rfl⟩ := List.mem_map.mp valueMem
      exact shortfall_nonneg 1 weights other
    · exact List.mem_map_of_mem member
  exact absurd (one_le_shortfall behind) (not_le.mpr (own.trans_lt few))

end RankingPair

namespace Dataset

variable {dataset : Dataset ℚ} {weights : List ℚ}

theorem pairCount_pos (isProblem : dataset.isRankingProblem = true) :
    (0 : ℚ) < dataset.pairCount := by
  exact_mod_cast of_decide_eq_true isProblem

/-- A risk below the share of one pair puts every pair in the right order. -/
theorem lead_pos_of_risk_lt (isProblem : dataset.isRankingProblem = true)
    (small : dataset.risk 1 weights < 1 / dataset.pairCount) {pair : RankingPair}
    (member : pair ∈ dataset.pairs) : 0 < RankingPair.lead weights pair := by
  apply RankingPair.lead_pos_of_sum_lt _ member
  exact (div_lt_div_iff_of_pos_right (pairCount_pos isProblem)).mp small

end Dataset

namespace Model

variable {model : Model ℚ} {dataset : Dataset ℚ}

/-- The share of pairs that the model puts in the right order. -/
theorem rankingAccuracy_summary (model : Model ℚ) (dataset : Dataset ℚ) :
    (Tally.total (dataset.queries.map model.tallyOf)).summary.rankingAccuracy =
      (dataset.pairs.countP fun pair => 0 < RankingPair.lead model.weights pair : ℕ) /
        dataset.pairCount := by
  rw [Tally.rankingAccuracy_eq, correctPairs_total, totalPairs_total]

/-- The pairs in the wrong order are a share of at most the risk. -/
theorem one_sub_summary_le (isProblem : dataset.isRankingProblem = true) :
    1 - (Tally.total (dataset.queries.map model.tallyOf)).summary.rankingAccuracy ≤
      dataset.risk 1 model.weights := by
  have positive := Dataset.pairCount_pos isProblem
  rw [rankingAccuracy_summary, Dataset.risk, one_sub_div positive.ne']
  apply div_le_div_of_nonneg_right _ positive.le
  rw [← dataset.length_pairs]
  exact RankingPair.length_sub_countP_le model.weights dataset.pairs

/-- Where all pairs are in the right order the accuracy is one. -/
theorem summary_eq_one (isProblem : dataset.isRankingProblem = true)
    (ordered : ∀ pair ∈ dataset.pairs, 0 < RankingPair.lead model.weights pair) :
    (Tally.total (dataset.queries.map model.tallyOf)).summary.rankingAccuracy = 1 := by
  have all : (dataset.pairs.countP fun pair => 0 < RankingPair.lead model.weights pair) =
      dataset.pairs.length := by
    rw [List.countP_eq_length]
    simpa using ordered
  rw [rankingAccuracy_summary, all, dataset.length_pairs]
  exact div_self (Dataset.pairCount_pos isProblem).ne'

/-- A vector of the model's dimension has a score. -/
@[simp] theorem score?_eq {vector : FeatureVector ℚ} (fits : vector.dimension = model.dimension) :
    model.score? vector = .ok (vector.dot model.weights) := by
  simp only [score?, FeatureVector.checkDimension, fits, if_true]
  rfl

/-- The share of pairs that an evaluation finds in the wrong order is at most the risk of the
ranking loss, and a risk below the share of a single pair means that the model scores every
relevant vector above every nonrelevant one of its query. -/
theorem one_sub_rankingAccuracy_le_risk {samples : Samples ℚ}
    (read : samples.toDataset? = .ok dataset) (isProblem : dataset.isRankingProblem = true)
    {weights : List ℚ} (fits : dataset.dimension = some weights.length) (workers : Int) :
    ∃ accuracy loss risk subgradient,
      (Model.mk weights).evaluate? samples = .ok accuracy ∧
      RankingLoss.ofDataset? dataset RankingLoss.defaultMargin (.whole workers) = .ok loss ∧
      loss.risk? weights = .ok (risk, subgradient) ∧
      1 - accuracy.rankingAccuracy ≤ risk ∧
      (risk < 1 / dataset.pairCount → accuracy.rankingAccuracy = 1 ∧
        ∀ query ∈ dataset.queries, ∀ relevant ∈ query.relevant,
          ∀ nonrelevant ∈ query.nonrelevant, ∃ high low,
            (Model.mk weights).score? relevant = .ok high ∧
              (Model.mk weights).score? nonrelevant = .ok low ∧ low < high) := by
  have modelFits : (Model.mk weights).Fits dataset := by
    intro dimension known
    exact Option.some.inj (known.symm.trans fits)
  have width_eq : dataset.width = weights.length := by
    rw [Dataset.width, fits]
    rfl
  obtain ⟨loss, built⟩ :=
    RankingLoss.ofDataset?_whole dataset RankingLoss.defaultMargin workers
  have averages := RankingLoss.ofDataset?_averages built
  have answer : loss.risk? weights = .ok (loss.risk weights) := averages.risk?_eq width_eq.symm
  have risk_eq : (loss.risk weights).1 = dataset.risk 1 weights := averages.risk_eq weights
  refine ⟨_, loss, (loss.risk weights).1, (loss.risk weights).2,
    evaluate?_eq read isProblem modelFits, built, answer, ?_, ?_⟩
  · rw [risk_eq]
    exact one_sub_summary_le isProblem
  · intro small
    rw [risk_eq] at small
    have ordered := fun pair => @Dataset.lead_pos_of_risk_lt dataset weights isProblem small pair
    constructor
    · exact summary_eq_one isProblem ordered
    · intro query queryMem relevant relevantMem nonrelevant nonrelevantMem
      have scored {vector : FeatureVector ℚ} (member : vector ∈ query.vectors) :
          (Model.mk weights).score? vector = .ok (vector.dot weights) :=
        score?_eq ((Dataset.dimension_eq_width queryMem member).trans width_eq)
      refine ⟨_, _, scored (List.mem_append_left _ relevantMem),
        scored (List.mem_append_right _ nonrelevantMem), ?_⟩
      apply sub_pos.mp
      apply ordered (relevant, nonrelevant)
      exact List.mem_flatMap.mpr
        ⟨query, queryMem, List.pair_mem_product.mpr ⟨relevantMem, nonrelevantMem⟩⟩

/-- Two pairs with a lead of three quarters, one of them with a sparse vector, have a risk of
one quarter, which is below the share of a pair. -/
theorem one_sub_rankingAccuracy_le_risk_short_leads :
    let dataset : Dataset ℚ := ⟨[⟨[.dense [1]], [.dense [0], .sparse 1 []]⟩], some 1, rfl⟩
    dataset.isRankingProblem = true ∧ dataset.dimension = some 1 ∧
      ∃ accuracy loss risk subgradient,
        (Model.mk [3 / 4]).evaluate? (.dataset dataset) = .ok accuracy ∧
        RankingLoss.ofDataset? dataset RankingLoss.defaultMargin (.whole 1) = .ok loss ∧
        loss.risk? [3 / 4] = .ok (risk, subgradient) ∧
        1 - accuracy.rankingAccuracy ≤ risk ∧ risk = 1 / 4 ∧ accuracy.rankingAccuracy = 1 := by
  intro dataset
  have isProblem : dataset.isRankingProblem = true := by decide
  have fits : dataset.dimension = some [(3 / 4 : ℚ)].length := rfl
  obtain ⟨accuracy, loss, risk, subgradient, judged, built, answer, bound, orders⟩ :=
    @one_sub_rankingAccuracy_le_risk dataset (.dataset dataset) rfl isProblem _ fits 1
  have averages := RankingLoss.ofDataset?_averages built
  have risk_eq : risk = 1 / 4 := by
    rw [averages.risk?_eq rfl] at answer
    have first : (loss.risk [3 / 4]).1 = risk := congrArg Prod.fst (Except.ok.inj answer)
    rw [← first, averages.risk_eq]
    decide +kernel
  have small : risk < 1 / dataset.pairCount := by
    rw [risk_eq]
    decide +kernel
  exact ⟨isProblem, rfl, accuracy, loss, risk, subgradient, judged, built, answer, bound, risk_eq,
    (orders small).1⟩

end Model

end HingeRank
