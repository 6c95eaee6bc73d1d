import Mathlib
import HingeRank.Proofs.Ranking.Fit
import HingeRank.Proofs.Ranking.Pairs

/-!
# The risk and its planes

The risk of a dataset, queries that agree on a dimension, and the planes of missed pairs.
-/

namespace HingeRank

/-!
## The risk of a dataset

The risk of a weight vector is the average shortfall over all pairs of a dataset.  The loss
built from a dataset computes it, however the queries are divided among workers, and
answers with a slope that depends only on which pairs are missed.  The same holds of the
plane that touches the risk at the weights.
-/

section

open Linear RankingPair

namespace Dataset

variable {dataset : Dataset ℚ} {margin : ℚ} {weights : List ℚ}

/-- All pairs that the queries ask to be ordered. -/
def pairs (dataset : Dataset ℚ) : List RankingPair := dataset.queries.flatMap (·.pairs)

@[simp] theorem length_pairs (dataset : Dataset ℚ) : dataset.pairs.length = dataset.pairCount := by
  simp only [pairs, pairCount, List.length_flatMap, Query.length_pairs, List.sum_eq_foldr]

/-- The queries that are left out have no pairs. -/
@[simp] theorem flatten_pairs_rankingQueries (dataset : Dataset ℚ) :
    (dataset.rankingQueries.map (·.pairs)).flatten = dataset.pairs := by
  unfold rankingQueries pairs
  induction dataset.queries with
  | nil => rfl
  | cons query queries ih =>
      cases kind : query.hasPairs with
      | true => rw [List.filter_cons_of_pos kind, List.map_cons, List.flatten_cons, ih,
          List.flatMap_cons]
      | false =>
          have without : ¬ query.hasPairs = true := Bool.eq_false_iff.mp kind
          have count : query.pairs.length = 0 := by
            rw [Query.length_pairs]
            exact Nat.eq_zero_of_not_pos (of_decide_eq_false kind)
          rw [List.filter_cons_of_neg without, ih, List.flatMap_cons,
            List.length_eq_zero_iff.mp count, List.nil_append]

/-- The dimension of the vectors. -/
def width (dataset : Dataset ℚ) : Nat := dataset.dimension.getD 0

/-- All vectors of a dataset have its dimension. -/
theorem dimension_eq_width {query : Query ℚ} (member : query ∈ dataset.queries)
    {vector : FeatureVector ℚ} (vectorMem : vector ∈ query.vectors) :
    vector.dimension = dataset.width :=
  dataset.haveDimension query member vector vectorMem

/-- The average shortfall over all pairs. -/
def risk (dataset : Dataset ℚ) (margin : ℚ) (weights : List ℚ) : ℚ :=
  (dataset.pairs.map (shortfall margin weights)).sum / dataset.pairCount

/-- The pairs that a weight vector misses. -/
def missed (dataset : Dataset ℚ) (margin : ℚ) (weights : List ℚ) : List RankingPair :=
  dataset.pairs.filter (isMissed margin weights)

theorem risk_eq_missed (dataset : Dataset ℚ) (margin : ℚ) (weights : List ℚ) :
    dataset.risk margin weights =
      ((dataset.missed margin weights).map fun pair => margin - lead weights pair).sum /
        dataset.pairCount := by
  rw [risk, sum_shortfall]
  rfl

theorem risk_nonneg (dataset : Dataset ℚ) (margin : ℚ) (weights : List ℚ) :
    0 ≤ dataset.risk margin weights := by
  refine div_nonneg (List.sum_nonneg ?_) (Nat.cast_nonneg _)
  intro value member
  obtain ⟨pair, -, rfl⟩ := List.mem_map.mp member
  exact shortfall_nonneg margin weights pair

/-- A slope that averages the negated leads of the missed pairs. -/
structure IsSlope (dataset : Dataset ℚ) (margin : ℚ) (weights slope : List ℚ) : Prop where
  length_eq : slope.length = dataset.width
  dot_eq : ∀ others : List ℚ, others.length = dataset.width →
    dot slope others =
      -((dataset.missed margin weights).map (lead others)).sum / dataset.pairCount

/-- At other weights a missed pair falls short by at least what its lead says. -/
theorem IsSlope.supports {slope : List ℚ} (isSlope : dataset.IsSlope margin weights slope)
    (weights_eq : weights.length = dataset.width) :
    Supports (dataset.risk margin) dataset.width weights slope := by
  intro others others_eq
  have leads := isSlope.dot_eq others others_eq
  have ownLeads := isSlope.dot_eq weights weights_eq
  have least : ((dataset.missed margin weights).map fun pair => margin - lead others pair).sum ≤
      (dataset.pairs.map (shortfall margin others)).sum := by
    calc
      _ ≤ ((dataset.missed margin weights).map (shortfall margin others)).sum :=
        List.sum_le_sum fun pair _ => le_max_right _ _
      _ ≤ (dataset.pairs.map (shortfall margin others)).sum := by
        refine List.Sublist.sum_le_sum (List.filter_sublist.map _) ?_
        intro value member
        obtain ⟨pair, -, rfl⟩ := List.mem_map.mp member
        exact shortfall_nonneg margin others pair
  have scaled := div_le_div_of_nonneg_right least (Nat.cast_nonneg dataset.pairCount)
  refine le_trans (le_of_eq ?_) scaled
  rw [risk_eq_missed, dot_sub_right (others_eq.trans weights_eq.symm), leads, ownLeads,
    ← sum_map_sub, ← sum_map_sub]
  ring

end Dataset

/-! ### Lists side by side -/

section SideBySide

variable {α β : Type} {relation : β → α → Prop}

/-- What is related to the parts of a list one after the other falls into parts itself. -/
theorem forall₂_flatten {parts : List (List β)} {items : List α}
    (related : List.Forall₂ relation parts.flatten items) :
    ∃ groups : List (List α), groups.flatten = items ∧
      List.Forall₂ (List.Forall₂ relation) parts groups := by
  induction parts generalizing items with
  | nil =>
      cases related
      exact ⟨[], rfl, .nil⟩
  | cons part parts ih =>
      rw [List.flatten_cons] at related
      have first := (List.forall₂_take_append _ _ _ related.flip).flip
      have later := (List.forall₂_drop_append _ _ _ related.flip).flip
      obtain ⟨groups, flat, others⟩ := ih later
      refine ⟨items.take part.length :: groups, ?_, .cons first others⟩
      rw [List.flatten_cons, flat, List.take_append_drop]

end SideBySide

namespace RankingLoss

variable {ranking : RankingLoss ℚ} {dataset : Dataset ℚ} {margin : ℚ} {workers : Number}

/-- The loss computes the risk of a dataset. -/
structure Averages (ranking : RankingLoss ℚ) (dataset : Dataset ℚ) (margin : ℚ) : Prop where
  dimension_eq : ranking.dimension = dataset.width
  risk_eq : ∀ weights, (ranking.risk weights).1 = dataset.risk margin weights
  isSlope : ∀ weights, dataset.IsSlope margin weights (ranking.risk weights).2

/-- Weights of the dataset's dimension are not refused. -/
theorem Averages.risk?_eq (averages : ranking.Averages dataset margin) {weights : List ℚ}
    (equal : weights.length = dataset.width) :
    ranking.risk? weights = .ok (ranking.risk weights) := by
  rw [risk?, if_pos (equal.trans averages.dimension_eq.symm)]

/-- Every query with pairs makes a block that covers them. -/
theorem blocks_cover (dataset : Dataset ℚ) :
    ∃ blocks, dataset.rankingQueries.mapM QueryBlock.ofQuery? = .ok blocks ∧
      List.Forall₂ (fun (block : QueryBlock ℚ) (query : Query ℚ) => ∀ margin weights,
        (block.rawLoss margin weights).Covers margin weights dataset.width query.pairs)
        blocks dataset.rankingQueries := by
  apply mapM_forall₂
  intro query member
  obtain ⟨queryMem, hasPairs⟩ := List.mem_filter.mp member
  exact QueryBlock.ofQuery?_covers hasPairs fun vector vectorMem =>
    Dataset.dimension_eq_width queryMem vectorMem

/-- The parts of all workers together cover the pairs of the dataset. -/
theorem total_parts_covers {parts : List (List (QueryBlock ℚ))}
    (covers : List.Forall₂ (fun (block : QueryBlock ℚ) (query : Query ℚ) => ∀ margin weights,
      (block.rawLoss margin weights).Covers margin weights dataset.width query.pairs)
      parts.flatten dataset.rankingQueries) (margin : ℚ) (weights : List ℚ) :
    (RawLoss.total dataset.width (parts.map fun blocks =>
      RawLoss.total dataset.width (blocks.map (·.rawLoss margin weights)))).Covers
        margin weights dataset.width dataset.pairs := by
  obtain ⟨groups, flat, grouped⟩ := forall₂_flatten covers
  have pairs_eq : (groups.map fun queries => (queries.map (·.pairs)).flatten).flatten =
      dataset.pairs := by
    rw [← dataset.flatten_pairs_rankingQueries, ← flat, List.map_flatten, List.flatten_flatten,
      List.map_map]
    rfl
  rw [← pairs_eq]
  apply RawLoss.total_covers
  rw [List.forall₂_map_left_iff, List.forall₂_map_right_iff]
  refine grouped.imp fun blocks queries related => ?_
  apply RawLoss.total_covers
  rw [List.forall₂_map_left_iff, List.forall₂_map_right_iff]
  exact related.imp fun block query covered => covered margin weights

/-- The loss built from a dataset averages over its pairs, whatever the workers. -/
theorem ofDataset?_averages (built : ofDataset? dataset margin workers = .ok ranking) :
    ranking.Averages dataset margin := by
  obtain ⟨blocks, made, covers⟩ := blocks_cover dataset
  obtain ⟨others, parts, remade, divided, rfl⟩ := ofDataset?_parts built
  cases made.symm.trans remade
  rw [← flatten_divide? divided] at covers
  have total := total_parts_covers covers margin
  exact {
    dimension_eq := rfl
    risk_eq := by
      intro weights
      have loss_eq := (total weights).loss_eq
      simp only [risk]
      refine (congrArg (· * (1 / (dataset.pairCount : ℚ))) loss_eq).trans ?_
      rw [Dataset.risk, mul_one_div]
    isSlope := by
      intro weights
      have scaled (slope : List ℚ) : slope.map (· * (1 / (dataset.pairCount : ℚ))) =
          scale (1 / (dataset.pairCount : ℚ)) slope := by
        simp only [scale, mul_comm]
      refine ⟨(List.length_map _).trans (total weights).length_eq, ?_⟩
      intro others others_eq
      simp only [risk, scaled]
      rw [dot_scale_left]
      refine (congrArg (1 / (dataset.pairCount : ℚ) * ·)
        ((total weights).slope_eq others others_eq)).trans ?_
      exact one_div_mul_eq_div _ _ }

end RankingLoss

end

/-!
## Queries that agree

Queries whose vectors all have one dimension form a dataset, and the queries of a dataset are
of this kind.  Any selection of them therefore forms a dataset again.  A dataset that asks for
some ordering has vectors, so that its dimension is known.
-/

/-- All vectors of the queries have one dimension. -/
def Agree (dimension : Nat) (queries : List (Query ℚ)) : Prop :=
  ∀ query ∈ queries, ∀ vector ∈ query.vectors, vector.dimension = dimension

namespace Agree

variable {dimension : Nat} {queries others : List (Query ℚ)}

theorem subset (agree : Agree dimension queries) (taken : ∀ query ∈ others, query ∈ queries) :
    Agree dimension others := by
  intro query member
  exact agree query (taken query member)

/-- A single query agrees with the others on its own. -/
theorem append_cons_iff {before after : List (Query ℚ)} {query : Query ℚ} :
    Agree dimension (before ++ query :: after) ↔
      (∀ vector ∈ query.vectors, vector.dimension = dimension) ∧
        Agree dimension (before ++ after) := by
  constructor
  · intro agree
    constructor
    · exact agree query (List.mem_append_right _ List.mem_cons_self)
    · apply agree.subset
      intro other member
      exact List.perm_middle.symm.subset (List.mem_cons_of_mem _ member)
  · rintro ⟨fits, others⟩ other member
    rcases List.mem_cons.mp (List.perm_middle.subset member) with rfl | rest
    · exact fits
    · exact others other rest

/-- Queries whose vectors have one dimension form a dataset. -/
theorem ofQueries?_eq (agree : Agree dimension queries) :
    ∃ dataset, Dataset.ofQueries? queries = .ok dataset ∧ dataset.queries = queries ∧
      ∀ other, dataset.dimension = some other → other = dimension :=
  Dataset.ofQueries?_of_haveDimension agree

end Agree

namespace Dataset

variable {dataset : Dataset ℚ}

theorem agree (dataset : Dataset ℚ) : Agree dataset.width dataset.queries := dataset.haveDimension

/-- A dataset that asks for some ordering knows its dimension. -/
theorem dimension_eq_some (isProblem : dataset.isRankingProblem = true) :
    dataset.dimension = some dataset.width := by
  obtain ⟨dimension, known⟩ := exists_dimension isProblem
  rw [width, known, Option.getD_some]

end Dataset

/-!
## Planes of missed pairs

The slope with which a loss answers and the plane that touches the risk there are functions
of the missed pairs alone.  A dataset therefore has no more planes than its pairs have
selections, and its oracle can be replaced by one that goes through the pairs one by one.
-/

section

open Linear RankingPair

namespace Dataset

variable {dataset : Dataset ℚ} {margin : ℚ} {weights : List ℚ}

/-- The vectors of a pair have the dimension of the dataset. -/
theorem dimension_of_mem_pairs {pair : RankingPair} (member : pair ∈ dataset.pairs) :
    pair.1.dimension = dataset.width ∧ pair.2.dimension = dataset.width := by
  obtain ⟨query, queryMem, pairMem⟩ := List.mem_flatMap.mp member
  obtain ⟨relevantMem, nonrelevantMem⟩ := List.pair_mem_product.mp pairMem
  constructor
  · exact dimension_eq_width queryMem (List.mem_append_left _ relevantMem)
  · exact dimension_eq_width queryMem (List.mem_append_right _ nonrelevantMem)

theorem missed_sublist (dataset : Dataset ℚ) (margin : ℚ) (weights : List ℚ) :
    (dataset.missed margin weights).Sublist dataset.pairs := List.filter_sublist

/-- The negated average of the differences between the vectors of the missed pairs. -/
def slopeOf (dataset : Dataset ℚ) (missed : List RankingPair) : List ℚ :=
  scale (-1 / dataset.pairCount)
    ((missed.map fun pair => sub pair.1.components pair.2.components).foldl add
      (zeros dataset.width))

/-- The plane that touches the risk where exactly these pairs are missed. -/
def planeOf (dataset : Dataset ℚ) (margin : ℚ) (missed : List RankingPair) : List ℚ × ℚ :=
  (dataset.slopeOf missed, margin * missed.length / dataset.pairCount)

theorem length_differences {missed : List RankingPair} (known : missed.Sublist dataset.pairs) :
    ∀ row ∈ missed.map (fun pair => sub pair.1.components pair.2.components),
      row.length = dataset.width := by
  intro row member
  obtain ⟨pair, pairMem, rfl⟩ := List.mem_map.mp member
  obtain ⟨first, second⟩ := dimension_of_mem_pairs (known.subset pairMem)
  rw [length_sub, FeatureVector.length_components, FeatureVector.length_components, first,
    second, min_self]

theorem length_slopeOf {missed : List RankingPair} (known : missed.Sublist dataset.pairs) :
    (dataset.slopeOf missed).length = dataset.width := by
  rw [slopeOf, length_scale]
  exact length_foldl_add _ _ (length_differences known) _ (length_zeros _)

theorem dot_slopeOf {missed : List RankingPair} (known : missed.Sublist dataset.pairs)
    {others : List ℚ} (equal : others.length = dataset.width) :
    dot (dataset.slopeOf missed) others =
      -(missed.map (lead others)).sum / dataset.pairCount := by
  have leads : (missed.map fun pair => sub pair.1.components pair.2.components).map
      (dot · others) = missed.map (lead others) := by
    rw [List.map_map]
    refine List.map_congr_left fun pair member => ?_
    obtain ⟨first, second⟩ := dimension_of_mem_pairs (known.subset member)
    have aligned : pair.1.components.length = pair.2.components.length := by
      rw [FeatureVector.length_components, FeatureVector.length_components, first, second]
    change dot (sub pair.1.components pair.2.components) others = _
    rw [dot_sub_left aligned, FeatureVector.dot_components _ (equal.trans first.symm),
      FeatureVector.dot_components _ (equal.trans second.symm)]
    rfl
  rw [slopeOf, dot_scale_left,
    dot_foldl_add _ _ (length_differences known) _ (length_zeros _), dot_zeros_left, leads]
  ring

/-- There is one slope of the missed pairs. -/
theorem IsSlope.eq_slopeOf {slope : List ℚ} (isSlope : dataset.IsSlope margin weights slope) :
    slope = dataset.slopeOf (dataset.missed margin weights) := by
  have known := dataset.missed_sublist margin weights
  apply ext_dot
  · rw [isSlope.length_eq, length_slopeOf known]
  · intro others equal
    rw [isSlope.length_eq] at equal
    rw [isSlope.dot_eq others equal, dot_slopeOf known equal]

/-- The plane through the risk with the slope of the missed pairs is their plane. -/
theorem IsSlope.plane_eq {slope : List ℚ} (isSlope : dataset.IsSlope margin weights slope)
    (weights_eq : weights.length = dataset.width) :
    (slope, dataset.risk margin weights - dot slope weights) =
      dataset.planeOf margin (dataset.missed margin weights) := by
  refine Prod.ext isSlope.eq_slopeOf ?_
  have constant (missed : List RankingPair) :
      (missed.map fun pair => margin - lead weights pair).sum =
        margin * missed.length - (missed.map (lead weights)).sum := by
    rw [← sum_map_sub]
    simp [mul_comm]
  change dataset.risk margin weights - dot slope weights = _
  rw [isSlope.dot_eq weights weights_eq, risk_eq_missed, constant, planeOf]
  ring

/-- The planes of all selections of pairs. -/
def planes (dataset : Dataset ℚ) (margin : ℚ) : List (List ℚ × ℚ) :=
  dataset.pairs.sublists.map (dataset.planeOf margin)

@[simp] theorem length_planes (dataset : Dataset ℚ) (margin : ℚ) :
    (dataset.planes margin).length = 2 ^ dataset.pairCount := by
  rw [planes, List.length_map, List.length_sublists, length_pairs]

theorem IsSlope.plane_mem_planes {slope : List ℚ}
    (isSlope : dataset.IsSlope margin weights slope)
    (weights_eq : weights.length = dataset.width) :
    (slope, dataset.risk margin weights - dot slope weights) ∈ dataset.planes margin := by
  rw [isSlope.plane_eq weights_eq]
  exact List.mem_map_of_mem (List.mem_sublists.mpr (dataset.missed_sublist margin weights))

/-- Where no pair is missed the plane is the zero plane. -/
theorem zero_mem_planes (dataset : Dataset ℚ) (margin : ℚ) :
    (zeros dataset.width, 0) ∈ dataset.planes margin := by
  have none : dataset.planeOf margin [] = (zeros dataset.width, 0) := by
    simp [planeOf, slopeOf, scale, zeros]
  rw [← none]
  exact List.mem_map_of_mem (List.mem_sublists.mpr (List.nil_sublist _))

/-! ### Going through the pairs -/

/-- The oracle that looks at each pair. -/
def pairOracle (dataset : Dataset ℚ) (margin : ℚ) : LossOracle ℚ Nat where
  dimension := dataset.width
  evaluate weights evaluations :=
    if weights.length = dataset.width then
      (.ok ⟨dataset.risk margin weights,
        .vector (dataset.slopeOf (dataset.missed margin weights))⟩, evaluations + 1)
    else
      (.error (.dimensionMismatch (.int dataset.width) weights.length "weight vector"),
        evaluations)

/-- It always answers with the risk and a slope of the missed pairs. -/
theorem pairOracle_answers (dataset : Dataset ℚ) (margin : ℚ) :
    (dataset.pairOracle margin).Answers (dataset.risk margin) (dataset.IsSlope margin) := by
  intro weights equal evaluations
  have known := dataset.missed_sublist margin weights
  refine ⟨dataset.slopeOf (dataset.missed margin weights), length_slopeOf known, ?_, ?_⟩
  · exact ⟨length_slopeOf known, fun others others_eq => dot_slopeOf known others_eq⟩
  · simp only [pairOracle, if_pos (show weights.length = dataset.width from equal)]

/-- The risk of a dataset is convex and not negative. -/
theorem pairOracle_represents (dataset : Dataset ℚ) (margin : ℚ) :
    (dataset.pairOracle margin).Represents (dataset.risk margin) where
  nonneg := fun weights _ => dataset.risk_nonneg margin weights
  answers := by
    intro weights equal evaluations
    obtain ⟨slope, slope_eq, isSlope, answer⟩ :=
      dataset.pairOracle_answers margin weights equal evaluations
    exact ⟨slope, slope_eq, isSlope.supports equal, answer⟩

end Dataset

/-- Sorting and sweeping, stacking and dividing the work change no answer. -/
theorem RankingLoss.Averages.oracle_eq {ranking : RankingLoss ℚ} {dataset : Dataset ℚ}
    {margin : ℚ} (averages : ranking.Averages dataset margin) :
    ranking.oracle = dataset.pairOracle margin := by
  have evaluations : ranking.oracle.evaluate = (dataset.pairOracle margin).evaluate := by
    funext weights evaluations
    simp only [oracle, risk?, Dataset.pairOracle, averages.dimension_eq]
    by_cases equal : weights.length = dataset.width
    · rw [if_pos equal, if_pos equal]
      simp only [averages.risk_eq, (averages.isSlope weights).eq_slopeOf]
    · rw [if_neg equal, if_neg equal]
  have dimensions : ranking.oracle.dimension = (dataset.pairOracle margin).dimension :=
    averages.dimension_eq
  cases left : ranking.oracle
  cases right : dataset.pairOracle margin
  rw [left, right] at evaluations dimensions
  congr

end

end HingeRank
