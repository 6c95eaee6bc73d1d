import Mathlib
import HingeRank.Proofs.Feature.Stacks
import HingeRank.Proofs.Ranking.Inversions
import HingeRank.Proofs.Samples.Reading

/-!
# Losses as sums over pairs

A query asks for one ordering for each pair of a relevant and a nonrelevant vector.  At a
weight vector a pair has a lead, the amount by which the relevant vector scores above the
other one, and it is missed when the lead is below the margin.

Counting how often each vector occurs in a missed pair and then weighing the vectors by
these counts is the same as going through the missed pairs one by one.  A loss is said to
cover a list of pairs when it is their total, and losses that are added up cover the pairs
of all of them.
-/

namespace HingeRank

open Linear

/-- A relevant vector and one that should be ranked below it. -/
abbrev RankingPair : Type := FeatureVector ℚ × FeatureVector ℚ

namespace RankingPair

variable {margin : ℚ} {weights : List ℚ} {pair : RankingPair}

/-- By how much the relevant vector scores above the other one. -/
def lead (weights : List ℚ) (pair : RankingPair) : ℚ :=
  pair.1.dot weights - pair.2.dot weights

/-- The lead falls short of the margin. -/
def isMissed (margin : ℚ) (weights : List ℚ) (pair : RankingPair) : Bool :=
  lead weights pair < margin

/-- By how much the lead falls short of the margin. -/
def shortfall (margin : ℚ) (weights : List ℚ) (pair : RankingPair) : ℚ :=
  max 0 (margin - lead weights pair)

theorem shortfall_nonneg (margin : ℚ) (weights : List ℚ) (pair : RankingPair) :
    0 ≤ shortfall margin weights pair := le_max_left _ _

theorem shortfall_of_missed (missed : isMissed margin weights pair = true) :
    shortfall margin weights pair = margin - lead weights pair := by
  have below : lead weights pair < margin := of_decide_eq_true missed
  exact max_eq_right (sub_pos.mpr below).le

theorem shortfall_of_kept (kept : isMissed margin weights pair = false) :
    shortfall margin weights pair = 0 := by
  have notBelow : ¬ lead weights pair < margin := of_decide_eq_false kept
  exact max_eq_left (sub_nonpos.mpr (not_lt.mp notBelow))

/-- The total shortfall is what the missed pairs lack. -/
theorem sum_shortfall (margin : ℚ) (weights : List ℚ) (pairs : List RankingPair) :
    (pairs.map (shortfall margin weights)).sum =
      ((pairs.filter (isMissed margin weights)).map fun pair =>
        margin - lead weights pair).sum := by
  induction pairs with
  | nil => rfl
  | cons pair pairs ih =>
      cases missed : isMissed margin weights pair with
      | true =>
          rw [List.filter_cons_of_pos missed, List.map_cons, List.map_cons, List.sum_cons,
            List.sum_cons, shortfall_of_missed missed, ih]
      | false =>
          have unfiltered : ¬ isMissed margin weights pair = true := by simp [missed]
          rw [List.filter_cons_of_neg unfiltered, List.map_cons, List.sum_cons,
            shortfall_of_kept missed, zero_add, ih]

end RankingPair

/-! ## Counting instead of pairing -/

section Counting

variable {α β : Type} (miss : α → β → Bool) (left : List α) (right : List β)

/-- Left items weighed by their number of misses, as a sum over the missed pairs. -/
theorem dot_countP_left (value : α → ℚ) :
    dot (left.map fun x => (right.countP (miss x) : ℚ)) (left.map value) =
      (((left.product right).filter fun pair => miss pair.1 pair.2).map
        fun pair => value pair.1).sum := by
  rw [dot_map_map, sum_map_filter]
  induction left with
  | nil => rfl
  | cons x left ih =>
      have unfolded : (x :: left).product right = right.map (x, ·) ++ left.product right := rfl
      rw [unfolded, List.map_append, List.sum_append, List.map_map, ← ih, List.map_cons,
        List.sum_cons, ← sum_map_countP right (miss x) (value x)]
      rfl

/-- Right items weighed by their number of misses, as a sum over the missed pairs. -/
theorem dot_countP_right (value : β → ℚ) :
    dot (right.map fun y => (left.countP (miss · y) : ℚ)) (right.map value) =
      (((left.product right).filter fun pair => miss pair.1 pair.2).map
        fun pair => value pair.2).sum := by
  rw [dot_map_map, sum_map_filter]
  induction left with
  | nil => simp [List.product]
  | cons x left ih =>
      have unfolded : (x :: left).product right = right.map (x, ·) ++ left.product right := rfl
      have counts (y : β) : ((x :: left).countP (miss · y) : ℚ) * value y =
          (if miss x y then value y else 0) + (left.countP (miss · y) : ℚ) * value y := by
        cases kind : miss x y with
        | true =>
            simp only [List.countP_cons, kind, if_true]
            push_cast
            ring
        | false => simp [kind]
      rw [unfolded, List.map_append, List.sum_append, List.map_map, ← ih,
        List.map_congr_left fun y _ => counts y, List.sum_map_add]
      rfl

end Counting

/-! ## Covering -/

namespace RawLoss

open RankingPair

variable {margin : ℚ} {weights : List ℚ} {dimension : Nat} {left right : RawLoss ℚ}
  {leftPairs rightPairs : List RankingPair}

/-- The loss is the total over the pairs, and so is its slope. -/
structure Covers (margin : ℚ) (weights : List ℚ) (dimension : Nat) (raw : RawLoss ℚ)
    (pairs : List RankingPair) : Prop where
  loss_eq : raw.loss = (pairs.map (shortfall margin weights)).sum
  length_eq : raw.subgradient.length = dimension
  slope_eq : ∀ others : List ℚ, others.length = dimension →
    dot raw.subgradient others =
      -((pairs.filter (isMissed margin weights)).map (lead others)).sum

theorem zero_covers (margin : ℚ) (weights : List ℚ) (dimension : Nat) :
    (zero dimension).Covers margin weights dimension [] where
  loss_eq := rfl
  length_eq := length_zeros dimension
  slope_eq := by
    intro others _
    exact dot_zeros_left dimension others

theorem Covers.add (leftCovers : left.Covers margin weights dimension leftPairs)
    (rightCovers : right.Covers margin weights dimension rightPairs) :
    (left.add right).Covers margin weights dimension (leftPairs ++ rightPairs) where
  loss_eq := by
    rw [List.map_append, List.sum_append, ← leftCovers.loss_eq, ← rightCovers.loss_eq]
    rfl
  length_eq := by
    refine (length_add _ _).trans ?_
    rw [leftCovers.length_eq, rightCovers.length_eq, min_self]
  slope_eq := by
    intro others equal
    have aligned := leftCovers.length_eq.trans rightCovers.length_eq.symm
    refine (dot_add_left aligned others).trans ?_
    rw [leftCovers.slope_eq others equal, rightCovers.slope_eq others equal, List.filter_append,
      List.map_append, List.sum_append]
    ring

theorem foldl_add_covers {losses : List (RawLoss ℚ)} {groups : List (List RankingPair)}
    (covers : List.Forall₂ (Covers margin weights dimension) losses groups)
    (started : left.Covers margin weights dimension leftPairs) :
    (losses.foldl RawLoss.add left).Covers margin weights dimension
      (leftPairs ++ groups.flatten) := by
  induction covers generalizing left leftPairs with
  | nil =>
      rw [List.flatten_nil, List.append_nil]
      exact started
  | cons first others ih =>
      rw [List.flatten_cons, ← List.append_assoc]
      exact ih (started.add first)

/-- Losses that are added up cover the pairs of all of them. -/
theorem total_covers {losses : List (RawLoss ℚ)} {groups : List (List RankingPair)}
    (covers : List.Forall₂ (Covers margin weights dimension) losses groups) :
    (total dimension losses).Covers margin weights dimension groups.flatten :=
  foldl_add_covers covers (zero_covers margin weights dimension)

end RawLoss

/-! ## One query -/

namespace Query

/-- Every relevant vector with every nonrelevant one. -/
def pairs (query : Query ℚ) : List RankingPair := query.relevant.product query.nonrelevant

@[simp] theorem length_pairs (query : Query ℚ) : query.pairs.length = query.pairCount :=
  List.length_product _ _

end Query

namespace QueryBlock

open RankingPair

variable {query : Query ℚ}

/-- The sweep over the scores of a query counts its missed pairs. -/
theorem count_scores {block : QueryBlock ℚ} {dimension : Nat}
    (relevantHolds : block.relevant.Holds dimension query.relevant)
    (nonrelevantHolds : block.nonrelevant.Holds dimension query.nonrelevant)
    (margin : ℚ) (weights : List ℚ) :
    Inversions.count margin (block.relevant.scores weights) (block.nonrelevant.scores weights) =
      ⟨query.relevant.map fun x => query.nonrelevant.countP fun y => isMissed margin weights (x, y),
        query.nonrelevant.map fun y =>
          query.relevant.countP fun x => isMissed margin weights (x, y)⟩ := by
  -- a miss between two vectors, in the form in which the sweep finds it
  have missed (pair : RankingPair) :
      decide (pair.1.dot weights - margin < pair.2.dot weights) = isMissed margin weights pair := by
    simp only [isMissed, lead, sub_lt_comm]
  simp only [Inversions.count_eq, relevantHolds.scores_eq, nonrelevantHolds.scores_eq,
    List.map_map, List.countP_map, Function.comp_def, ← missed]

/-- The sweep over the scores of a query covers its pairs. -/
theorem rawLoss_covers {block : QueryBlock ℚ} {dimension : Nat}
    (relevantHolds : block.relevant.Holds dimension query.relevant)
    (nonrelevantHolds : block.nonrelevant.Holds dimension query.nonrelevant)
    (margin : ℚ) (weights : List ℚ) :
    (block.rawLoss margin weights).Covers margin weights dimension query.pairs := by
  have relevantScores := relevantHolds.scores_eq weights
  have nonrelevantScores := nonrelevantHolds.scores_eq weights
  have counts := count_scores relevantHolds nonrelevantHolds margin weights
  have relevantCounts : (Inversions.count margin (block.relevant.scores weights)
      (block.nonrelevant.scores weights)).relevant.map (fun count : Nat => (count : ℚ)) =
      query.relevant.map fun x =>
        (query.nonrelevant.countP fun y => isMissed margin weights (x, y) : ℚ) := by
    rw [counts, List.map_map]
    rfl
  have nonrelevantCounts : (Inversions.count margin (block.relevant.scores weights)
      (block.nonrelevant.scores weights)).nonrelevant.map (fun count : Nat => (count : ℚ)) =
      query.nonrelevant.map fun y =>
        (query.relevant.countP fun x => isMissed margin weights (x, y) : ℚ) := by
    rw [counts, List.map_map]
    rfl
  have relevantSum (value : FeatureVector ℚ → ℚ) := dot_countP_left
    (fun x y => isMissed margin weights (x, y)) query.relevant query.nonrelevant value
  have nonrelevantSum (value : FeatureVector ℚ → ℚ) := dot_countP_right
    (fun x y => isMissed margin weights (x, y)) query.relevant query.nonrelevant value
  exact {
    loss_eq := by
      change dot _ (block.nonrelevant.scores weights) -
        dot _ ((block.relevant.scores weights).map (· - margin)) = _
      rw [nonrelevantCounts, relevantCounts, nonrelevantScores, relevantScores, List.map_map,
        nonrelevantSum, relevantSum, sum_shortfall, sum_map_sub]
      refine congrArg List.sum (List.map_congr_left fun pair _ => ?_)
      simp only [lead, Function.comp_apply]
      ring
    length_eq := by
      refine (length_sub _ _).trans ?_
      rw [nonrelevantHolds.length_weightedSum, relevantHolds.length_weightedSum, min_self]
    slope_eq := by
      intro others equal
      refine (dot_sub_left ?_ others).trans ?_
      · rw [nonrelevantHolds.length_weightedSum, relevantHolds.length_weightedSum]
      · rw [nonrelevantHolds.dot_weightedSum _ equal, relevantHolds.dot_weightedSum _ equal,
          nonrelevantCounts, relevantCounts, nonrelevantSum, relevantSum, ← neg_sub, sum_map_sub]
        rfl }

/-- A query whose vectors have one dimension makes a block that covers its pairs. -/
theorem ofQuery?_covers {dimension : Nat} (hasPairs : query.hasPairs = true)
    (same : ∀ vector ∈ query.vectors, vector.dimension = dimension) :
    ∃ block, ofQuery? query = .ok block ∧ ∀ margin weights,
      (block.rawLoss margin weights).Covers margin weights dimension query.pairs := by
  obtain ⟨someRelevant, someNonrelevant⟩ := Query.hasPairs_eq_true_iff.mp hasPairs
  obtain ⟨relevant, relevantStacked, relevantHolds⟩ := FeatureStack.ofVectors?_holds
    someRelevant fun vector member => same vector (List.mem_append_left _ member)
  obtain ⟨nonrelevant, nonrelevantStacked, nonrelevantHolds⟩ := FeatureStack.ofVectors?_holds
    someNonrelevant fun vector member => same vector (List.mem_append_right _ member)
  refine ⟨⟨relevant, nonrelevant⟩, ?_, ?_⟩
  · rw [ofQuery?, relevantStacked, nonrelevantStacked]
    rfl
  · intro margin weights
    exact rawLoss_covers relevantHolds nonrelevantHolds margin weights

end QueryBlock

end HingeRank
