import Mathlib
import HingeRank.Metrics.Arrays
import HingeRank.Proofs.Ranking.Inversions

/-!
# Average precision is pessimistic

A ranking lists all items from the highest to the lowest score, those with equal scores in any
order.  Its mean precision averages, over the relevant items, the share of relevant items from the
top down to them.

The relevant scores stand in the same order in every ranking.  Above the one with the number `i`
there are at most the nonrelevant scores that are not lower, and all of them where nonrelevant
items come first at equal scores.  The average precision is therefore the least mean precision of
all rankings.
-/

namespace HingeRank.Metrics

/-- A score with the judgement on its item. -/
structure JudgedScore where
  score : ℚ
  relevant : Bool

/-- The scores of both kinds of items, the relevant ones first. -/
def judged (relevant nonrelevant : List ℚ) : List JudgedScore :=
  relevant.map (⟨·, true⟩) ++ nonrelevant.map (⟨·, false⟩)

/-- All items from the highest to the lowest score. -/
structure IsRanking (relevant nonrelevant : List ℚ) (ranking : List JudgedScore) : Prop where
  perm : ranking.Perm (judged relevant nonrelevant)
  descends : ranking.Pairwise fun above below => below.score ≤ above.score

/-- The share of relevant items from the top down to a position. -/
def precisionAt (marks : List Bool) (position : Nat) : ℚ :=
  (marks.take (position + 1)).count true / (position + 1 : ℕ)

/-- The mean over all relevant items of the precision at their positions. -/
def meanPrecision (marks : List Bool) : ℚ :=
  (∑ position ∈ Finset.range marks.length,
    if marks[position]? = some true then precisionAt marks position else 0) / marks.count true

/-! ## Shares -/

/-- The precision at the relevant item with a number, counted from one, which stands behind so
many nonrelevant items. -/
def share (number before : Nat) : ℚ := number / (number + before : ℕ)

/-- The precisions at all relevant items, where items of both kinds have been passed already. -/
def shares (seen before : Nat) : List Bool → List ℚ
  | [] => []
  | true :: rest => share (seen + 1) before :: shares (seen + 1) before rest
  | false :: rest => shares seen (before + 1) rest

/-- Numbering the ranks of the relevant items yields their shares. -/
theorem precisions_eq (marks : List Bool) : precisions marks = shares 0 0 marks := by
  suffices general : ∀ seen before,
      (((((marks.zipIdx (seen + before)).filter (·.1)).map (·.2 + 1)).zipIdx
        (seen + 1)).map fun ranked => (Scalar.ratio ranked.2 ranked.1 : ℚ)) =
          shares seen before marks by
    exact general 0 0
  intro seen before
  induction marks generalizing seen before with
  | nil => rfl
  | cons mark marks ih =>
      cases mark with
      | true =>
          have others := ih (seen + 1) before
          rw [Nat.add_right_comm] at others
          rw [shares, ← others]
          simp [share, Scalar.ratio, add_right_comm]
      | false =>
          have others := ih seen (before + 1)
          rw [← Nat.add_assoc] at others
          simpa [shares] using others

/-- The precisions at the positions of the relevant items are their shares. -/
theorem sum_precisionAt (marks : List Bool) :
    (∑ position ∈ Finset.range marks.length,
      if marks[position]? = some true then precisionAt marks position else 0) =
      (shares 0 0 marks).sum := by
  suffices general : ∀ seen before : Nat,
      (∑ position ∈ Finset.range marks.length, if marks[position]? = some true then
        ((seen + (marks.take (position + 1)).count true : ℕ) : ℚ) /
          (seen + before + (position + 1) : ℕ) else 0) = (shares seen before marks).sum by
    simpa [precisionAt] using general 0 0
  intro seen before
  induction marks generalizing seen before with
  | nil => rfl
  | cons mark marks ih =>
      rw [List.length_cons, Finset.sum_range_succ']
      cases mark with
      | true =>
          rw [shares, List.sum_cons, ← ih (seen + 1) before, add_comm]
          congr 1
          · simp [share, add_right_comm]
          · apply Finset.sum_congr rfl
            intro position _
            have rank_eq : seen + before + (position + 1 + 1) =
                seen + 1 + before + (position + 1) := by omega
            have count_eq : seen + ((marks.take (position + 1)).count true + 1) =
                seen + 1 + (marks.take (position + 1)).count true := by omega
            rw [rank_eq, List.getElem?_cons_succ, List.take_succ_cons, List.count_cons_self,
              count_eq]
      | false =>
          rw [shares, ← ih seen (before + 1)]
          rw [List.getElem?_cons_zero, if_neg (by simp), add_zero]
          apply Finset.sum_congr rfl
          intro position _
          have rank_eq : seen + before + (position + 1 + 1) =
              seen + (before + 1) + (position + 1) := by omega
          rw [rank_eq, List.getElem?_cons_succ, List.take_succ_cons,
            List.count_cons_of_ne (by simp)]

/-! ## The order of the scores -/

/-- The nonrelevant items whose score is not lower. -/
def notLower (items : List JudgedScore) (score : ℚ) : Nat :=
  items.countP fun other => !other.relevant && score ≤ other.score

/-- The scores of the relevant items, from the top down. -/
def relevantScores (items : List JudgedScore) : List ℚ :=
  (items.filter (·.relevant)).map (·.score)

/-- The shares of scores from the top down, each behind as many items as are counted for it. -/
def sharesBehind (count : ℚ → Nat) (seen : Nat) (scores : List ℚ) : List ℚ :=
  (scores.zipIdx (seen + 1)).map fun (score, number) => share number (count score)

theorem share_le_share {before more : Nat} (fewer : before ≤ more) (number : Nat) :
    share (number + 1) more ≤ share (number + 1) before := by
  unfold share
  gcongr

@[simp] theorem sharesBehind_cons (count : ℚ → Nat) (seen : Nat) (score : ℚ) (scores : List ℚ) :
    sharesBehind count seen (score :: scores) =
      share (seen + 1) (count score) :: sharesBehind count (seen + 1) scores := rfl

section Sweep

variable {item : JudgedScore} {passed rest : List JudgedScore}

@[simp] theorem relevantScores_cons_relevant (relevant : item.relevant = true) :
    relevantScores (item :: rest) = item.score :: relevantScores rest := by
  simp [relevantScores, relevant]

@[simp] theorem relevantScores_cons_nonrelevant (nonrelevant : item.relevant = false) :
    relevantScores (item :: rest) = relevantScores rest := by
  simp [relevantScores, nonrelevant]

theorem countP_passed_relevant (relevant : item.relevant = true) :
    (passed ++ [item]).countP (!·.relevant) = passed.countP (!·.relevant) := by
  simp [List.countP_append, relevant]

theorem countP_passed_nonrelevant (nonrelevant : item.relevant = false) :
    (passed ++ [item]).countP (!·.relevant) = passed.countP (!·.relevant) + 1 := by
  simp [List.countP_append, nonrelevant]

/-- What has been passed is not lower. -/
theorem before_le_notLower
    (descends : (passed ++ item :: rest).Pairwise fun above below => below.score ≤ above.score) :
    passed.countP (!·.relevant) ≤ notLower (passed ++ item :: rest) item.score := by
  obtain ⟨-, -, across⟩ := List.pairwise_append.mp descends
  rw [notLower, List.countP_append]
  apply le_add_right
  apply List.countP_mono_left
  intro other member nonrelevant
  simpa [nonrelevant] using across other member item List.mem_cons_self

/-- In any ranking, a relevant item has at most the nonrelevant items that are not lower above
it. -/
theorem sum_sharesBehind_le
    (descends : (passed ++ rest).Pairwise fun above below => below.score ≤ above.score)
    (seen : Nat) :
    (sharesBehind (notLower (passed ++ rest)) seen (relevantScores rest)).sum ≤
      (shares seen (passed.countP (!·.relevant)) (rest.map (·.relevant))).sum := by
  -- All items stay in view while one after the other moves from the rest to what has been passed.
  induction rest generalizing passed seen with
  | nil => exact le_rfl
  | cons item rest ih =>
      have moved : passed ++ item :: rest = (passed ++ [item]) ++ rest := by simp
      have fewer := before_le_notLower descends
      rw [moved] at descends fewer ⊢
      cases kind : item.relevant with
      | true =>
          have others := ih descends (seen + 1)
          rw [countP_passed_relevant kind] at others
          rw [relevantScores_cons_relevant kind, sharesBehind_cons, List.map_cons, kind, shares,
            List.sum_cons, List.sum_cons]
          exact add_le_add (share_le_share fewer seen) others
      | false =>
          have others := ih descends seen
          rw [countP_passed_nonrelevant kind] at others
          rwa [relevantScores_cons_nonrelevant kind, List.map_cons, kind, shares]

/-- Where nonrelevant items come first at equal scores, a relevant item has all nonrelevant items
above it that are not lower. -/
theorem before_eq_notLower (relevant : item.relevant = true)
    (descends : (passed ++ item :: rest).Pairwise fun above below => below.score ≤ above.score)
    (pessimistic : (passed ++ item :: rest).Pairwise fun above below =>
      above.relevant = true → below.relevant = false → below.score < above.score) :
    passed.countP (!·.relevant) = notLower (passed ++ item :: rest) item.score := by
  obtain ⟨-, -, across⟩ := List.pairwise_append.mp descends
  have behind := (List.pairwise_cons.mp (List.pairwise_append.mp pessimistic).2.1).1
  have above : passed.countP (!·.relevant) =
      passed.countP fun other => !other.relevant && item.score ≤ other.score := by
    apply List.countP_congr
    intro other member
    simp [across other member item List.mem_cons_self]
  have below : rest.countP (fun other => !other.relevant && item.score ≤ other.score) = 0 := by
    apply List.countP_eq_zero.mpr
    intro other member
    cases kind : other.relevant with
    | true => simp
    | false => simpa using behind other member relevant kind
  simp [notLower, List.countP_append, above, below, relevant]

theorem shares_eq_sharesBehind
    (descends : (passed ++ rest).Pairwise fun above below => below.score ≤ above.score)
    (pessimistic : (passed ++ rest).Pairwise fun above below =>
      above.relevant = true → below.relevant = false → below.score < above.score) (seen : Nat) :
    shares seen (passed.countP (!·.relevant)) (rest.map (·.relevant)) =
      sharesBehind (notLower (passed ++ rest)) seen (relevantScores rest) := by
  induction rest generalizing passed seen with
  | nil => rfl
  | cons item rest ih =>
      have moved : passed ++ item :: rest = (passed ++ [item]) ++ rest := by simp
      cases kind : item.relevant with
      | true =>
          have first := before_eq_notLower kind descends pessimistic
          rw [moved] at descends pessimistic first ⊢
          have others := ih descends pessimistic (seen + 1)
          rw [countP_passed_relevant kind] at others
          rw [relevantScores_cons_relevant kind, sharesBehind_cons, List.map_cons, kind, shares,
            ← first, others]
      | false =>
          rw [moved] at descends pessimistic ⊢
          have others := ih descends pessimistic seen
          rw [countP_passed_nonrelevant kind] at others
          rwa [relevantScores_cons_nonrelevant kind, List.map_cons, kind, shares]

end Sweep

/-! ## Rankings -/

section Rankings

variable {relevant nonrelevant descending : List ℚ} {ranking : List JudgedScore}

theorem IsRanking.notLower_eq (ranked : IsRanking relevant nonrelevant ranking) (score : ℚ) :
    notLower ranking score = nonrelevant.countP (score ≤ ·) := by
  rw [notLower, ranked.perm.countP_eq, judged, List.countP_append, List.countP_map,
    List.countP_map]
  simp [Function.comp_def]

theorem IsRanking.count_relevant (ranked : IsRanking relevant nonrelevant ranking) :
    (ranking.map (·.relevant)).count true = relevant.length := by
  rw [(ranked.perm.map _).count_eq, judged]
  simp [Function.comp_def, List.count_replicate]

theorem IsRanking.relevantScores_perm (ranked : IsRanking relevant nonrelevant ranking) :
    (relevantScores ranking).Perm relevant := by
  have kept : relevantScores (judged relevant nonrelevant) = relevant := by
    simp [relevantScores, judged, List.filter_map, Function.comp_def]
  conv_rhs => rw [← kept]
  exact (ranked.perm.filter (·.relevant)).map (·.score)

theorem IsRanking.relevantScores_descend (ranked : IsRanking relevant nonrelevant ranking) :
    (relevantScores ranking).Pairwise (· ≥ ·) :=
  List.pairwise_map.mpr (ranked.descends.filter _)

/-- The relevant scores have one descending order, in which every ranking lists them. -/
theorem IsRanking.relevantScores_eq (ranked : IsRanking relevant nonrelevant ranking)
    (same : descending.Perm relevant) (descends : descending.Pairwise (· ≥ ·)) :
    relevantScores ranking = descending := by
  apply List.Perm.eq_of_pairwise
  · intro left right _ _ atLeast atMost
    exact le_antisymm atMost atLeast
  · exact ranked.relevantScores_descend
  · exact descends
  · exact ranked.relevantScores_perm.trans same.symm

theorem IsRanking.meanPrecision_eq (ranked : IsRanking relevant nonrelevant ranking) :
    meanPrecision (ranking.map (·.relevant)) =
      (shares 0 0 (ranking.map (·.relevant))).sum / relevant.length := by
  rw [meanPrecision, sum_precisionAt, ranked.count_relevant]

/-- The ranking with the nonrelevant items first at equal scores. -/
def pessimistic (relevant nonrelevant : List ℚ) : List JudgedScore :=
  let items := RankedItem.collect 0 (relevant.map (- ·)) (nonrelevant.map (- ·))
  (items.mergeSort RankedItem.precedes).map fun item => ⟨-item.key, item.relevant⟩

theorem relevanceByRank_eq (relevant nonrelevant : List ℚ) :
    relevanceByRank relevant nonrelevant = (pessimistic relevant nonrelevant).map (·.relevant) := by
  simp [relevanceByRank, pessimistic, Function.comp_def]

theorem pairwise_pessimistic (relevant nonrelevant : List ℚ)
    {order : JudgedScore → JudgedScore → Prop}
    (holds : ∀ above below : RankedItem ℚ, RankedItem.precedes above below = true →
      order ⟨-above.key, above.relevant⟩ ⟨-below.key, below.relevant⟩) :
    (pessimistic relevant nonrelevant).Pairwise order := by
  apply List.pairwise_map.mpr
  exact (List.pairwise_mergeSort RankedItem.precedes_trans RankedItem.precedes_total _).imp
    (holds _ _)

theorem isRanking_pessimistic (relevant nonrelevant : List ℚ) :
    IsRanking relevant nonrelevant (pessimistic relevant nonrelevant) where
  perm := by
    refine ((List.mergeSort_perm _ _).map _).trans (.of_eq ?_)
    simp only [RankedItem.collect, judged, List.map_append, List.map_map]
    congr 1
    · conv_rhs => rw [← List.zipIdx_map_fst 0 relevant, List.map_map]
      simp [List.zipIdx_map, Function.comp_def]
    · conv_rhs => rw [← List.zipIdx_map_fst relevant.length nonrelevant, List.map_map]
      simp [List.zipIdx_map, Function.comp_def]
  descends := by
    apply pairwise_pessimistic
    intro above below order
    exact neg_le_neg (RankedItem.key_le_of_precedes order)

theorem averagePrecision_eq (relevant nonrelevant : List ℚ) :
    averagePrecision relevant nonrelevant =
      (shares 0 0 (relevanceByRank relevant nonrelevant)).sum / relevant.length := by
  rw [averagePrecision]
  split
  next none => simp [List.isEmpty_iff.mp none]
  next => rw [Linear.sum_eq, precisions_eq]

/-- The average precision, from the number of nonrelevant scores that are not lower. -/
theorem averagePrecision_eq_sharesBehind (same : descending.Perm relevant)
    (descends : descending.Pairwise (· ≥ ·)) :
    averagePrecision relevant nonrelevant =
      (sharesBehind (fun score => nonrelevant.countP (score ≤ ·)) 0 descending).sum /
        relevant.length := by
  have ranked := isRanking_pessimistic relevant nonrelevant
  have behind := @shares_eq_sharesBehind [] (pessimistic relevant nonrelevant) ranked.descends
    (pairwise_pessimistic relevant nonrelevant fun above below order known other =>
      neg_lt_neg (RankedItem.key_lt_of_precedes order known other)) 0
  rw [List.countP_nil, List.nil_append, ranked.relevantScores_eq same descends,
    funext ranked.notLower_eq, ← relevanceByRank_eq] at behind
  rw [averagePrecision_eq, behind]

/-- No ranking has a lower mean precision. -/
theorem averagePrecision_le (ranked : IsRanking relevant nonrelevant ranking) :
    averagePrecision relevant nonrelevant ≤ meanPrecision (ranking.map (·.relevant)) := by
  have fewer := @sum_sharesBehind_le [] ranking ranked.descends 0
  rw [List.countP_nil, List.nil_append, funext ranked.notLower_eq] at fewer
  rw [averagePrecision_eq_sharesBehind ranked.relevantScores_perm ranked.relevantScores_descend,
    ranked.meanPrecision_eq]
  gcongr

/-! ## Position by position -/

/-- The share of relevant items at the one with an index among the descending relevant scores. -/
def shareAt (descending nonrelevant : List ℚ) (index : Fin descending.length) : ℚ :=
  share (index + 1) (nonrelevant.countP (descending[index] ≤ ·))

theorem shareAt_pos (index : Fin descending.length) :
    0 < shareAt descending nonrelevant index := by
  unfold shareAt share
  positivity

theorem shareAt_le_one (index : Fin descending.length) :
    shareAt descending nonrelevant index ≤ 1 := by
  apply div_le_one_of_le₀ _ (Nat.cast_nonneg _)
  exact_mod_cast Nat.le_add_right _ _

theorem shareAt_eq_one_iff (index : Fin descending.length) :
    shareAt descending nonrelevant index = 1 ↔ ∀ low ∈ nonrelevant, low < descending[index] := by
  rw [shareAt, share, div_eq_one_iff_eq (by positivity), Nat.cast_inj, eq_comm, Nat.add_eq_left,
    List.countP_eq_zero]
  simp

theorem sharesBehind_eq_ofFn (descending nonrelevant : List ℚ) :
    sharesBehind (fun score => nonrelevant.countP (score ≤ ·)) 0 descending =
      List.ofFn (shareAt descending nonrelevant) := by
  apply List.ext_getElem
  · simp [sharesBehind]
  · intro index _ _
    simp [sharesBehind, shareAt, Nat.add_comm]

/-- The average precision is the mean of the shares at the descending relevant scores. -/
theorem exists_mean_shareAt (relevant nonrelevant : List ℚ) :
    ∃ descending : List ℚ, descending.Perm relevant ∧
      averagePrecision relevant nonrelevant =
        (List.ofFn (shareAt descending nonrelevant)).sum /
          (List.ofFn (shareAt descending nonrelevant)).length := by
  have same := relevant.perm_insertionSort (· ≥ ·)
  have descends : (relevant.insertionSort (· ≥ ·)).Pairwise (· ≥ ·) :=
    relevant.pairwise_insertionSort _
  refine ⟨relevant.insertionSort (· ≥ ·), same, ?_⟩
  rw [averagePrecision_eq_sharesBehind same descends, sharesBehind_eq_ofFn,
    ← same.length_eq, List.length_ofFn]

/-- The average precision of relevant items is positive. -/
theorem averagePrecision_pos (nonempty : relevant ≠ []) :
    0 < averagePrecision relevant nonrelevant := by
  obtain ⟨descending, same, mean⟩ := exists_mean_shareAt relevant nonrelevant
  rw [mean]
  apply mean_pos
  · simpa [List.ofFn_eq_nil_iff, same.length_eq] using nonempty
  · exact List.forall_mem_ofFn_iff.mpr shareAt_pos

theorem averagePrecision_le_one (relevant nonrelevant : List ℚ) :
    averagePrecision relevant nonrelevant ≤ 1 := by
  obtain ⟨descending, -, mean⟩ := exists_mean_shareAt relevant nonrelevant
  rw [mean]
  exact mean_le_one (List.forall_mem_ofFn_iff.mpr shareAt_le_one)

/-- Relevant items have an average precision of one where no other score reaches theirs. -/
theorem averagePrecision_eq_one_iff (nonempty : relevant ≠ []) :
    averagePrecision relevant nonrelevant = 1 ↔
      ∀ high ∈ relevant, ∀ low ∈ nonrelevant, low < high := by
  obtain ⟨descending, same, mean⟩ := exists_mean_shareAt relevant nonrelevant
  have some : List.ofFn (shareAt descending nonrelevant) ≠ [] := by
    simpa [List.ofFn_eq_nil_iff, same.length_eq] using nonempty
  rw [mean, mean_eq_one_iff some (List.forall_mem_ofFn_iff.mpr shareAt_le_one),
    List.forall_mem_ofFn_iff]
  simp only [shareAt_eq_one_iff]
  constructor
  · intro below high member
    obtain ⟨index, bound, rfl⟩ := List.getElem_of_mem (same.mem_iff.mpr member)
    exact below ⟨index, bound⟩
  · intro below index
    exact below _ (same.mem_iff.mp (List.getElem_mem _))

end Rankings

/-- **Ties never help.**  The average precision weighs the relevant scores in descending order, the
one with the number `i` by `i` over `i` and the number of nonrelevant scores that are not lower.  It
is the least mean precision of all rankings, whichever way they break ties.  It is positive, at most
one, and one exactly where every relevant score is higher than every nonrelevant one. -/
theorem averagePrecision_isLeast {relevant : List ℚ} (nonempty : relevant ≠ [])
    (nonrelevant : List ℚ) :
    (∀ descending : List ℚ, descending.Perm relevant → descending.Pairwise (· ≥ ·) →
      averagePrecision relevant nonrelevant =
        (∑ index : Fin descending.length, ((index + 1 : ℕ) : ℚ) /
          (index + 1 + nonrelevant.countP (descending[index] ≤ ·) : ℕ)) / relevant.length) ∧
    IsLeast {value | ∃ ranking, IsRanking relevant nonrelevant ranking ∧
      meanPrecision (ranking.map (·.relevant)) = value} (averagePrecision relevant nonrelevant) ∧
    0 < averagePrecision relevant nonrelevant ∧
    averagePrecision relevant nonrelevant ≤ 1 ∧
    (averagePrecision relevant nonrelevant = 1 ↔
      ∀ high ∈ relevant, ∀ low ∈ nonrelevant, low < high) := by
  refine ⟨?_, ⟨?_, ?_⟩, averagePrecision_pos nonempty,
    averagePrecision_le_one relevant nonrelevant, averagePrecision_eq_one_iff nonempty⟩
  · intro descending same descends
    rw [averagePrecision_eq_sharesBehind same descends, sharesBehind_eq_ofFn, List.sum_ofFn]
    rfl
  · have ranked := isRanking_pessimistic relevant nonrelevant
    refine ⟨pessimistic relevant nonrelevant, ranked, ?_⟩
    rw [ranked.meanPrecision_eq, ← relevanceByRank_eq, averagePrecision_eq]
  · rintro _ ⟨ranking, ranked, rfl⟩
    exact averagePrecision_le ranked

/-- A nonrelevant score that equals the lower of two relevant ones is listed before it. -/
theorem averagePrecision_isLeast_tie :
    averagePrecision [(1 : ℚ), 2] [1] = 5 / 6 := by
  have sum := (averagePrecision_isLeast (List.cons_ne_nil 1 [2]) [1]).1 [2, 1]
    (List.Perm.swap 1 2 []) (by simp)
  rw [sum]
  simp [Fin.sum_univ_two]
  norm_num

end HingeRank.Metrics
