import Mathlib
import HingeRank.Loss.Ranking
import HingeRank.Proofs.Exact.Linear

/-!
# Counting by sweeping

Sorting all scores and sweeping over them counts for every score the pairs that miss the
margin.  Behind the sweep is one fact about sorted items: everything before an item is not
above it, everything after it is not below it, and at equal keys the nonrelevant items come
first.

The counts come out in sorted order.  Sorting them by position brings them back, because
no two items share a position.
-/

namespace HingeRank

namespace RankedItem

variable {item : RankedItem ℚ} {items others seen rest : List (RankedItem ℚ)}

@[simp] theorem precedes_iff {left right : RankedItem ℚ} :
    precedes left right = true ↔ left.key < right.key ∨
      left.key ≤ right.key ∧ (left.relevant = true → right.relevant = true) := by
  cases left with
  | mk leftKey leftRelevant leftPosition =>
      cases leftRelevant <;> simp [precedes]

theorem precedes_trans (first second third : RankedItem ℚ) (left : precedes first second = true)
    (right : precedes second third = true) : precedes first third = true := by
  rw [precedes_iff] at left right ⊢
  rcases left with less | ⟨atMost, ordered⟩
  · left
    rcases right with other | ⟨other, -⟩
    · exact less.trans other
    · exact less.trans_le other
  · rcases right with other | ⟨other, otherOrdered⟩
    · exact .inl (atMost.trans_lt other)
    · exact .inr ⟨atMost.trans other, fun relevant => otherOrdered (ordered relevant)⟩

theorem precedes_total (left right : RankedItem ℚ) :
    (precedes left right || precedes right left) = true := by
  rw [Bool.or_eq_true, precedes_iff, precedes_iff]
  rcases lt_trichotomy left.key right.key with less | equal | greater
  · exact .inl (.inl less)
  · cases right.relevant with
    | true => exact .inl (.inr ⟨equal.le, fun _ => rfl⟩)
    | false => exact .inr (.inr ⟨equal.ge, fun impossible => by cases impossible⟩)
  · exact .inr (.inl greater)

/-- What comes later is not below. -/
theorem key_le_of_precedes {left right : RankedItem ℚ} (order : precedes left right = true) :
    left.key ≤ right.key := by
  rcases precedes_iff.mp order with less | ⟨atMost, -⟩
  · exact less.le
  · exact atMost

/-- A nonrelevant item that comes after a relevant one is above it. -/
theorem key_lt_of_precedes {left right : RankedItem ℚ} (order : precedes left right = true)
    (relevant : left.relevant = true) (nonrelevant : right.relevant = false) :
    left.key < right.key := by
  rcases precedes_iff.mp order with less | ⟨-, ordered⟩
  · exact less
  · rw [nonrelevant] at ordered
    cases ordered relevant

/-! ## What the sweep counts -/

/-- The items of the other kind with which an item forms a pair that misses the margin. -/
def inversionsIn (items : List (RankedItem ℚ)) (item : RankedItem ℚ) : Nat :=
  items.countP fun other =>
    if item.relevant then !other.relevant && item.key < other.key
    else other.relevant && other.key < item.key

theorem inversionsIn_perm (same : items.Perm others) (item : RankedItem ℚ) :
    inversionsIn items item = inversionsIn others item :=
  same.countP_eq _

/-- In sorted items, a relevant one is inverted with the nonrelevant ones after it. -/
theorem inversionsIn_of_relevant (relevant : item.relevant = true)
    (before : ∀ other ∈ seen, precedes other item = true)
    (behind : ∀ other ∈ rest, precedes item other = true) :
    inversionsIn (seen ++ item :: rest) item = rest.countP fun other => !other.relevant := by
  have none : seen.countP (fun other => !other.relevant && item.key < other.key) = 0 := by
    rw [List.countP_eq_zero]
    intro other member
    simp [key_le_of_precedes (before other member)]
  have all : rest.countP (fun other => !other.relevant && item.key < other.key) =
      rest.countP fun other => !other.relevant := by
    apply List.countP_congr
    intro other member
    cases kind : other.relevant with
    | true => simp
    | false => simp [key_lt_of_precedes (behind other member) relevant kind]
  simp only [inversionsIn, relevant, if_true, List.countP_append, List.countP_cons, none, all]
  simp

/-- In sorted items, a nonrelevant one is inverted with the relevant ones before it. -/
theorem inversionsIn_of_nonrelevant (nonrelevant : item.relevant = false)
    (before : ∀ other ∈ seen, precedes other item = true)
    (behind : ∀ other ∈ rest, precedes item other = true) :
    inversionsIn (seen ++ item :: rest) item = seen.countP fun other => other.relevant := by
  have all : seen.countP (fun other => other.relevant && other.key < item.key) =
      seen.countP fun other => other.relevant := by
    apply List.countP_congr
    intro other member
    cases kind : other.relevant with
    | false => simp
    | true => simp [key_lt_of_precedes (before other member) kind nonrelevant]
  have none : rest.countP (fun other => other.relevant && other.key < item.key) = 0 := by
    rw [List.countP_eq_zero]
    intro other member
    simp [key_le_of_precedes (behind other member)]
  simp only [inversionsIn, nonrelevant, Bool.false_eq_true, if_false, List.countP_append,
    List.countP_cons, none, all]
  simp

/-- The sweep over the rest of sorted items, with the counters at what has been seen and
what is left. -/
theorem sweep_eq (sorted : (seen ++ rest).Pairwise fun left right => precedes left right = true) :
    sweep (seen.countP fun other => other.relevant) (rest.countP fun other => !other.relevant)
        rest =
      rest.map fun item => (item.position, inversionsIn (seen ++ rest) item) := by
  induction rest generalizing seen with
  | nil => rfl
  | cons item rest ih =>
      have moved : seen ++ item :: rest = (seen ++ [item]) ++ rest := by simp
      have others := ih (by rw [← moved]; exact sorted)
      obtain ⟨-, itemFirst, across⟩ := List.pairwise_append.mp sorted
      have before : ∀ other ∈ seen, precedes other item = true :=
        fun other member => across other member item List.mem_cons_self
      have behind := (List.pairwise_cons.mp itemFirst).1
      rw [← moved] at others
      cases kind : item.relevant with
      | true =>
          have counted := inversionsIn_of_relevant kind before behind
          simp only [List.countP_append, List.countP_singleton, kind, if_true] at others
          simp only [sweep, kind, if_true, List.map_cons, List.countP_cons, counted]
          simpa using others
      | false =>
          have counted := inversionsIn_of_nonrelevant kind before behind
          simp only [List.countP_append, List.countP_singleton, kind, Bool.false_eq_true,
            if_false, Nat.add_zero] at others
          simp only [sweep, kind, Bool.false_eq_true, if_false, List.map_cons, List.countP_cons,
            Bool.not_false, if_true, Nat.add_sub_cancel, others, counted]

/-! ## All items -/

variable {margin : ℚ} {relevant nonrelevant : List ℚ}

theorem map_position_collect (margin : ℚ) (relevant nonrelevant : List ℚ) :
    (collect margin relevant nonrelevant).map (·.position) =
      List.range (relevant.length + nonrelevant.length) := by
  simp only [collect, List.map_append, List.map_map, List.range_eq_range', ← List.range'_append_1]
  congr 1
  · exact List.zipIdx_map_snd 0 relevant
  · rw [Nat.zero_add]
    exact List.zipIdx_map_snd relevant.length nonrelevant

theorem countP_collect (accept : ℚ → Bool → Bool) :
    (collect margin relevant nonrelevant).countP (fun item => accept item.key item.relevant) =
      (relevant.countP fun score => accept (score - margin) true) +
        nonrelevant.countP fun score => accept score false := by
  rw [collect, List.countP_append, List.countP_map, List.countP_map]
  conv_rhs => rw [← List.zipIdx_map_fst 0 relevant,
    ← List.zipIdx_map_fst relevant.length nonrelevant, List.countP_map, List.countP_map]
  rfl

/-- The counts of all items, in the order in which the items are collected. -/
theorem map_inversionsIn_collect (margin : ℚ) (relevant nonrelevant : List ℚ) :
    (collect margin relevant nonrelevant).map
        (inversionsIn (collect margin relevant nonrelevant)) =
      (relevant.map fun score => nonrelevant.countP (score - margin < ·)) ++
        nonrelevant.map fun score => relevant.countP (· - margin < score) := by
  have counts (item : RankedItem ℚ) :
      inversionsIn (collect margin relevant nonrelevant) item =
        if item.relevant then nonrelevant.countP (item.key < ·)
        else relevant.countP (· - margin < item.key) := by
    unfold inversionsIn
    refine (countP_collect fun key kind =>
      if item.relevant then !kind && item.key < key else kind && key < item.key).trans ?_
    cases item.relevant <;> simp
  rw [List.map_congr_left fun item _ => counts item, collect, List.map_append, List.map_map,
    List.map_map]
  conv_rhs => rw [← List.zipIdx_map_fst 0 relevant,
    ← List.zipIdx_map_fst relevant.length nonrelevant, List.map_map, List.map_map,
    List.zipIdx_map_fst, List.zipIdx_map_fst]
  rfl

/-- Sorting by numbers brings back the only order in which they ascend strictly. -/
theorem mergeSort_eq_of_ascending {entries ordered : List (Nat × Nat)}
    (same : entries.Perm ordered) (ascending : (ordered.map (·.1)).Pairwise (· < ·)) :
    entries.mergeSort (fun left right => left.1 ≤ right.1) = ordered := by
  have distinct : (ordered.map (·.1)).Nodup := ascending.imp fun less => less.ne
  apply List.Perm.eq_of_pairwise
  · intro left right leftMem rightMem atMost atLeast
    have equal : left.1 = right.1 :=
      le_antisymm (of_decide_eq_true atMost) (of_decide_eq_true atLeast)
    exact List.inj_on_of_nodup_map distinct (same.subset (List.mem_mergeSort.mp leftMem)) rightMem
      equal
  · apply List.pairwise_mergeSort
    · intro first second third left right
      exact decide_eq_true ((of_decide_eq_true left).trans (of_decide_eq_true right))
    · intro left right
      rcases le_total left.1 right.1 with atMost | atLeast
      · simp [atMost]
      · simp [atLeast]
  · exact (List.pairwise_map.mp ascending).imp fun less => decide_eq_true less.le
  · exact (List.mergeSort_perm _ _).trans same

/-- Sorting what the sweep says by position restores the order of the items. -/
theorem sorted_sweep (margin : ℚ) (relevant nonrelevant : List ℚ) :
    let items := collect margin relevant nonrelevant
    ((sweep 0 nonrelevant.length (items.mergeSort precedes)).mergeSort
        fun left right => left.1 ≤ right.1) =
      items.map fun item => (item.position, inversionsIn items item) := by
  intro items
  have same : (items.mergeSort precedes).Perm items := List.mergeSort_perm items precedes
  have left : nonrelevant.length =
      (items.mergeSort precedes).countP fun item => !item.relevant := by
    rw [same.countP_eq]
    refine Eq.trans ?_ (countP_collect fun _ kind => !kind).symm
    simp
  have swept : sweep 0 nonrelevant.length (items.mergeSort precedes) =
      (items.mergeSort precedes).map fun item => (item.position, inversionsIn items item) := by
    rw [left]
    refine (@sweep_eq [] (items.mergeSort precedes) ?_).trans ?_
    · exact List.pairwise_mergeSort precedes_trans precedes_total items
    · exact List.map_congr_left fun item _ =>
        congrArg (item.position, ·) (inversionsIn_perm same item)
  rw [swept]
  apply mergeSort_eq_of_ascending (same.map _)
  rw [List.map_map]
  change (items.map (·.position)).Pairwise (· < ·)
  rw [map_position_collect]
  exact List.pairwise_lt_range

end RankedItem

/-- The counts are those of the pairs that miss the margin. -/
theorem Inversions.count_eq (margin : ℚ) (relevant nonrelevant : List ℚ) :
    count margin relevant nonrelevant =
      ⟨relevant.map fun score => nonrelevant.countP (score - margin < ·),
        nonrelevant.map fun score => relevant.countP (· - margin < score)⟩ := by
  have counts := RankedItem.sorted_sweep margin relevant nonrelevant
  simp only at counts
  simp only [count, counts, List.map_map]
  have split := RankedItem.map_inversionsIn_collect margin relevant nonrelevant
  change Inversions.mk (List.take _ (List.map (RankedItem.inversionsIn _) _))
    (List.drop _ (List.map (RankedItem.inversionsIn _) _)) = _
  rw [split, List.take_left' (List.length_map _), List.drop_left' (List.length_map _)]

/-! ## Pairs one by one -/

section Pairs

variable {α β : Type} (miss : α → β → Bool) (left : List α) (right : List β)

theorem sum_map_ite_eq_countP (accept : α → Bool) (items : List α) :
    (items.map fun item => if accept item then 1 else 0).sum = items.countP accept := by
  induction items with
  | nil => rfl
  | cons item items ih => rw [List.map_cons, List.sum_cons, ih, List.countP_cons, Nat.add_comm]

/-- The misses of all left items are the missed pairs. -/
theorem sum_countP_left :
    (left.map fun x => right.countP (miss x)).sum =
      (left.product right).countP fun pair => miss pair.1 pair.2 := by
  simp only [List.product, List.countP_flatMap, Function.comp_def, List.countP_map]

/-- The misses of all right items are the same pairs. -/
theorem sum_countP_right :
    (right.map fun y => left.countP (miss · y)).sum =
      (left.product right).countP fun pair => miss pair.1 pair.2 := by
  rw [← sum_countP_left]
  induction right with
  | nil => simp
  | cons y right ih =>
      simp only [List.map_cons, List.sum_cons, ih, List.countP_cons, List.sum_map_add,
        sum_map_ite_eq_countP]
      exact Nat.add_comm _ _

end Pairs

/-- **Sorting and sweeping counts what going through the pairs counts.**  Every score comes with
the number of scores of the other kind with which it misses the margin, in the order of the
scores; a difference of exactly the margin does not miss it.  The counts of either kind add up to
the number of missed pairs. -/
theorem Inversions.count_pairs (margin : ℚ) (relevant nonrelevant : List ℚ) :
    (Inversions.count margin relevant nonrelevant).relevant =
        relevant.map (fun score => nonrelevant.countP (score - · < margin)) ∧
      (Inversions.count margin relevant nonrelevant).nonrelevant =
        nonrelevant.map (fun score => relevant.countP (· - score < margin)) ∧
      (Inversions.count margin relevant nonrelevant).relevant.sum =
        (relevant.product nonrelevant).countP (fun pair => pair.1 - pair.2 < margin) ∧
      (Inversions.count margin relevant nonrelevant).nonrelevant.sum =
        (relevant.product nonrelevant).countP (fun pair => pair.1 - pair.2 < margin) := by
  have counts_eq : Inversions.count margin relevant nonrelevant =
      ⟨relevant.map fun score => nonrelevant.countP (score - · < margin),
        nonrelevant.map fun score => relevant.countP (· - score < margin)⟩ := by
    simp only [count_eq, sub_lt_comm]
  refine ⟨congrArg Inversions.relevant counts_eq, congrArg Inversions.nonrelevant counts_eq, ?_, ?_⟩
  · rw [counts_eq]
    exact sum_countP_left (fun first second => decide (first - second < margin)) _ _
  · rw [counts_eq]
    exact sum_countP_right (fun first second => decide (first - second < margin)) _ _

/-- A repeated score is on the margin with one score and misses it with another one. -/
example : Inversions.count (1 : ℚ) [3, 2, 3] [2, 5] = ⟨[1, 2, 1], [1, 3]⟩ := by
  cbv

end HingeRank
