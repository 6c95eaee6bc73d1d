import Mathlib
import HingeRank.Evaluation
import HingeRank.Proofs.Ranking.Risk

/-!
# Folds

Contiguous folds of a list, and the parts of a dataset at each fold.
-/

namespace HingeRank

/-!
## Contiguous folds

The bounds of the folds ascend from zero to the number of items, so that every position
lies in exactly one fold.  Cutting a list at these bounds picks the items by their
positions: those inside a fold, and those outside in their order.  Items that occur several
times are told apart by their positions.
-/

namespace Folds

variable {α : Type}

/-! ### Bounds -/

/-- Where a fold begins. -/
def first (length folds fold : Nat) : Nat := fold * (length / folds) + min fold (length % folds)

/-- A position lies in a fold. -/
def holds (length folds fold position : Nat) : Bool :=
  first length folds fold ≤ position && position < first length folds (fold + 1)

variable {length folds fold position : Nat}

theorem holds_iff : holds length folds fold position = true ↔
    first length folds fold ≤ position ∧ position < first length folds (fold + 1) := by
  simp [holds]

@[simp] theorem first_zero (length folds : Nat) : first length folds 0 = 0 := by
  simp [first]

/-- A fold takes an equal share, and one item more as long as items are left over. -/
theorem first_succ (length folds fold : Nat) :
    first length folds (fold + 1) =
      first length folds fold + (length / folds + if fold < length % folds then 1 else 0) := by
  simp only [first, Nat.succ_mul]
  split
  · omega
  · omega

@[simp] theorem first_last (length : Nat) (someFold : 0 < folds) :
    first length folds folds = length := by
  have remainder : length % folds < folds := Nat.mod_lt length someFold
  rw [first, min_eq_right remainder.le]
  exact Nat.div_add_mod length folds

theorem first_mono (length folds : Nat) : Monotone (first length folds) := by
  apply monotone_nat_of_le_succ
  intro fold
  rw [first_succ]
  exact Nat.le_add_right _ _

/-- A position below the end of the first folds lies in one of them. -/
theorem exists_holds (below : position < first length folds fold) :
    ∃ earlier < fold, holds length folds earlier position = true := by
  induction fold with
  | zero =>
      rw [first_zero] at below
      exact absurd below (Nat.not_lt_zero _)
  | succ fold ih =>
      by_cases earlier : position < first length folds fold
      · obtain ⟨found, before, holding⟩ := ih earlier
        exact ⟨found, Nat.lt_succ_of_lt before, holding⟩
      · exact ⟨fold, Nat.lt_succ_self fold, holds_iff.mpr ⟨not_lt.mp earlier, below⟩⟩

/-- A fold that holds a position does not end before another one that holds it begins. -/
theorem le_of_holds {other : Nat} (holding : holds length folds fold position = true)
    (otherHolding : holds length folds other position = true) : fold ≤ other := by
  by_contra later
  have ended : first length folds (other + 1) ≤ first length folds fold :=
    first_mono length folds (not_le.mp later)
  have begun := (holds_iff.mp holding).1
  have inside := (holds_iff.mp otherHolding).2
  omega

/-- Every position lies in exactly one fold. -/
theorem existsUnique_holds (someFold : 0 < folds) (below : position < length) :
    ∃! fold, fold < folds ∧ holds length folds fold position = true := by
  rw [← first_last length someFold] at below
  obtain ⟨fold, inRange, holding⟩ := exists_holds below
  refine ⟨fold, ⟨inRange, holding⟩, ?_⟩
  intro other found
  exact le_antisymm (le_of_holds found.2 holding) (le_of_holds holding found.2)

/-! ### Items by position -/

/-- The items at the positions that pass a test, in their order. -/
def itemsAt (passes : Nat → Bool) (items : List α) : List α :=
  (items.zipIdx.filter fun placed => passes placed.2).map (·.1)

theorem itemsAt_append (passes : Nat → Bool) (left right : List α) :
    itemsAt passes (left ++ right) =
      itemsAt passes left ++ itemsAt (fun position => passes (left.length + position)) right := by
  simp only [itemsAt, List.zipIdx_append, List.filter_append, List.map_append, zero_add]
  congr 1
  rw [List.zipIdx_eq_map_add, List.filter_map, List.map_map]
  rfl

theorem itemsAt_of_all {passes : Nat → Bool} {items : List α}
    (all : ∀ position < items.length, passes position = true) : itemsAt passes items = items := by
  have kept : items.zipIdx.filter (fun placed => passes placed.2) = items.zipIdx := by
    apply List.filter_eq_self.mpr
    intro placed member
    exact all placed.2 (List.snd_lt_of_mem_zipIdx member)
  rw [itemsAt, kept, List.zipIdx_map_fst]

theorem itemsAt_of_none {passes : Nat → Bool} {items : List α}
    (none : ∀ position < items.length, passes position = false) : itemsAt passes items = [] := by
  have dropped : items.zipIdx.filter (fun placed => passes placed.2) = [] := by
    apply List.filter_eq_nil_iff.mpr
    intro placed member
    simp [none placed.2 (List.snd_lt_of_mem_zipIdx member)]
  rw [itemsAt, dropped, List.map_nil]

theorem mem_of_mem_itemsAt {passes : Nat → Bool} {items : List α} {item : α}
    (member : item ∈ itemsAt passes items) : item ∈ items := by
  obtain ⟨placed, found, rfl⟩ := List.mem_map.mp member
  exact List.fst_mem_of_mem_zipIdx (List.mem_of_mem_filter found)

/-- The items of a fold. -/
def inside (items : List α) (folds fold : Nat) : List α :=
  itemsAt (holds items.length folds fold) items

/-- The items outside a fold, in their order. -/
def outside (items : List α) (folds fold : Nat) : List α :=
  itemsAt (fun position => !holds items.length folds fold position) items

section Cut

variable {items : List α} {low high : Nat}

/-- Items in front of two bounds, between them and behind them. -/
theorem take_drop_append (items : List α) (ordered : low ≤ high) :
    items.take low ++ ((items.take high).drop low ++ items.drop high) = items := by
  rw [← List.append_assoc]
  have front : items.take low ++ (items.take high).drop low = items.take high := by
    have shorter : items.take low = (items.take high).take low := by
      rw [List.take_take, min_eq_left ordered]
    rw [shorter, List.take_append_drop]
  rw [front, List.take_append_drop]

theorem length_drop_take (inRange : high ≤ items.length) :
    ((items.take high).drop low).length = high - low := by
  rw [List.length_drop, List.length_take, min_eq_left inRange]

/-- The items that pass are those in front of two bounds, between them and behind them. -/
theorem itemsAt_parts (passes : Nat → Bool) (ordered : low ≤ high) (inRange : high ≤ items.length) :
    itemsAt passes items = itemsAt passes (items.take low) ++
      (itemsAt (fun position => passes (low + position)) ((items.take high).drop low) ++
        itemsAt (fun position => passes (high + position)) (items.drop high)) := by
  have behind (position : Nat) : low + (high - low + position) = high + position := by omega
  conv_lhs => rw [← take_drop_append items ordered]
  rw [itemsAt_append, itemsAt_append, length_drop_take inRange, List.length_take,
    min_eq_left (ordered.trans inRange)]
  simp only [behind]

end Cut

/-- Cutting at the bounds of a fold picks the items of the fold and the others. -/
theorem cut_eq (items : List α) (inRange : fold < folds) :
    inside items folds fold =
        (items.take (first items.length folds (fold + 1))).drop (first items.length folds fold) ∧
      outside items folds fold =
        items.take (first items.length folds fold) ++
          items.drop (first items.length folds (fold + 1)) := by
  have someFold : 0 < folds := Nat.zero_lt_of_lt inRange
  have ordered := first_mono items.length folds (Nat.le_succ fold)
  have most := first_mono items.length folds (Nat.succ_le_of_lt inRange)
  rw [first_last items.length someFold] at most
  generalize low_eq : first items.length folds fold = low at ordered
  generalize high_eq : first items.length folds (fold + 1) = high at ordered most
  have holds_eq (position : Nat) : holds items.length folds fold position =
      (decide (low ≤ position) && decide (position < high)) := by
    rw [holds, low_eq, high_eq]
  constructor
  · rw [inside, itemsAt_parts _ ordered most, itemsAt_of_none, itemsAt_of_all, itemsAt_of_none,
      List.nil_append, List.append_nil]
    all_goals
      intro position below
      simp only [List.length_take, List.length_drop] at below
      simp [holds_eq] <;> omega
  · rw [outside, itemsAt_parts _ ordered most, itemsAt_of_all, itemsAt_of_none, itemsAt_of_all,
      List.nil_append]
    all_goals
      intro position below
      simp only [List.length_take, List.length_drop] at below
      simp [holds_eq] <;> omega

/-- Neighbouring marks of an ascending walk. -/
theorem zip_drop_map_range (mark : Nat → Nat) (count : Nat) :
    ((List.range (count + 1)).map mark).zip (((List.range (count + 1)).map mark).drop 1) =
      (List.range count).map fun position => (mark position, mark (position + 1)) := by
  apply List.ext_getElem
  · simp
  · intro position _ _
    simp

/-- The splits pair the items outside each fold with those inside. -/
theorem splits_eq (items : List α) (folds : Nat) :
    splits items folds =
      (List.range folds).map fun fold => (outside items folds fold, inside items folds fold) := by
  have marks := zip_drop_map_range (first items.length folds) folds
  rw [splits]
  change List.map _ (((List.range (folds + 1)).map (first items.length folds)).zip
    (((List.range (folds + 1)).map (first items.length folds)).drop 1)) = _
  rw [marks, List.map_map]
  apply List.map_congr_left
  intro fold member
  have cut := cut_eq items (List.mem_range.mp member)
  rw [Function.comp_apply, cut.1, cut.2]

/-- A fold takes an equal share of the items, and one more as long as some are left over. -/
theorem length_inside (items : List α) (inRange : fold < folds) :
    (inside items folds fold).length =
      items.length / folds + if fold < items.length % folds then 1 else 0 := by
  have most := first_mono items.length folds (Nat.succ_le_of_lt inRange)
  rw [first_last items.length (Nat.zero_lt_of_lt inRange)] at most
  rw [(cut_eq items inRange).1, length_drop_take most, Nat.succ_eq_add_one, first_succ]
  exact Nat.add_sub_cancel_left _ _

/-- The first folds together are a front part of the items. -/
theorem flatten_inside_take (items : List α) {count : Nat} (atMost : count ≤ folds) :
    ((List.range count).map (inside items folds)).flatten =
      items.take (first items.length folds count) := by
  induction count with
  | zero => simp
  | succ count ih =>
      have ordered := first_mono items.length folds (Nat.le_succ count)
      have shorter : items.take (first items.length folds count) =
          (items.take (first items.length folds (count + 1))).take
            (first items.length folds count) := by
        rw [List.take_take, min_eq_left ordered]
      rw [List.range_succ, List.map_append, List.flatten_append, ih (Nat.le_of_succ_le atMost),
        List.map_singleton, List.flatten_singleton, (cut_eq items atMost).1, shorter]
      exact List.take_append_drop _ _

/-- The folds one after the other are all items. -/
theorem flatten_inside (items : List α) (someFold : 0 < folds) :
    ((List.range folds).map (inside items folds)).flatten = items := by
  rw [flatten_inside_take items le_rfl, first_last items.length someFold,
    List.take_length]

end Folds

/-!
## Training parts and held-out parts

At each fold a dataset is split into the queries outside of it and those inside.  Both parts
are datasets again.  All folds are split before any model is trained, so that a fold that
leaves nothing to train on is found first; the first such fold is named.
-/

namespace CrossValidation

variable {dataset : Dataset ℚ} {folds fold : Nat}

/-- No query outside the fold asks for an ordering. -/
def LeavesNoPair (queries : List (Query ℚ)) (folds fold : Nat) : Prop :=
  ∀ query ∈ Folds.outside queries folds fold, query.pairCount = 0

/-- A split of a dataset at a fold, with something to train on. -/
structure SplitsAt (dataset : Dataset ℚ) (folds fold : Nat) (split : FoldSplit ℚ) : Prop where
  training_eq : split.training.queries = Folds.outside dataset.queries folds fold
  heldOut_eq : split.heldOut.queries = Folds.inside dataset.queries folds fold
  isProblem : split.training.isRankingProblem = true
  training_width : split.training.dimension = some dataset.width
  heldOut_width : ∀ dimension, split.heldOut.dimension = some dimension → dimension = dataset.width

/-- A fold that leaves some pair to train on is split. -/
theorem split?_splitsAt (dataset : Dataset ℚ) (leaves : ¬ LeavesNoPair dataset.queries folds fold) :
    ∃ split, split? fold (Folds.outside dataset.queries folds fold,
      Folds.inside dataset.queries folds fold) = .ok split ∧
      SplitsAt dataset folds fold split := by
  have outsideAgree : Agree dataset.width (Folds.outside dataset.queries folds fold) :=
    dataset.agree.subset fun query => Folds.mem_of_mem_itemsAt
  have insideAgree : Agree dataset.width (Folds.inside dataset.queries folds fold) :=
    dataset.agree.subset fun query => Folds.mem_of_mem_itemsAt
  obtain ⟨training, trainingBuilt, training_eq, trainingOnly⟩ := outsideAgree.ofQueries?_eq
  obtain ⟨heldOut, heldOutBuilt, heldOut_eq, heldOutOnly⟩ := insideAgree.ofQueries?_eq
  have isProblem : training.isRankingProblem = true := by
    apply Bool.of_not_eq_false
    intro bare
    apply leaves
    rw [Dataset.isRankingProblem_eq_false_iff, training_eq] at bare
    exact bare
  refine ⟨⟨training, heldOut⟩, ?_, ?_⟩
  · simp [split?, trainingBuilt, heldOutBuilt, isProblem]
  · have known := Dataset.dimension_eq_some isProblem
    exact {
      training_eq := training_eq
      heldOut_eq := heldOut_eq
      isProblem := isProblem
      training_width := by rw [known, trainingOnly _ known]
      heldOut_width := heldOutOnly }

/-- A fold that leaves no pair to train on is refused. -/
theorem split?_error (dataset : Dataset ℚ) (bare : LeavesNoPair dataset.queries folds fold) :
    split? fold (Folds.outside dataset.queries folds fold,
      Folds.inside dataset.queries folds fold) = .error (.foldWithoutPairs fold) := by
  have agree : Agree dataset.width (Folds.outside dataset.queries folds fold) :=
    dataset.agree.subset fun query => Folds.mem_of_mem_itemsAt
  obtain ⟨training, built, training_eq, -⟩ := agree.ofQueries?_eq
  have noProblem : training.isRankingProblem = false := by
    rw [Dataset.isRankingProblem_eq_false_iff, training_eq]
    exact bare
  simp [split?, built, noProblem]

/-- The split at every fold in turn. -/
theorem splits?_eq (dataset : Dataset ℚ) (folds : Nat) :
    splits? dataset folds = (List.range folds).mapM fun fold =>
      split? fold (Folds.outside dataset.queries folds fold,
        Folds.inside dataset.queries folds fold) := by
  have numbered : ((List.range folds).map fun fold => (Folds.outside dataset.queries folds fold,
      Folds.inside dataset.queries folds fold)).zipIdx =
        (List.range folds).map fun fold => ((Folds.outside dataset.queries folds fold,
          Folds.inside dataset.queries folds fold), fold) := by
    apply List.ext_getElem
    · simp
    · intro position _ _
      simp
  rw [splits?, Folds.splits_eq, numbered, List.mapM_map]
  rfl

/-- The first fold that leaves no pair is named. -/
theorem splits?_error (inRange : fold < folds) (bare : LeavesNoPair dataset.queries folds fold)
    (earlier : ∀ other < fold, ¬ LeavesNoPair dataset.queries folds other) :
    splits? dataset folds = .error (.foldWithoutPairs fold) := by
  obtain ⟨count, rfl⟩ := Nat.exists_eq_add_of_lt inRange
  have cut : List.range (fold + count + 1) =
      List.range fold ++ fold :: List.range' (fold + 1) count := by
    rw [← List.range'_succ, List.range_eq_range', List.range_eq_range', add_assoc,
      ← List.range'_append_1, zero_add]
  rw [splits?_eq, cut]
  apply mapM_eq_error
  · intro other member
    obtain ⟨split, made, -⟩ := split?_splitsAt dataset (earlier other (List.mem_range.mp member))
    exact ⟨split, made⟩
  · exact split?_error dataset bare

/-- If every fold leaves some pair, the dataset is split at every fold. -/
theorem splits?_splitsAt (dataset : Dataset ℚ)
    (leave : ∀ fold < folds, ¬ LeavesNoPair dataset.queries folds fold) :
    ∃ splits, splits? dataset folds = .ok splits ∧
      List.Forall₂ (fun split fold => SplitsAt dataset folds fold split) splits
        (List.range folds) := by
  rw [splits?_eq]
  apply mapM_forall₂
  intro fold member
  exact split?_splitsAt dataset (leave fold (List.mem_range.mp member))

end CrossValidation

end HingeRank
