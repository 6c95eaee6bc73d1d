import Mathlib
import HingeRank.Dual
import HingeRank.Proofs.Exact.Linear

/-!
# The line search

The walk over the sign changes stays within its bounds and ends at the best step.
-/

namespace HingeRank.Dual.LineSearch

/-!
## The line search stays within its bounds

Every point at which the walk over the sign changes can end lies between the start and
the upper bound.
-/

section

variable {upper time : ℚ}

/-- A walk from a time within the bounds over crossings within the bounds ends there. -/
theorem walk_mem (slope : Slope ℚ) (crossings : List (Crossing ℚ))
    (within : ∀ crossing ∈ crossings, 0 < crossing.time ∧ crossing.time < upper)
    (nonneg : 0 ≤ time) (atMost : time ≤ upper) :
    0 ≤ walk upper time slope crossings ∧ walk upper time slope crossings ≤ upper := by
  induction crossings generalizing time slope with
  | nil =>
      unfold walk
      simp only [Scalar.lesser_eq_min, Scalar.greater_eq_max]
      split
      next =>
        exact ⟨le_min (nonneg.trans (le_max_right _ _)) (nonneg.trans atMost), min_le_right _ _⟩
      next =>
        split
        next => exact ⟨nonneg.trans atMost, le_rfl⟩
        next => exact ⟨nonneg, atMost⟩
  | cons next rest ih =>
      have here := within next List.mem_cons_self
      have onward := ih (slope.cross next.component)
        (fun crossing member => within crossing (List.mem_cons_of_mem _ member))
        here.1.le here.2.le
      unfold walk
      simp only [Scalar.greater_eq_max]
      split
      next =>
        split
        next early =>
          exact ⟨nonneg.trans (le_max_right _ _), max_le (early.trans here.2.le) atMost⟩
        next => exact onward
      next =>
        split
        next => exact ⟨nonneg, atMost⟩
        next => exact onward

theorem crossings_within (components : List (Component ℚ)) :
    ∀ crossing ∈ crossings upper components, 0 < crossing.time ∧ crossing.time < upper := by
  intro crossing member
  simp only [crossings, List.mem_mergeSort, List.mem_filterMap] at member
  rcases member with ⟨component, -, found⟩
  split at found
  next => cases found
  next =>
    split at found
    next within =>
      cases found
      exact within
    next => cases found

/-- The best step takes no more than what is available. -/
theorem bestStep_mem (nonneg : 0 ≤ upper) (values rates : List ℚ) (gain : ℚ) :
    0 ≤ bestStep values rates gain upper ∧ bestStep values rates gain upper ≤ upper :=
  walk_mem _ _ (crossings_within _) le_rfl nonneg

end

/-!
## The line search finds the best step

The objective of a move is concave.  A time is therefore best among those within bounds as
soon as the slope there does not point to any other of them.

The walk knows the slope as a line only, which it corrects at every sign change.  It is
carried by one invariant: the line and the corrections that are still to come add up to the
slope.  A correction counts from its own time on, so that up to the next sign change the line
is the slope.  Where two signs change at once nothing lies between them, and the line in
between need not be the slope anywhere else.
-/

section

variable {components : List (Component ℚ)} {gain upper time later : ℚ} {slope : Slope ℚ}
  {rest : List (Crossing ℚ)}

/-! ### The objective and its slope -/

/-- `t · gain - ½ ‖max(0, v - t u)‖²` -/
def objective (values rates : List ℚ) (gain time : ℚ) : ℚ :=
  time * gain -
    1 / 2 * (List.zipWith (fun value rate => max 0 (value - time * rate) ^ 2) values rates).sum

/-- What is left of a component after some time, if it is positive. -/
def Component.remains (component : Component ℚ) (time : ℚ) : ℚ :=
  max 0 (component.value - time * component.rate)

/-- The slope of the objective. -/
def slopeAt (components : List (Component ℚ)) (gain time : ℚ) : ℚ :=
  gain + (components.map fun component => component.rate * component.remains time).sum

theorem objective_eq (values rates : List ℚ) (gain time : ℚ) :
    objective values rates gain time = time * gain -
      1 / 2 * ((List.zipWith Component.mk values rates).map fun component =>
        component.remains time ^ 2).sum := by
  rw [objective, List.map_zipWith]
  rfl

/-- Half the square of a positive part lies above its tangents. -/
theorem half_sq_remains_le (component : Component ℚ) (time other : ℚ) :
    1 / 2 * component.remains time ^ 2 +
        (time - other) * (component.rate * component.remains time) ≤
      1 / 2 * component.remains other ^ 2 := by
  rcases component with ⟨value, rate⟩
  simp only [Component.remains]
  rcases le_total (value - time * rate) 0 with gone | left
  · rw [max_eq_left gone]
    nlinarith [sq_nonneg (max 0 (value - other * rate))]
  · rw [max_eq_right left]
    have above := le_max_right 0 (value - other * rate)
    have weighed := mul_le_mul_of_nonneg_right above left
    nlinarith [sq_nonneg (max 0 (value - other * rate) - (value - time * rate))]

/-- The objective lies below its tangents. -/
theorem objective_le (values rates : List ℚ) (gain time other : ℚ) :
    objective values rates gain other ≤ objective values rates gain time +
      (other - time) * slopeAt (List.zipWith Component.mk values rates) gain time := by
  rw [objective_eq, objective_eq, slopeAt]
  generalize List.zipWith Component.mk values rates = components
  have tangent : 1 / 2 * (components.map fun component => component.remains time ^ 2).sum +
        (time - other) *
          (components.map fun component => component.rate * component.remains time).sum ≤
      1 / 2 * (components.map fun component => component.remains other ^ 2).sum := by
    rw [← List.sum_map_mul_left, ← List.sum_map_mul_left, ← List.sum_map_mul_left,
      ← List.sum_map_add]
    apply List.sum_le_sum
    intro component _
    exact half_sq_remains_le component time other
  linarith

/-- A time within the bounds from which the slope points to no other one. -/
structure IsBest (components : List (Component ℚ)) (gain upper time : ℚ) : Prop where
  nonneg : 0 ≤ time
  le_upper : time ≤ upper
  turned : ∀ other, 0 ≤ other → other ≤ upper →
    (other - time) * slopeAt components gain time ≤ 0

theorem IsBest.objective_le {values rates : List ℚ}
    (best : IsBest (List.zipWith Component.mk values rates) gain upper time) {other : ℚ}
    (nonneg : 0 ≤ other) (atMost : other ≤ upper) :
    objective values rates gain other ≤ objective values rates gain time := by
  have below := LineSearch.objective_le values rates gain time other
  have turned := best.turned other nonneg atMost
  linarith

/-! ### Lines and their corrections -/

/-- The value of the line at a time. -/
def Slope.valueAt (slope : Slope ℚ) (time : ℚ) : ℚ := slope.level - time * slope.fall

/-- What a sign change adds to the line from its own time on. -/
def Crossing.correction (crossing : Crossing ℚ) (time : ℚ) : ℚ :=
  if time ≤ crossing.time then 0
  else -(|crossing.component.rate| *
    (crossing.component.value - time * crossing.component.rate))

/-- The component is zero when the sign changes. -/
def Crossing.IsTimed (crossing : Crossing ℚ) : Prop :=
  crossing.time * crossing.component.rate = crossing.component.value

/-- Crossing adds the correction of the sign change to the line. -/
theorem valueAt_cross (slope : Slope ℚ) (component : Component ℚ) (time : ℚ) :
    (slope.cross component).valueAt time =
      slope.valueAt time - |component.rate| * (component.value - time * component.rate) := by
  simp only [Slope.cross, Slope.valueAt]
  split
  next positive =>
    rw [abs_of_pos positive]
    ring
  next notPositive =>
    rw [abs_of_nonpos (not_lt.mp notPositive)]
    ring

theorem correction_of_le {crossing : Crossing ℚ} (early : time ≤ crossing.time) :
    crossing.correction time = 0 := if_pos early

/-- At its own time a correction is zero either way. -/
theorem correction_of_ge {crossing : Crossing ℚ} (timed : crossing.IsTimed)
    (late : crossing.time ≤ time) :
    crossing.correction time = -(|crossing.component.rate| *
      (crossing.component.value - time * crossing.component.rate)) := by
  unfold Crossing.correction
  split
  next early =>
    have same : time = crossing.time := le_antisymm early late
    rw [same, timed, sub_self, mul_zero, neg_zero]
  next => rfl

/-! ### The invariant of the walk -/

/-- By how much a sign change can lower the fall of the line. -/
def Crossing.relief (crossing : Crossing ℚ) : ℚ :=
  if 0 < crossing.component.rate then crossing.component.rate * crossing.component.rate else 0

/-- From `time` on the line and the corrections still to come add up to the slope, which has
not been below zero yet. -/
structure Tracks (components : List (Component ℚ)) (gain upper time : ℚ) (slope : Slope ℚ)
    (rest : List (Crossing ℚ)) : Prop where
  nonneg : 0 ≤ time
  le_upper : time ≤ upper
  slopeAt_eq : ∀ later, time ≤ later → later ≤ upper →
    slopeAt components gain later =
      slope.valueAt later + (rest.map fun crossing => crossing.correction later).sum
  ahead : ∀ crossing ∈ rest, time ≤ crossing.time
  sorted : rest.Pairwise fun left right => left.time ≤ right.time
  timed : ∀ crossing ∈ rest, crossing.IsTimed ∧ crossing.time < upper
  /-- The line does not rise, whatever is still crossed. -/
  relief_le : (rest.map Crossing.relief).sum ≤ slope.fall
  risen : time = 0 ∨ 0 ≤ slope.valueAt time

theorem relief_nonneg (crossing : Crossing ℚ) : 0 ≤ crossing.relief := by
  unfold Crossing.relief
  split
  next => exact mul_self_nonneg _
  next => exact le_rfl

namespace Tracks

theorem fall_nonneg (tracks : Tracks components gain upper time slope rest) : 0 ≤ slope.fall := by
  refine le_trans (List.sum_nonneg ?_) tracks.relief_le
  intro relief member
  obtain ⟨crossing, -, rfl⟩ := List.mem_map.mp member
  exact relief_nonneg crossing

/-- As long as no sign changes the line is the slope. -/
theorem slopeAt_eq_valueAt (tracks : Tracks components gain upper time slope rest)
    (notBefore : time ≤ later) (atMost : later ≤ upper)
    (early : ∀ crossing ∈ rest, later ≤ crossing.time) :
    slopeAt components gain later = slope.valueAt later := by
  have none : (rest.map fun crossing => crossing.correction later).sum = 0 := by
    apply List.sum_eq_zero
    intro correction member
    obtain ⟨crossing, crossingMem, rfl⟩ := List.mem_map.mp member
    exact correction_of_le (early crossing crossingMem)
  rw [tracks.slopeAt_eq later notBefore atMost, none, add_zero]

theorem slopeAt_time (tracks : Tracks components gain upper time slope rest) :
    slopeAt components gain time = slope.valueAt time :=
  tracks.slopeAt_eq_valueAt le_rfl tracks.le_upper tracks.ahead

/-- Where the line does not rise above zero any more, the walk has come far enough. -/
theorem isBest_time (tracks : Tracks components gain upper time slope rest)
    (notAbove : slope.valueAt time ≤ 0) : IsBest components gain upper time where
  nonneg := tracks.nonneg
  le_upper := tracks.le_upper
  turned := by
    intro other nonneg _
    rw [tracks.slopeAt_time]
    rcases tracks.risen with start | notBelow
    · rw [start] at notAbove ⊢
      rw [sub_zero]
      exact mul_nonpos_of_nonneg_of_nonpos nonneg notAbove
    · rw [le_antisymm notAbove notBelow, mul_zero]

/-- The slope vanishes where the line does, if no sign changes before. -/
theorem isBest_root (tracks : Tracks components gain upper time slope rest)
    (notBefore : time ≤ later) (atMost : later ≤ upper)
    (early : ∀ crossing ∈ rest, later ≤ crossing.time) (vanishes : slope.valueAt later = 0) :
    IsBest components gain upper later where
  nonneg := tracks.nonneg.trans notBefore
  le_upper := atMost
  turned := by
    intro other _ _
    rw [tracks.slopeAt_eq_valueAt notBefore atMost early, vanishes, mul_zero]

/-- A line that stays above zero leads to the upper bound. -/
theorem isBest_upper (tracks : Tracks components gain upper time slope [])
    (above : 0 ≤ slope.valueAt upper) : IsBest components gain upper upper where
  nonneg := tracks.nonneg.trans tracks.le_upper
  le_upper := le_rfl
  turned := by
    intro other _ atMost
    rw [tracks.slopeAt_eq_valueAt tracks.le_upper le_rfl (by simp)]
    exact mul_nonpos_of_nonpos_of_nonneg (sub_nonpos.mpr atMost) above

/-- If the line is not below zero at the next sign change, the walk goes on from there. -/
theorem cross {next : Crossing ℚ} (tracks : Tracks components gain upper time slope (next :: rest))
    (above : 0 ≤ slope.valueAt next.time) :
    Tracks components gain upper next.time (slope.cross next.component) rest := by
  obtain ⟨timed, before⟩ := tracks.timed next List.mem_cons_self
  have here := tracks.ahead next List.mem_cons_self
  obtain ⟨behind, sorted⟩ := List.pairwise_cons.mp tracks.sorted
  constructor
  case nonneg => exact tracks.nonneg.trans here
  case le_upper => exact before.le
  case slopeAt_eq =>
    intro later notBefore atMost
    rw [tracks.slopeAt_eq later (here.trans notBefore) atMost, List.map_cons, List.sum_cons,
      correction_of_ge timed notBefore, valueAt_cross]
    ring
  case ahead => exact behind
  case sorted => exact sorted
  case timed =>
    intro crossing member
    exact tracks.timed crossing (List.mem_cons_of_mem _ member)
  case relief_le =>
    have total := tracks.relief_le
    rw [List.map_cons, List.sum_cons, Crossing.relief] at total
    unfold Slope.cross
    split
    next positive =>
      rw [if_pos positive] at total
      exact le_sub_iff_add_le'.mpr total
    next notPositive =>
      rw [if_neg notPositive, zero_add] at total
      exact total.trans (le_add_of_nonneg_right (mul_self_nonneg _))
  case risen =>
    refine .inr ?_
    rw [valueAt_cross, timed, sub_self, mul_zero, sub_zero]
    exact above

end Tracks

/-! ### The walk -/

private theorem valueAt_root (falls : 0 < slope.fall) :
    slope.valueAt (slope.level / slope.fall) = 0 := by
  rw [Slope.valueAt, div_mul_cancel₀ _ falls.ne', sub_self]

/-- Before its root a falling line is not below zero. -/
private theorem valueAt_nonneg_iff (falls : 0 < slope.fall) :
    0 ≤ slope.valueAt time ↔ time ≤ slope.level / slope.fall := by
  rw [Slope.valueAt, sub_nonneg, le_div_iff₀ falls]

private theorem valueAt_nonpos_iff (falls : 0 < slope.fall) :
    slope.valueAt time ≤ 0 ↔ slope.level / slope.fall ≤ time := by
  rw [Slope.valueAt, sub_nonpos, div_le_iff₀ falls]

/-- A line without a fall has one value. -/
private theorem valueAt_of_level (level : slope.fall = 0) : slope.valueAt time = slope.level := by
  rw [Slope.valueAt, level, mul_zero, sub_zero]

/-- Where the root of a falling line comes first, the later one of root and start is best. -/
theorem Tracks.isBest_max (tracks : Tracks components gain upper time slope rest)
    (falls : 0 < slope.fall) (atMost : slope.level / slope.fall ≤ upper)
    (early : ∀ crossing ∈ rest, slope.level / slope.fall ≤ crossing.time) :
    IsBest components gain upper (max (slope.level / slope.fall) time) := by
  rcases le_total (slope.level / slope.fall) time with before | notBefore
  · rw [max_eq_right before]
    exact tracks.isBest_time ((valueAt_nonpos_iff falls).mpr before)
  · rw [max_eq_left notBefore]
    exact tracks.isBest_root notBefore atMost early (valueAt_root falls)

/-- The walk ends at a best time; the induction is on the sign changes ahead. -/
theorem Tracks.isBest_walk (tracks : Tracks components gain upper time slope rest) :
    IsBest components gain upper (walk upper time slope rest) := by
  induction rest generalizing time slope with
  | nil =>
      simp only [walk, Scalar.lesser_eq_min, Scalar.greater_eq_max]
      split
      next falls =>
        rcases le_total (slope.level / slope.fall) upper with within | beyond
        · rw [min_eq_left (max_le within tracks.le_upper)]
          exact tracks.isBest_max falls within (by simp)
        · rw [min_eq_right (beyond.trans (le_max_left _ _))]
          exact tracks.isBest_upper ((valueAt_nonneg_iff falls).mpr beyond)
      next notFalling =>
        have level : slope.fall = 0 := le_antisymm (not_lt.mp notFalling) tracks.fall_nonneg
        split
        next rises =>
          apply tracks.isBest_upper
          rw [valueAt_of_level level]
          exact rises.le
        next notRising =>
          apply tracks.isBest_time
          rw [valueAt_of_level level]
          exact not_lt.mp notRising
  | cons next rest ih =>
      have behind := (List.pairwise_cons.mp tracks.sorted).1
      simp only [walk, Scalar.greater_eq_max]
      split
      next falls =>
        split
        next early =>
          apply tracks.isBest_max falls
          · exact early.trans (tracks.timed next List.mem_cons_self).2.le
          · intro crossing member
            rcases List.mem_cons.mp member with rfl | member
            · exact early
            · exact early.trans (behind crossing member)
        next notEarly =>
          apply ih
          apply tracks.cross
          exact (valueAt_nonneg_iff falls).mpr (not_le.mp notEarly).le
      next notFalling =>
        have level : slope.fall = 0 := le_antisymm (not_lt.mp notFalling) tracks.fall_nonneg
        split
        next notRising =>
          apply tracks.isBest_time
          rw [valueAt_of_level level]
          exact notRising
        next rises =>
          apply ih
          apply tracks.cross
          rw [valueAt_of_level level]
          exact (not_le.mp rises).le

/-! ### The start -/

/-- The sign change of a component strictly between the start and the upper bound. -/
def Component.crossing? (upper : ℚ) (component : Component ℚ) : Option (Crossing ℚ) :=
  if Scalar.same component.rate 0 then none
  else
    let time := component.value / component.rate
    if 0 < time ∧ time < upper then some ⟨time, component⟩ else none

theorem crossings_eq (upper : ℚ) (components : List (Component ℚ)) :
    crossings upper components =
      (components.filterMap (·.crossing? upper)).mergeSort
        fun left right => left.time ≤ right.time := rfl

theorem sum_map_crossings (value : Crossing ℚ → ℚ) (components : List (Component ℚ)) :
    ((crossings upper components).map value).sum =
      (components.map fun component => (component.crossing? upper).elim 0 value).sum := by
  rw [crossings_eq, ((List.mergeSort_perm _ _).map value).sum_eq, sum_map_filterMap]

theorem sorted_crossings (upper : ℚ) (components : List (Component ℚ)) :
    (crossings upper components).Pairwise fun left right => left.time ≤ right.time := by
  have sorted := @List.pairwise_mergeSort (Crossing ℚ) (fun left right => left.time ≤ right.time)
    (fun _ _ _ first second => decide_eq_true
      ((of_decide_eq_true first).trans (of_decide_eq_true second)))
    (fun left right => by simpa using le_total left.time right.time)
    (components.filterMap (·.crossing? upper))
  exact sorted.imp fun order => of_decide_eq_true order

namespace Component

variable {component : Component ℚ}

@[simp] theorem isActive_iff : component.isActive = true ↔
    0 < component.value ∨ component.value = 0 ∧ component.rate < 0 := by
  simp [isActive]

@[simp] theorem crossing?_of_still (still : component.rate = 0) :
    component.crossing? upper = none := by
  simp [crossing?, still]

theorem crossing?_of_moving (moving : component.rate ≠ 0) :
    component.crossing? upper =
      if 0 < component.value / component.rate ∧ component.value / component.rate < upper then
        some ⟨component.value / component.rate, component⟩
      else none := by
  simp [crossing?, moving]

/-- Up to the upper bound a component is corrected once its time has passed. -/
theorem correction_crossing? (moving : component.rate ≠ 0) (atMost : time ≤ upper) :
    (component.crossing? upper).elim 0 (fun crossing => crossing.correction time) =
      if 0 < component.value / component.rate ∧ component.value / component.rate < time then
        -(|component.rate| * (component.value - time * component.rate))
      else 0 := by
  rw [crossing?_of_moving moving]
  rcases le_or_gt time (component.value / component.rate) with early | late
  · have notPassed : ¬(0 < component.value / component.rate ∧
        component.value / component.rate < time) := fun passed => early.not_gt passed.2
    rw [if_neg notPassed]
    split
    next => exact if_pos early
    next => rfl
  · have before : component.value / component.rate < upper := late.trans_le atMost
    simp only [before, late, and_true]
    split
    next => exact if_neg (not_le.mpr late)
    next => rfl

/-- A component that falls contributes until it is zero. -/
theorem rate_mul_remains_of_falling {zero : ℚ} (positive : 0 < component.rate)
    (value_eq : component.value = zero * component.rate) (nonneg : 0 ≤ time) :
    component.rate * max 0 (component.rate * (zero - time)) =
      (if component.isActive then component.rate * (component.rate * (zero - time)) else 0) +
      if 0 < zero ∧ zero < time then
        -(|component.rate| * (component.rate * (zero - time))) else 0 := by
  have active : component.isActive = true ↔ 0 < zero := by
    rw [isActive_iff, value_eq, mul_pos_iff_of_pos_right positive]
    simp [positive.le]
  rw [abs_of_pos positive]
  by_cases some : 0 < zero
  · rw [if_pos (active.mpr some)]
    rcases le_or_gt time zero with early | late
    · rw [max_eq_right (mul_nonneg positive.le (sub_nonneg.mpr early)),
        if_neg fun passed => early.not_gt passed.2, add_zero]
    · rw [max_eq_left (mul_nonpos_of_nonneg_of_nonpos positive.le (sub_nonpos.mpr late.le)),
        if_pos ⟨some, late⟩]
      ring
  · have gone : zero - time ≤ 0 := sub_nonpos.mpr ((not_lt.mp some).trans nonneg)
    rw [max_eq_left (mul_nonpos_of_nonneg_of_nonpos positive.le gone), if_neg (mt active.mp some),
      if_neg fun passed => some passed.1, mul_zero, add_zero]

/-- A component that grows contributes from its zero on. -/
theorem rate_mul_remains_of_growing {zero : ℚ} (negative : component.rate < 0)
    (value_eq : component.value = zero * component.rate) (nonneg : 0 ≤ time) :
    component.rate * max 0 (component.rate * (zero - time)) =
      (if component.isActive then component.rate * (component.rate * (zero - time)) else 0) +
      if 0 < zero ∧ zero < time then
        -(|component.rate| * (component.rate * (zero - time))) else 0 := by
  have active : component.isActive = true ↔ ¬0 < zero := by
    rw [isActive_iff, value_eq, not_lt, le_iff_lt_or_eq, mul_pos_iff]
    simp [negative, negative.not_gt, negative.ne]
  rw [abs_of_neg negative]
  by_cases some : 0 < zero
  · rw [if_neg fun early => active.mp early some, zero_add]
    rcases le_or_gt time zero with early | late
    · rw [max_eq_left (mul_nonpos_of_nonpos_of_nonneg negative.le (sub_nonneg.mpr early)),
        if_neg fun passed => early.not_gt passed.2, mul_zero]
    · rw [max_eq_right (mul_nonneg_of_nonpos_of_nonpos negative.le (sub_nonpos.mpr late.le)),
        if_pos ⟨some, late⟩]
      ring
  · have there : zero - time ≤ 0 := sub_nonpos.mpr ((not_lt.mp some).trans nonneg)
    rw [max_eq_right (mul_nonneg_of_nonpos_of_nonpos negative.le there), if_pos (active.mpr some),
      if_neg fun passed => some passed.1, add_zero]

/-- What an active component contributes to the line, corrected once its sign has changed, is
what it contributes to the slope. -/
theorem rate_mul_remains (component : Component ℚ) (nonneg : 0 ≤ time) (atMost : time ≤ upper) :
    component.rate * component.remains time =
      (if component.isActive then
        component.rate * (component.value - time * component.rate) else 0) +
      (component.crossing? upper).elim 0 fun crossing => crossing.correction time := by
  by_cases still : component.rate = 0
  · simp [still]
  rw [correction_crossing? still atMost]
  -- in terms of the time at which the component is zero
  obtain ⟨zero, value_eq⟩ : ∃ zero, component.value = zero * component.rate :=
    ⟨component.value / component.rate, (div_mul_cancel₀ _ still).symm⟩
  have left_eq : component.value - time * component.rate = component.rate * (zero - time) := by
    rw [value_eq]
    ring
  have zero_eq : component.value / component.rate = zero := by
    rw [value_eq, mul_div_cancel_right₀ _ still]
  rw [remains, left_eq, zero_eq]
  rcases lt_or_gt_of_ne still with negative | positive
  · exact rate_mul_remains_of_growing negative value_eq nonneg
  · exact rate_mul_remains_of_falling positive value_eq nonneg

/-- What a sign change can take from the fall of the line is there from the start. -/
theorem relief_le (upper : ℚ) (component : Component ℚ) :
    (component.crossing? upper).elim 0 Crossing.relief ≤
      if component.isActive then component.rate * component.rate else 0 := by
  have square := mul_self_nonneg component.rate
  have active_nonneg :
      0 ≤ if component.isActive then component.rate * component.rate else 0 := by
    split
    next => exact square
    next => exact le_rfl
  by_cases still : component.rate = 0
  · rw [crossing?_of_still still]
    exact active_nonneg
  rw [crossing?_of_moving still]
  split
  next within =>
    simp only [Option.elim_some, Crossing.relief]
    split
    next positive =>
      have active : component.isActive = true :=
        isActive_iff.mpr (.inl ((div_pos_iff_of_pos_right positive).mp within.1))
      rw [if_pos active]
    next => exact active_nonneg
  next => exact active_nonneg

end Component

theorem valueAt_initial (gain : ℚ) (components : List (Component ℚ)) (time : ℚ) :
    (Slope.initial gain components).valueAt time =
      gain + (components.map fun component =>
        if component.isActive then
          component.rate * (component.value - time * component.rate) else 0).sum := by
  rw [← sum_map_filter]
  simp only [Slope.initial, Slope.valueAt, dot_map_map, mul_sub]
  rw [← sum_map_sub, ← List.sum_map_mul_left]
  have each (component : Component ℚ) :
      time * (component.rate * component.rate) = component.rate * (time * component.rate) := by
    ring
  simp only [each]
  ring

theorem fall_initial (gain : ℚ) (components : List (Component ℚ)) :
    (Slope.initial gain components).fall =
      (components.map fun component =>
        if component.isActive then component.rate * component.rate else 0).sum := by
  simp only [Slope.initial, dot_map_map, sum_map_filter]

/-- At the start the line leaves out what changes its sign later. -/
theorem initial_tracks (nonneg : 0 ≤ upper) (gain : ℚ) (components : List (Component ℚ)) :
    Tracks components gain upper 0 (.initial gain components) (crossings upper components) where
  nonneg := le_rfl
  le_upper := nonneg
  slopeAt_eq := by
    intro later notBefore atMost
    rw [valueAt_initial, sum_map_crossings, add_assoc, ← List.sum_map_add]
    simp only [slopeAt, Component.rate_mul_remains _ notBefore atMost]
  ahead := by
    intro crossing member
    exact (crossings_within components crossing member).1.le
  sorted := sorted_crossings upper components
  timed := by
    intro crossing member
    refine ⟨?_, (crossings_within components crossing member).2⟩
    rw [crossings_eq, List.mem_mergeSort] at member
    obtain ⟨component, -, found⟩ := List.mem_filterMap.mp member
    by_cases still : component.rate = 0
    · simp [still] at found
    · rw [Component.crossing?_of_moving still] at found
      split at found
      next =>
        rw [← Option.some.inj found]
        exact div_mul_cancel₀ _ still
      next => cases found
  relief_le := by
    rw [sum_map_crossings, fall_initial]
    apply List.sum_le_sum
    intro component _
    exact component.relief_le upper
  risen := .inl rfl

/-- **The best step is best**: it lies within the bounds, and no step within them has a larger
objective. -/
theorem bestStep_maximises (nonneg : 0 ≤ upper) (values rates : List ℚ) (gain : ℚ) :
    let step := bestStep values rates gain upper
    (0 ≤ step ∧ step ≤ upper) ∧ ∀ time, 0 ≤ time → time ≤ upper →
      objective values rates gain time ≤ objective values rates gain step := by
  intro step
  have best : IsBest (List.zipWith Component.mk values rates) gain upper step :=
    (initial_tracks nonneg gain _).isBest_walk
  constructor
  · exact ⟨best.nonneg, best.le_upper⟩
  · intro time notBefore atMost
    exact best.objective_le notBefore atMost

/-- Three components change their sign at one, one starts to grow at zero and one is still;
the best step lies behind all of them. -/
theorem bestStep_maximises_behind_ties :
    (0 : ℚ) ≤ 3 ∧ bestStep [2, -2, 1, 0, -1] [2, -2, 1, -1, 0] (7 / 2) (3 : ℚ) = 3 / 2 ∧
    ∀ time, 0 ≤ time → time ≤ 3 →
      objective [2, -2, 1, 0, -1] [2, -2, 1, -1, 0] (7 / 2) time ≤
        objective [2, -2, 1, 0, -1] [2, -2, 1, -1, 0] (7 / 2) (3 / 2) := by
  have nonneg : (0 : ℚ) ≤ 3 := by decide
  have step_eq : bestStep [2, -2, 1, 0, -1] [2, -2, 1, -1, 0] (7 / 2) (3 : ℚ) = 3 / 2 := by
    cbv
  have best := (bestStep_maximises nonneg [2, -2, 1, 0, -1] [2, -2, 1, -1, 0] (7 / 2)).2
  rw [step_eq] at best
  exact ⟨nonneg, step_eq, best⟩

end

end HingeRank.Dual.LineSearch
