import Mathlib
import HingeRank.Proofs.Dual.BestStep
import HingeRank.Proofs.Dual.Climb

/-!
# Ascent with nonnegative weights

The ascent with nonnegative weights is consistent, and each of its moves gains.
-/

namespace HingeRank.Dual

/-!
## Ascent with nonnegative weights stays consistent

The ascent keeps its multipliers feasible, and the position that it updates row by row
is at every point the negated combination of the gradients.
-/

namespace Nonnegative

open Linear

variable {problem : Problem ℚ} {total tolerance : ℚ}

namespace Problem

/-- One offset for each gradient, and all gradients in one space. -/
structure WellFormed (problem : Problem ℚ) : Prop where
  square : problem.gradients.length = problem.offsets.length
  aligned : ∀ gradient ∈ problem.gradients, gradient.length = problem.dimension

@[simp] theorem length_values (wellFormed : problem.WellFormed) (position : List ℚ) :
    (problem.values position).length = problem.offsets.length := by
  simp [values, wellFormed.square]

/-- Feasible multipliers together with the position that belongs to them. -/
structure Consistent (problem : Problem ℚ) (total : ℚ) (state : State ℚ) : Prop where
  feasible : Feasible problem.offsets.length total state.multipliers
  position_eq : state.position = neg (combine problem.dimension state.multipliers problem.gradients)

theorem Consistent.length_position (wellFormed : problem.WellFormed) {state : State ℚ}
    (consistent : problem.Consistent total state) :
    state.position.length = problem.dimension := by
  rw [consistent.position_eq, length_neg, length_combine _ wellFormed.aligned]

private theorem row_mem {rows : List (List ℚ)} {position : Nat}
    (inBounds : position < rows.length) : row rows position ∈ rows := by
  simp [row, inBounds]

/-- The position after a move, from the two rows that the move touches. -/
theorem neg_combine_move (wellFormed : problem.WellFormed) {multipliers : List ℚ}
    (equal : multipliers.length = problem.gradients.length) {raised lowered : Nat}
    (raisedBounds : raised < multipliers.length) (loweredBounds : lowered < multipliers.length)
    (step : ℚ) :
    neg (combine problem.dimension (move multipliers raised lowered step) problem.gradients) =
      sub (neg (combine problem.dimension multipliers problem.gradients))
        (scale step (sub (row problem.gradients raised) (row problem.gradients lowered))) := by
  have aligned := wellFormed.aligned
  have raisedLength := aligned _ (row_mem (equal ▸ raisedBounds))
  have loweredLength := aligned _ (row_mem (equal ▸ loweredBounds))
  apply ext_dot
  · simp [length_combine _ aligned, raisedLength, loweredLength]
  · intro vector _
    rw [dot_sub_left (by simp [length_combine _ aligned, raisedLength, loweredLength]),
      dot_neg_left, dot_neg_left, dot_combine _ aligned, dot_combine _ aligned,
      dot_move raisedBounds loweredBounds, dot_scale_left,
      dot_sub_left (raisedLength.trans loweredLength.symm), entry_apply (equal ▸ raisedBounds),
      entry_apply (equal ▸ loweredBounds)]
    ring

/-- What an advance does, and that it is not negligible. -/
theorem advance?_eq_some {state next : State ℚ}
    (advanced : problem.advance? total tolerance state = some next) :
    let transfer := choose state.multipliers (problem.values state.position)
    let direction := sub (row problem.gradients transfer.raised)
      (row problem.gradients transfer.lowered)
    let step := LineSearch.bestStep state.position direction
      (entry problem.offsets transfer.raised - entry problem.offsets transfer.lowered)
      (entry state.multipliers transfer.lowered)
    transfer.isNegligible total tolerance = false ∧
      next = ⟨move state.multipliers transfer.raised transfer.lowered step,
        sub state.position (scale step direction)⟩ := by
  simp only [advance?] at advanced
  split at advanced
  next => cases advanced
  next worthwhile => exact ⟨by simpa using worthwhile, (Option.some.inj advanced).symm⟩

theorem advance?_eq_none {state : State ℚ}
    (stopped : problem.advance? total tolerance state = none) :
    Settled total tolerance state.multipliers (problem.values state.position) := by
  simp only [advance?] at stopped
  split at stopped
  next negligible => exact negligible
  next => cases stopped

variable (wellFormed : problem.WellFormed) (positive : 0 < total) (nonneg : 0 ≤ tolerance)

include wellFormed positive nonneg

theorem advance_consistent {state next : State ℚ} (consistent : problem.Consistent total state)
    (advanced : problem.advance? total tolerance state = some next) :
    problem.Consistent total next := by
  obtain ⟨worthwhile, rfl⟩ := advance?_eq_some advanced
  have feasible := consistent.feasible
  have lengths := length_values wellFormed state.position
  have chosen := choose_chosen feasible positive lengths
  have rising := Transfer.Chosen.spread_pos positive nonneg worthwhile
  generalize choose state.multipliers (problem.values state.position) = transfer at *
  have available := LineSearch.bestStep_mem chosen.lowered_pos.le state.position
    (sub (row problem.gradients transfer.raised) (row problem.gradients transfer.lowered))
    (entry problem.offsets transfer.raised - entry problem.offsets transfer.lowered)
  constructor
  · exact chosen.feasible_move feasible lengths rising available
  · have equal := lengths.trans feasible.length_eq.symm
    dsimp only
    rw [neg_combine_move wellFormed (feasible.length_eq.trans wellFormed.square.symm)
      (equal ▸ chosen.raised_lt) (equal ▸ chosen.lowered_lt), ← consistent.position_eq]

theorem restartable : Restartable (problem.advance? total tolerance) problem.stateAt
    State.multipliers (problem.Consistent total) problem.offsets.length total where
  starts := fun _ feasible => ⟨feasible, rfl⟩
  kept := fun _ _ => advance_consistent wellFormed positive nonneg
  feasible := fun _ consistent => consistent.feasible
  fresh := by
    intro state consistent
    rw [stateAt, ← consistent.position_eq]

/-- The solution is feasible.  If the cap was not used up, it is settled with respect to
the values of the planes. -/
theorem solve_feasible (nonempty : 0 < problem.offsets.length) (initial : Option (List ℚ))
    (cap : Nat) :
    let solution := problem.solve total initial tolerance cap
    Feasible problem.offsets.length total solution.multipliers ∧
      (solution.iterations < cap → Settled total tolerance solution.multipliers (problem.values
        (neg (combine problem.dimension solution.multipliers problem.gradients)))) := by
  obtain ⟨feasible, stops⟩ := (restartable wellFormed positive nonneg).climbFrom_ends nonempty
    positive initial cap
  refine ⟨feasible, ?_⟩
  intro early
  have settled := advance?_eq_none (stops early)
  exact settled

end Problem

end Nonnegative

/-!
## Gains of ascent with nonnegative weights

Along a move the worth of the multipliers is the objective of the line search.  It begins with
the spread of the two gradients as its slope and lies above a parabola with this slope, whose
curvature is the squared length of the direction.  The best step gains at least what the best
step on the parabola would gain: within bounds if it takes all there is, and without any bound
if it leaves something behind.
-/

section

open Linear

/-! ### A parabola below the objective -/

namespace LineSearch

variable {values rates : List ℚ} {gain upper time : ℚ}

theorem map_rate_zipWith (equal : values.length = rates.length) :
    (List.zipWith Component.mk values rates).map (·.rate) = rates := by
  apply List.ext_getElem <;> simp [equal]

theorem map_remains_zero (equal : values.length = rates.length) :
    (List.zipWith Component.mk values rates).map (·.remains 0) =
      values.map Scalar.positivePart := by
  apply List.ext_getElem <;>
    simp [equal, Component.remains, max_comm]

theorem positivePart_sub_scale (values rates : List ℚ) (time : ℚ) :
    (sub values (scale time rates)).map Scalar.positivePart =
      (List.zipWith Component.mk values rates).map (·.remains time) := by
  simp only [sub, scale, List.zipWith_map_right, List.map_zipWith, Scalar.positivePart_eq_max,
    Component.remains, max_comm (0 : ℚ)]

/-- Half the square of a positive part bends no more than the square itself. -/
theorem half_sq_remains_ge (component : Component ℚ) (time : ℚ) :
    1 / 2 * component.remains time ^ 2 ≤
      1 / 2 * component.remains 0 ^ 2 - time * (component.rate * component.remains 0) +
        1 / 2 * (time * time) * (component.rate * component.rate) := by
  have square : component.remains time ^ 2 ≤
      (component.remains 0 - time * component.rate) ^ 2 := by
    simp only [Component.remains, zero_mul, sub_zero]
    rcases le_total (component.value - time * component.rate) 0 with gone | left
    · rw [max_eq_left gone, zero_pow two_ne_zero]
      exact sq_nonneg _
    · rw [max_eq_right left]
      exact pow_le_pow_left₀ left (sub_le_sub_right (le_max_right _ _) _) 2
  linarith

/-- The objective lies above the parabola that begins like it and bends by the squared rates. -/
theorem objective_ge (equal : values.length = rates.length) (gain time : ℚ) :
    objective values rates gain 0 +
        (time * slopeAt (List.zipWith Component.mk values rates) gain 0 -
          1 / 2 * (time * (time * dot rates rates))) ≤
      objective values rates gain time := by
  have squares : dot rates rates =
      ((List.zipWith Component.mk values rates).map fun component =>
        component.rate * component.rate).sum := by
    rw [← dot_map_map, map_rate_zipWith equal]
  rw [objective_eq, objective_eq, slopeAt, squares]
  generalize List.zipWith Component.mk values rates = components
  have bends : 1 / 2 * (components.map fun component => component.remains time ^ 2).sum ≤
      1 / 2 * (components.map fun component => component.remains 0 ^ 2).sum -
        time * (components.map fun component => component.rate * component.remains 0).sum +
        1 / 2 * (time * time) * (components.map fun component =>
          component.rate * component.rate).sum := by
    simp only [← List.sum_map_mul_left, sum_map_sub, ← List.sum_map_add]
    apply List.sum_le_sum
    intro component _
    exact half_sq_remains_ge component time
  linarith

/-- A best time that leaves something of the bound is best without the bound. -/
theorem IsBest.objective_le_of_ne
    (best : IsBest (List.zipWith Component.mk values rates) gain upper time)
    (partly : time ≠ upper) {other : ℚ} (nonneg : 0 ≤ other) :
    objective values rates gain other ≤ objective values rates gain time := by
  rcases le_or_gt other upper with within | beyond
  · exact best.objective_le nonneg within
  · have turned := best.turned upper (best.nonneg.trans best.le_upper) le_rfl
    have left : 0 < upper - time := sub_pos.mpr (lt_of_le_of_ne best.le_upper partly)
    have falls := nonpos_of_mul_nonpos_right turned left
    have below := LineSearch.objective_le values rates gain time other
    have later : 0 ≤ other - time := sub_nonneg.mpr (best.le_upper.trans beyond.le)
    have lower := mul_nonpos_of_nonneg_of_nonpos later falls
    linarith

/-- What the best step gains, if the slope at the start is positive: something in any case, and
a fixed amount if it leaves something of the bound. -/
theorem bestStep_gains (equal : values.length = rates.length) {slope bound : ℚ}
    (slope_eq : slopeAt (List.zipWith Component.mk values rates) gain 0 = slope)
    (rising : 0 < slope) (positive : 0 < bound) (bends : dot rates rates ≤ bound)
    (some : 0 < upper) :
    let step := bestStep values rates gain upper
    objective values rates gain 0 < objective values rates gain step ∧
      (step ≠ upper → objective values rates gain 0 + slope ^ 2 / (2 * bound) ≤
        objective values rates gain step) := by
  intro step
  have best : IsBest (List.zipWith Component.mk values rates) gain upper step :=
    (initial_tracks some.le gain _).isBest_walk
  have above (time : ℚ) : objective values rates gain 0 +
      (time * slope - 1 / 2 * (time * (time * bound))) ≤ objective values rates gain time := by
    have parabola := objective_ge equal gain time
    have flatter := mul_le_mul_of_nonneg_left bends (mul_self_nonneg time)
    rw [slope_eq] at parabola
    linarith
  have vertex_pos : 0 < slope / bound := div_pos rising positive
  -- The best step is compared with the vertex of the parabola, which may lie beyond the bound.
  constructor
  · have early_pos : 0 < min (slope / bound) upper := lt_min vertex_pos some
    have before_vertex : min (slope / bound) upper * bound ≤ slope :=
      (le_div_iff₀ positive).mp (min_le_left _ _)
    have half := mul_le_mul_of_nonneg_left before_vertex early_pos.le
    have promised := mul_pos early_pos rising
    have early := above (min (slope / bound) upper)
    have attained := best.objective_le early_pos.le (min_le_right _ _)
    linarith
  · intro partly
    have attained := best.objective_le_of_ne partly vertex_pos.le
    have vertex := above (slope / bound)
    have height : slope / bound * slope - 1 / 2 * (slope / bound * (slope / bound * bound)) =
        slope ^ 2 / (2 * bound) := by
      field_simp
      ring
    rw [height] at vertex
    exact vertex.trans attained

end LineSearch

/-! ### The worth of a move -/

namespace Nonnegative.Problem

variable {problem : Problem ℚ} {multipliers : List ℚ} {total tolerance : ℚ} {raised lowered : Nat}

/-- `λ · offsets - ½ ‖max(0, -Aᵀ λ)‖²` -/
def worth (problem : Problem ℚ) (multipliers : List ℚ) : ℚ :=
  dot multipliers problem.offsets - halfNorm
    ((neg (combine problem.dimension multipliers problem.gradients)).map Scalar.positivePart)

/-- The direction in which a move carries the position. -/
def direction (problem : Problem ℚ) (raised lowered : Nat) : List ℚ :=
  sub (row problem.gradients raised) (row problem.gradients lowered)

/-- What a move gains in offsets. -/
def offsetGain (problem : Problem ℚ) (raised lowered : Nat) : ℚ :=
  entry problem.offsets raised - entry problem.offsets lowered

theorem WellFormed.length_row (wellFormed : problem.WellFormed)
    (inBounds : raised < problem.offsets.length) :
    (row problem.gradients raised).length = problem.dimension := by
  apply wellFormed.aligned
  simp [row, wellFormed.square, inBounds]

section Move

variable (wellFormed : problem.WellFormed) (raised_lt : raised < problem.offsets.length)
  (lowered_lt : lowered < problem.offsets.length)

include wellFormed raised_lt lowered_lt

@[simp] theorem length_direction :
    (problem.direction raised lowered).length = problem.dimension := by
  rw [direction, length_sub, wellFormed.length_row raised_lt, wellFormed.length_row lowered_lt,
    min_self]

/-- The worth of a move is the objective of its line search. -/
theorem worth_move (equal : multipliers.length = problem.offsets.length) (step : ℚ) :
    problem.worth (move multipliers raised lowered step) =
      dot multipliers problem.offsets + LineSearch.objective
        (neg (combine problem.dimension multipliers problem.gradients))
        (problem.direction raised lowered) (problem.offsetGain raised lowered) step := by
  rw [worth, neg_combine_move wellFormed (equal.trans wellFormed.square.symm)
    (equal ▸ raised_lt) (equal ▸ lowered_lt), dot_move (equal ▸ raised_lt) (equal ▸ lowered_lt),
    LineSearch.positivePart_sub_scale, halfNorm_eq, dot_map_map, LineSearch.objective_eq]
  simp only [direction, offsetGain, sq]
  ring

/-- The objective of a line search begins with the spread of the values as its slope. -/
theorem slopeAt_zero {position : List ℚ} (equal : position.length = problem.dimension) :
    LineSearch.slopeAt (List.zipWith .mk position (problem.direction raised lowered))
        (problem.offsetGain raised lowered) 0 =
      entry (problem.values position) raised - entry (problem.values position) lowered := by
  have directionLength := length_direction wellFormed raised_lt lowered_lt
  have sides : position.length = (problem.direction raised lowered).length :=
    equal.trans directionLength.symm
  have products : dot (problem.direction raised lowered) (position.map Scalar.positivePart) =
      dot (row problem.gradients raised) (position.map Scalar.positivePart) -
        dot (row problem.gradients lowered) (position.map Scalar.positivePart) :=
    dot_sub_left ((wellFormed.length_row raised_lt).trans (wellFormed.length_row lowered_lt).symm) _
  have square := wellFormed.square
  have aligned : problem.offsets.length =
      (apply problem.gradients (position.map Scalar.positivePart)).length := by
    rw [length_apply, square]
  rw [LineSearch.slopeAt, ← dot_map_map, LineSearch.map_rate_zipWith sides,
    LineSearch.map_remains_zero sides, products, values, entry_add aligned, entry_add aligned,
    entry_apply (square ▸ raised_lt), entry_apply (square ▸ lowered_lt), offsetGain]
  ring

end Move

/-! ### The ascent -/

theorem consistent_start (nonempty : problem.offsets ≠ []) (nonneg : 0 ≤ total)
    (initial : Option (List ℚ)) :
    problem.Consistent total
      (problem.stateAt (feasibleStart problem.offsets.length total initial)) :=
  ⟨feasibleStart_feasible (List.length_pos_iff.mpr nonempty) nonneg initial, rfl⟩

/-- From consistent states the ascent gains, and with a positive tolerance the least gain is
positive. -/
theorem ascends (wellFormed : problem.WellFormed) (positive : 0 < total) (nonneg : 0 ≤ tolerance) :
    ∃ least, (0 < tolerance → 0 < least) ∧
      Ascends (problem.advance? total tolerance) (·.multipliers) (problem.Consistent total)
        problem.offsets.length total problem.worth least := by
  obtain ⟨bound, bound_pos, below⟩ := exists_bound_pairs problem.offsets.length
    fun raised lowered => dot (problem.direction raised lowered) (problem.direction raised lowered)
  refine ⟨leastGain total tolerance bound, (leastGain_pos positive · bound_pos), ?_⟩
  constructor
  case feasible => exact fun state consistent => consistent.feasible
  case kept => exact fun state next => advance_consistent wellFormed positive nonneg
  case gains =>
    intro state next consistent advanced
    obtain ⟨worthwhile, rfl⟩ := advance?_eq_some advanced
    have feasible := consistent.feasible
    have lengths := length_values wellFormed state.position
    have chosen := choose_chosen feasible positive lengths
    have rising := Transfer.Chosen.spread_pos positive nonneg worthwhile
    have steep := Transfer.Chosen.lt_spread positive worthwhile
    generalize choose state.multipliers (problem.values state.position) = transfer at *
    have raised_lt := lengths ▸ chosen.raised_lt
    have lowered_lt := lengths ▸ chosen.lowered_lt
    have moved (step : ℚ) := worth_move wellFormed raised_lt lowered_lt feasible.length_eq step
    have unmoved := moved 0
    have positionLength := consistent.length_position wellFormed
    have begins := slopeAt_zero wellFormed raised_lt lowered_lt positionLength
    rw [← chosen.spread_eq] at begins
    obtain ⟨rises, gains⟩ := LineSearch.bestStep_gains
      (positionLength.trans (length_direction wellFormed raised_lt lowered_lt).symm) begins rising
      bound_pos (below transfer.raised raised_lt transfer.lowered lowered_lt) chosen.lowered_pos
    rw [move_zero] at unmoved
    rw [← consistent.position_eq] at unmoved moved
    apply chosen.gains feasible lengths rising
    · rw [moved, unmoved]
      exact add_lt_add_right rises _
    · intro partly
      have promised := (add_le_add_right (leastGain_le positive nonneg bound_pos steep) _).trans
        (gains partly)
      rw [moved, unmoved, add_assoc]
      exact add_le_add_right promised _

/-- Feasible multipliers are not worth more than this. -/
theorem exists_ceiling (problem : Problem ℚ) (total : ℚ) :
    ∃ ceiling, ∀ multipliers, Feasible problem.offsets.length total multipliers →
      problem.worth multipliers ≤ ceiling := by
  obtain ⟨most, -, offset_le⟩ := exists_bound problem.offsets
  refine ⟨total * most, ?_⟩
  intro multipliers feasible
  have fromOffsets := dot_le_sum_mul feasible.length_eq feasible.nonneg offset_le
  have length := halfNorm_nonneg
    ((neg (combine problem.dimension multipliers problem.gradients)).map Scalar.positivePart)
  rw [feasible.sum_eq] at fromOffsets
  rw [worth]
  linarith

end Nonnegative.Problem

end

end HingeRank.Dual
