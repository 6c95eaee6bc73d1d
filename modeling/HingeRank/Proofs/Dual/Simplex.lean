import Mathlib
import HingeRank.Proofs.Dual.Climb

/-!
# Quadratic ascent

The ascent on a quadratic objective is consistent, and each of its moves gains.
-/

namespace HingeRank.Dual.Simplex

/-!
## Quadratic ascent stays consistent

The ascent keeps its multipliers feasible, and the gradient that it updates column by
column is at every point the gradient of the objective there.
-/

section

open Linear

variable {gram : List (List ℚ)} {linear : List ℚ} {total tolerance : ℚ}

/-- The best step takes no more than what is available. -/
theorem bestStep_mem {spread available : ℚ} (rising : 0 ≤ spread) (nonneg : 0 ≤ available)
    (curvature : ℚ) :
    0 ≤ bestStep spread curvature available ∧ bestStep spread curvature available ≤ available := by
  unfold bestStep
  split
  next => exact ⟨nonneg, le_rfl⟩
  next bending =>
    rw [Scalar.lesser_eq_min]
    exact ⟨le_min (div_nonneg rising (not_le.mp bending).le) nonneg, min_le_right _ _⟩

/-- Feasible multipliers together with the gradient that belongs to them. -/
structure State.Consistent (gram : List (List ℚ)) (linear : List ℚ) (total : ℚ)
    (state : State ℚ) : Prop where
  feasible : Feasible linear.length total state.multipliers
  gradient_eq : state.gradient = sub linear (apply gram state.multipliers)

theorem State.Consistent.length_gradient {state : State ℚ}
    (consistent : state.Consistent gram linear total) (square : gram.length = linear.length) :
    state.gradient.length = linear.length := by
  simp [consistent.gradient_eq, square]

/-- The gradient after a move, from the two columns that the move touches. -/
theorem sub_apply_move {multipliers : List ℚ} {raised lowered : Nat}
    (raisedBounds : raised < multipliers.length) (loweredBounds : lowered < multipliers.length)
    (step : ℚ) :
    sub linear (apply gram (move multipliers raised lowered step)) =
      sub (sub linear (apply gram multipliers))
        (scale step (sub (column gram raised) (column gram lowered))) := by
  induction gram generalizing linear with
  | nil => simp [apply, column, sub, scale]
  | cons row gram ih =>
      cases linear with
      | nil => simp [sub]
      | cons value linear =>
          have head : dot row (move multipliers raised lowered step) =
              dot row multipliers + step * (entry row raised - entry row lowered) := by
            rw [dot_comm, dot_move raisedBounds loweredBounds, dot_comm]
          have tail := @ih linear
          simp only [apply, column, sub, scale, List.map_cons, List.zipWith_cons_cons,
            List.cons.injEq] at tail ⊢
          exact ⟨by rw [head]; ring, tail⟩

/-- What an advance does, and that it is not negligible. -/
theorem advance?_eq_some {state next : State ℚ}
    (advanced : advance? gram total tolerance state = some next) :
    let transfer := choose state.multipliers state.gradient
    let step := bestStep transfer.spread (curvature gram transfer.raised transfer.lowered)
      (entry state.multipliers transfer.lowered)
    transfer.isNegligible total tolerance = false ∧
      next = ⟨move state.multipliers transfer.raised transfer.lowered step,
        sub state.gradient (scale step
          (sub (column gram transfer.raised) (column gram transfer.lowered)))⟩ := by
  simp only [advance?] at advanced
  split at advanced
  next => cases advanced
  next worthwhile => exact ⟨by simpa using worthwhile, (Option.some.inj advanced).symm⟩

theorem advance?_eq_none {state : State ℚ} (stopped : advance? gram total tolerance state = none) :
    Settled total tolerance state.multipliers state.gradient := by
  simp only [advance?] at stopped
  split at stopped
  next negligible => exact negligible
  next => cases stopped

variable (square : gram.length = linear.length) (positive : 0 < total) (nonneg : 0 ≤ tolerance)

include square positive nonneg

theorem advance_consistent {state next : State ℚ} (consistent : state.Consistent gram linear total)
    (advanced : advance? gram total tolerance state = some next) :
    next.Consistent gram linear total := by
  obtain ⟨worthwhile, rfl⟩ := advance?_eq_some advanced
  have feasible := consistent.feasible
  have lengths := consistent.length_gradient square
  have chosen := choose_chosen feasible positive lengths
  have rising := Transfer.Chosen.spread_pos positive nonneg worthwhile
  generalize choose state.multipliers state.gradient = transfer at *
  have available := bestStep_mem rising.le chosen.lowered_pos.le
    (curvature gram transfer.raised transfer.lowered)
  constructor
  · exact chosen.feasible_move feasible lengths rising available
  · have equal := lengths.trans feasible.length_eq.symm
    dsimp only
    rw [sub_apply_move (equal ▸ chosen.raised_lt) (equal ▸ chosen.lowered_lt),
      ← consistent.gradient_eq]

theorem restartable : Restartable (advance? gram total tolerance) (State.at gram linear)
    State.multipliers (State.Consistent gram linear total) linear.length total where
  starts := fun _ feasible => ⟨feasible, rfl⟩
  kept := fun _ _ => advance_consistent square positive nonneg
  feasible := fun _ consistent => consistent.feasible
  fresh := by
    intro state consistent
    rw [State.at, ← consistent.gradient_eq]

/-- The solution is feasible.  If the cap was not used up, it is settled with respect to
the gradient of the objective. -/
theorem solve_feasible (nonempty : 0 < linear.length) (initial : Option (List ℚ)) (cap : Nat) :
    let solution := solve gram linear total initial tolerance cap
    Feasible linear.length total solution.multipliers ∧
      (solution.iterations < cap → Settled total tolerance solution.multipliers
        (sub linear (apply gram solution.multipliers))) := by
  obtain ⟨feasible, stops⟩ := (restartable square positive nonneg).climbFrom_ends nonempty positive
    initial cap
  refine ⟨feasible, ?_⟩
  intro early
  have settled := advance?_eq_none (stops early)
  exact settled

end

/-!
## Gains of quadratic ascent

Along a move the worth of the multipliers is a parabola, which begins with the spread of the
two gradients as its slope.  The best step never passes the vertex, so that it gains at least
half of what the slope promises.  A step that ends at the vertex gains an amount that depends
on the spread and the curvature alone, and both are bounded: the spread from below by the
tolerance, the curvature from above by the entries of the matrix.
-/

section

open Linear

variable {gram : List (List ℚ)} {linear multipliers : List ℚ} {total tolerance : ℚ}
  {raised lowered count : Nat}

/-- `λ · linear - ½ λ · gram λ` -/
def worth (gram : List (List ℚ)) (linear multipliers : List ℚ) : ℚ :=
  dot multipliers linear - 1 / 2 * dot multipliers (apply gram multipliers)

/-- A square matrix that equals its transpose. -/
structure Symmetric (gram : List (List ℚ)) (count : Nat) : Prop where
  height : gram.length = count
  width : ∀ line ∈ gram, line.length = count
  entry_comm : ∀ i < count, ∀ j < count, entry (row gram i) j = entry (row gram j) i

instance (gram : List (List ℚ)) (count : Nat) : Decidable (Symmetric gram count) :=
  decidable_of_iff (gram.length = count ∧ (∀ line ∈ gram, line.length = count) ∧
      ∀ i < count, ∀ j < count, entry (row gram i) j = entry (row gram j) i)
    ⟨fun ⟨height, width, entry_comm⟩ => ⟨height, width, entry_comm⟩,
      fun ⟨height, width, entry_comm⟩ => ⟨height, width, entry_comm⟩⟩

theorem Symmetric.column_eq_row (symmetric : Symmetric gram count) (inBounds : raised < count) :
    column gram raised = row gram raised := by
  have height := symmetric.height
  have rowMem : row gram raised ∈ gram := by simp [row, height, inBounds]
  apply List.ext_getElem
  · rw [column, List.length_map, height, symmetric.width _ rowMem]
  · intro position leftBounds rightBounds
    rw [column, List.length_map] at leftBounds
    have comm := symmetric.entry_comm position (height ▸ leftBounds) raised inBounds
    rw [entry_eq_getElem rightBounds] at comm
    rw [← comm]
    simp [column, row, leftBounds]

/-! ### The parabola -/

section Parabola

variable (symmetric : Symmetric gram linear.length) (equal : multipliers.length = linear.length)
  (raised_lt : raised < linear.length) (lowered_lt : lowered < linear.length) (step : ℚ)

include equal raised_lt lowered_lt

/-- A move adds to every product with a row what the step finds in it. -/
theorem entry_apply_move {position : Nat} (inBounds : position < gram.length) :
    entry (apply gram (move multipliers raised lowered step)) position =
      entry (apply gram multipliers) position +
        step * (entry (row gram position) raised - entry (row gram position) lowered) := by
  rw [← equal] at raised_lt lowered_lt
  rw [entry_apply inBounds, entry_apply inBounds, dot_comm, dot_move raised_lt lowered_lt,
    dot_comm]

include symmetric

/-- The products that the move changes, weighed by the multipliers before it. -/
theorem dot_apply_move :
    dot multipliers (apply gram (move multipliers raised lowered step)) =
      dot multipliers (apply gram multipliers) + step *
        (entry (apply gram multipliers) raised - entry (apply gram multipliers) lowered) := by
  have height := symmetric.height
  have columns (position : Nat) (inBounds : position < linear.length) :
      (column gram position).length = linear.length ∧
        dot multipliers (column gram position) = entry (apply gram multipliers) position := by
    refine ⟨by rw [column, List.length_map, height], ?_⟩
    rw [symmetric.column_eq_row inBounds, entry_apply (height ▸ inBounds), dot_comm]
  obtain ⟨raisedLength, raisedDot⟩ := columns raised raised_lt
  obtain ⟨loweredLength, loweredDot⟩ := columns lowered lowered_lt
  have updated := congrArg (dot multipliers) (@sub_apply_move gram linear multipliers raised
    lowered (equal ▸ raised_lt) (equal ▸ lowered_lt) step)
  rw [dot_sub_right (by simp [height]), dot_sub_right (by simp [height, raisedLength,
    loweredLength]), dot_sub_right (by simp [height]), dot_comm _ (scale _ _), dot_scale_left,
    dot_comm _ multipliers, dot_sub_right (raisedLength.trans loweredLength.symm), raisedDot,
    loweredDot] at updated
  linarith

/-- A move changes the worth by a parabola in its step. -/
theorem worth_move :
    worth gram linear (move multipliers raised lowered step) = worth gram linear multipliers +
      (step * (entry (sub linear (apply gram multipliers)) raised -
          entry (sub linear (apply gram multipliers)) lowered) -
        1 / 2 * (step * (step * curvature gram raised lowered))) := by
  have height := symmetric.height
  have aligned : linear.length = (apply gram multipliers).length := by rw [length_apply, height]
  have fromLinear := dot_move (equal ▸ raised_lt) (equal ▸ lowered_lt) step linear
  have fromProducts := dot_move (equal ▸ raised_lt) (equal ▸ lowered_lt) step
    (apply gram (move multipliers raised lowered step))
  rw [dot_apply_move symmetric equal raised_lt lowered_lt,
    entry_apply_move equal raised_lt lowered_lt step (height ▸ raised_lt),
    entry_apply_move equal raised_lt lowered_lt step (height ▸ lowered_lt)] at fromProducts
  have mixed := symmetric.entry_comm raised raised_lt lowered lowered_lt
  simp only [worth, curvature, entry_sub aligned, fromLinear, fromProducts, mixed]
  ring

end Parabola

/-! ### The step -/

section Step

variable {spread available : ℚ}

/-- The best step never passes the vertex. -/
theorem bestStep_mul_le (rising : 0 < spread) (nonneg : 0 ≤ available) (curvature : ℚ) :
    bestStep spread curvature available * curvature ≤ spread := by
  unfold bestStep
  split
  next straight => exact (mul_nonpos_of_nonneg_of_nonpos nonneg straight).trans rising.le
  next bending =>
    rw [Scalar.lesser_eq_min, ← le_div_iff₀ (not_le.mp bending)]
    exact min_le_left _ _

/-- A step that leaves something behind ends at the vertex. -/
theorem bestStep_of_ne {curvature : ℚ} (partly : bestStep spread curvature available ≠ available) :
    0 < curvature ∧ bestStep spread curvature available = spread / curvature := by
  unfold bestStep at partly ⊢
  split
  next straight => exact absurd (if_pos straight) partly
  next bending =>
    rw [if_neg bending, Scalar.lesser_eq_min] at partly
    rw [Scalar.lesser_eq_min]
    refine ⟨not_le.mp bending, ?_⟩
    exact (min_choice _ _).resolve_right partly

theorem bestStep_pos (rising : 0 < spread) (some : 0 < available) (curvature : ℚ) :
    0 < bestStep spread curvature available := by
  unfold bestStep
  split
  next => exact some
  next bending =>
    rw [Scalar.lesser_eq_min]
    exact lt_min (div_pos rising (not_le.mp bending)) some

/-- What the best step gains on a parabola: something in any case, and a fixed amount if it
leaves something behind. -/
theorem bestStep_gains (rising : 0 < spread) (some : 0 < available) {bend bound : ℚ}
    (bends : bend ≤ bound) :
    let step := bestStep spread bend available
    0 < step * spread - 1 / 2 * (step * (step * bend)) ∧
      (step ≠ available →
        spread ^ 2 / (2 * bound) ≤ step * spread - 1 / 2 * (step * (step * bend))) := by
  intro step
  have step_pos : 0 < step := bestStep_pos rising some bend
  constructor
  · have half := mul_le_mul_of_nonneg_left (bestStep_mul_le rising some.le bend) step_pos.le
    have promised := mul_pos step_pos rising
    change step * (step * bend) ≤ step * spread at half
    linarith
  · intro partly
    obtain ⟨bending, vertex⟩ := bestStep_of_ne partly
    change step = spread / bend at vertex
    rw [vertex]
    calc
      spread ^ 2 / (2 * bound) ≤ spread ^ 2 / (2 * bend) := by
        gcongr
      _ = _ := by
        field_simp
        ring

end Step

/-! ### The ascent -/

theorem consistent_start (nonempty : linear ≠ []) (nonneg : 0 ≤ total)
    (initial : Option (List ℚ)) :
    (State.at gram linear (feasibleStart linear.length total initial)).Consistent gram linear
      total :=
  ⟨feasibleStart_feasible (List.length_pos_iff.mpr nonempty) nonneg initial, rfl⟩

/-- From consistent states quadratic ascent gains, and with a positive tolerance the least gain
is positive. -/
theorem ascends (symmetric : Symmetric gram linear.length) (positive : 0 < total)
    (nonneg : 0 ≤ tolerance) :
    ∃ least, (0 < tolerance → 0 < least) ∧
      Ascends (advance? gram total tolerance) (·.multipliers) (State.Consistent gram linear total)
        linear.length total (worth gram linear) least := by
  obtain ⟨bound, bound_pos, below⟩ := exists_bound_pairs linear.length (curvature gram)
  refine ⟨leastGain total tolerance bound, (leastGain_pos positive · bound_pos), ?_⟩
  constructor
  case feasible => exact fun state consistent => consistent.feasible
  case kept => exact fun state next => advance_consistent symmetric.height positive nonneg
  case gains =>
    intro state next consistent advanced
    obtain ⟨worthwhile, rfl⟩ := advance?_eq_some advanced
    have feasible := consistent.feasible
    have lengths := consistent.length_gradient symmetric.height
    have chosen := choose_chosen feasible positive lengths
    have rising := Transfer.Chosen.spread_pos positive nonneg worthwhile
    have steep := Transfer.Chosen.lt_spread positive worthwhile
    generalize choose state.multipliers state.gradient = transfer at *
    have raised_lt := lengths ▸ chosen.raised_lt
    have lowered_lt := lengths ▸ chosen.lowered_lt
    have parabola (step : ℚ) :=
      worth_move symmetric feasible.length_eq raised_lt lowered_lt step
    rw [← consistent.gradient_eq, ← chosen.spread_eq] at parabola
    obtain ⟨rises, gains⟩ := bestStep_gains rising chosen.lowered_pos
      (below transfer.raised raised_lt transfer.lowered lowered_lt)
    apply chosen.gains feasible lengths rising
    · rw [parabola]
      exact lt_add_of_pos_right _ rises
    · intro partly
      rw [parabola]
      exact add_le_add_right ((leastGain_le positive nonneg bound_pos steep).trans (gains partly)) _

/-- Feasible multipliers are not worth more than this. -/
theorem exists_ceiling (symmetric : Symmetric gram linear.length) (total : ℚ) :
    ∃ ceiling, ∀ multipliers, Feasible linear.length total multipliers →
      worth gram linear multipliers ≤ ceiling := by
  obtain ⟨most, -, linear_le⟩ := exists_bound linear
  obtain ⟨bound, -, entry_le⟩ := exists_bound (gram.flatten.map (- ·))
  refine ⟨total * most + 1 / 2 * (total * (total * bound)), ?_⟩
  intro multipliers feasible
  have fromLinear := dot_le_sum_mul feasible.length_eq feasible.nonneg linear_le
  have products_le : ∀ product ∈ neg (apply gram multipliers), product ≤ total * bound := by
    intro product member
    simp only [neg, apply, List.map_map, List.mem_map, Function.comp_apply] at member
    obtain ⟨line, lineMem, rfl⟩ := member
    have lineLength := symmetric.width line lineMem
    have entries_le : ∀ value ∈ neg line, value ≤ bound := by
      intro value valueMem
      obtain ⟨source, sourceMem, rfl⟩ := List.mem_map.mp valueMem
      exact entry_le _ (List.mem_map_of_mem (List.mem_flatten_of_mem lineMem sourceMem))
    rw [← dot_neg_left, dot_comm, ← feasible.sum_eq]
    exact dot_le_sum_mul (by rw [feasible.length_eq, length_neg, lineLength]) feasible.nonneg
      entries_le
  have fromProducts := dot_le_sum_mul
    (by rw [feasible.length_eq, length_neg, length_apply, symmetric.height]) feasible.nonneg
    products_le
  rw [dot_neg_right, feasible.sum_eq] at fromProducts
  rw [feasible.sum_eq] at fromLinear
  rw [worth]
  linarith

end

end HingeRank.Dual.Simplex
