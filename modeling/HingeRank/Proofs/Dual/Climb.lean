import Mathlib
import HingeRank.Dual
import HingeRank.Proofs.Exact.Selection

/-!
# Feasible multipliers and climbs

Moves keep multipliers feasible, and climbs consist of moves.
-/

namespace HingeRank.Dual

/-!
## Feasible multipliers

Multipliers are feasible when there is one for each plane, none is negative, and they
add up to the total exactly.  The starting point is feasible, a move of an available
amount between two coordinates stays feasible, and the coordinates that an ascent
chooses differ as long as the move between them is not negligible.
-/

section

open Linear

variable {count raised lowered : Nat} {total tolerance step : ℚ}
variable {multipliers gradient weights : List ℚ}

/-- Nonnegative multipliers, one for each plane, with a fixed total. -/
structure Feasible (count : Nat) (total : ℚ) (multipliers : List ℚ) : Prop where
  length_eq : multipliers.length = count
  nonneg : ∀ multiplier ∈ multipliers, 0 ≤ multiplier
  sum_eq : multipliers.sum = total

namespace Feasible

theorem entry_nonneg (feasible : Feasible count total multipliers) (position : Nat) :
    0 ≤ entry multipliers position := by
  by_cases inBounds : position < multipliers.length
  · rw [entry_eq_getElem inBounds]
    exact feasible.nonneg _ (List.getElem_mem inBounds)
  · simp [entry, inBounds]

/-- A positive total leaves some multiplier positive. -/
theorem exists_pos (feasible : Feasible count total multipliers) (positive : 0 < total) :
    ∃ multiplier ∈ multipliers, 0 < multiplier := by
  by_contra none
  push Not at none
  have atMost := List.sum_le_card_nsmul multipliers 0 none
  rw [feasible.sum_eq, smul_zero] at atMost
  exact absurd positive atMost.not_gt

theorem count_pos (feasible : Feasible count total multipliers) (positive : 0 < total) :
    0 < count := by
  obtain ⟨multiplier, member, -⟩ := feasible.exists_pos positive
  rw [← feasible.length_eq]
  exact List.length_pos_of_mem member

end Feasible

/-! ### The starting point -/

@[simp] theorem length_feasibleStart {K : Type} [Scalar K] (count : Nat) (total : K)
    (initial : Option (List K)) : (feasibleStart count total initial).length = count := by
  have uniform : (uniformStart count total).length = count := List.length_replicate
  cases initial with
  | none => exact uniform
  | some values =>
      simp only [feasibleStart]
      split
      next equal =>
        split
        next => simpa using equal
        next => exact uniform
      next => exact uniform

theorem uniformStart_feasible (nonempty : 0 < count) (nonneg : 0 ≤ total) :
    Feasible count total (uniformStart count total) where
  length_eq := List.length_replicate
  nonneg := by
    intro multiplier member
    rw [List.eq_of_mem_replicate member]
    positivity
  sum_eq := by
    have : (count : ℚ) ≠ 0 := by positivity
    simp only [uniformStart, List.sum_replicate, nsmul_eq_mul]
    field_simp

theorem feasibleStart_feasible (nonempty : 0 < count) (nonneg : 0 ≤ total)
    (initial : Option (List ℚ)) : Feasible count total (feasibleStart count total initial) := by
  have uniform := uniformStart_feasible nonempty nonneg
  cases initial with
  | none => exact uniform
  | some values =>
      simp only [feasibleStart, Linear.sum_eq]
      split
      next equal =>
        split
        next massPositive =>
          refine ⟨by simpa using equal, ?_, ?_⟩
          · intro multiplier member
            obtain ⟨clamped, clampedMem, rfl⟩ := List.mem_map.mp member
            obtain ⟨value, -, rfl⟩ := List.mem_map.mp clampedMem
            rw [Scalar.positivePart_eq_max]
            exact mul_nonneg (le_max_right _ _) (div_nonneg nonneg massPositive.le)
          · rw [List.sum_map_mul_right, List.map_id']
            exact mul_div_cancel₀ total massPositive.ne'
        next => exact uniform
      next => exact uniform

/-- Feasible multipliers are a start that is taken as it is. -/
theorem Feasible.feasibleStart_eq (feasible : Feasible count total multipliers)
    (positive : 0 < total) : feasibleStart count total (some multipliers) = multipliers := by
  have clamped := map_positivePart feasible.nonneg
  simp only [feasibleStart, if_pos feasible.length_eq, clamped, Linear.sum_eq, feasible.sum_eq,
    if_pos positive, div_self positive.ne', mul_one, List.map_id']

/-! ### Moves -/

/-- Without rounding, the coordinate that gives up all it has needs no special case. -/
theorem move_eq (multipliers : List ℚ) (raised lowered : Nat) (step : ℚ) :
    move multipliers raised lowered step =
      (multipliers.modify raised (· + step)).modify lowered (· + -step) := by
  unfold move
  congr 1
  funext held
  split
  next all =>
    rw [Scalar.same_eq_true.mp all]
    ring
  next => ring

@[simp] theorem length_move {K : Type} [Scalar K] (multipliers : List K) (raised lowered : Nat)
    (step : K) :
    (move multipliers raised lowered step).length = multipliers.length := by
  simp [move]

@[simp] theorem move_zero (multipliers : List ℚ) (raised lowered : Nat) :
    move multipliers raised lowered 0 = multipliers := by
  have unchanged (position : Nat) (values : List ℚ) : values.modify position (· + 0) = values := by
    simp only [add_zero]
    exact List.modify_id position values
  rw [move_eq, neg_zero, unchanged, unchanged]

/-- A move changes an inner product by the step times the difference of the two weights. -/
theorem dot_move (raisedBounds : raised < multipliers.length)
    (loweredBounds : lowered < multipliers.length) (step : ℚ) (weights : List ℚ) :
    dot (move multipliers raised lowered step) weights =
      dot multipliers weights + step * (entry weights raised - entry weights lowered) := by
  rw [move_eq, dot_modify_add (by simpa using loweredBounds), dot_modify_add raisedBounds]
  ring

/-- A move between two coordinates of at most what the lowered one has is feasible. -/
theorem move_feasible (feasible : Feasible count total multipliers)
    (raisedBounds : raised < count) (loweredBounds : lowered < count)
    (distinct : raised ≠ lowered) (nonneg : 0 ≤ step)
    (available : step ≤ entry multipliers lowered) :
    Feasible count total (move multipliers raised lowered step) := by
  rw [← feasible.length_eq] at raisedBounds loweredBounds
  refine ⟨by rw [length_move, feasible.length_eq], ?_, ?_⟩
  · intro multiplier member
    rw [move_eq] at member
    obtain ⟨position, inBounds, rfl⟩ := List.mem_iff_getElem.mp member
    simp only [List.length_modify] at inBounds
    have held := feasible.entry_nonneg position
    rw [entry_eq_getElem inBounds] at held
    rw [entry_eq_getElem loweredBounds] at available
    simp only [List.getElem_modify]
    split
    next here =>
      subst here
      rw [if_neg distinct]
      linarith
    next =>
      split
      next => linarith
      next => exact held
  · have sum_eq := dot_move raisedBounds loweredBounds step (List.replicate multipliers.length 1)
    rw [← length_move multipliers raised lowered step, dot_replicate_one, length_move,
      dot_replicate_one, feasible.sum_eq] at sum_eq
    rw [sum_eq]
    simp [entry, raisedBounds, loweredBounds]

/-! ### Choosing coordinates -/

/-- What the choice of coordinates guarantees for feasible multipliers. -/
structure Transfer.Chosen (multipliers gradient : List ℚ) (transfer : Transfer ℚ) : Prop where
  raised_lt : transfer.raised < gradient.length
  lowered_lt : transfer.lowered < gradient.length
  lowered_pos : 0 < entry multipliers transfer.lowered
  spread_eq : transfer.spread = entry gradient transfer.raised - entry gradient transfer.lowered
  /-- No gradient is larger than the raised one. -/
  largest : ∀ slope ∈ gradient, slope ≤ entry gradient transfer.raised
  /-- No positive coordinate has a smaller gradient than the lowered one. -/
  smallest : ∀ position < multipliers.length, 0 < entry multipliers position →
    entry gradient transfer.lowered ≤ entry gradient position

theorem choose_chosen (feasible : Feasible count total multipliers) (positive : 0 < total)
    (equal : gradient.length = count) :
    (choose multipliers gradient).Chosen multipliers gradient := by
  have aligned : multipliers.length = gradient.length := feasible.length_eq.trans equal.symm
  have nonempty : gradient ≠ [] := by
    rw [← List.length_pos_iff, equal]
    exact feasible.count_pos positive
  have someEnabled : ∃ mark ∈ multipliers, decide (0 < mark) = true := by
    obtain ⟨multiplier, member, multiplierPos⟩ := feasible.exists_pos positive
    exact ⟨multiplier, member, decide_eq_true multiplierPos⟩
  obtain ⟨raisedBounds, -, largest⟩ := Selection.largest_greatest nonempty
  obtain ⟨loweredBounds, loweredPos, smallest⟩ :=
    Selection.smallestEnabled_least aligned someEnabled
  exact ⟨raisedBounds, loweredBounds, of_decide_eq_true loweredPos, rfl, largest,
    fun position inBounds held => smallest position inBounds (decide_eq_true held)⟩

namespace Transfer.Chosen

variable {transfer : Transfer ℚ}

/-- A move that is not negligible goes up. -/
theorem spread_pos (positive : 0 < total) (nonneg : 0 ≤ tolerance)
    (worthwhile : transfer.isNegligible total tolerance = false) : 0 < transfer.spread := by
  simp only [isNegligible, decide_eq_false_iff_not, not_le] at worthwhile
  exact pos_of_mul_pos_left (nonneg.trans_lt worthwhile) positive.le

theorem lt_spread (positive : 0 < total)
    (worthwhile : transfer.isNegligible total tolerance = false) :
    tolerance / total < transfer.spread := by
  rw [div_lt_iff₀ positive]
  exact not_le.mp (of_decide_eq_false worthwhile)

theorem raised_ne_lowered (chosen : transfer.Chosen multipliers gradient)
    (rising : 0 < transfer.spread) : transfer.raised ≠ transfer.lowered := by
  intro same
  rw [chosen.spread_eq, same, sub_self] at rising
  exact lt_irrefl _ rising

/-- A step between the chosen coordinates, of no more than is there, is feasible. -/
theorem feasible_move (chosen : transfer.Chosen multipliers gradient)
    (feasible : Feasible count total multipliers) (equal : gradient.length = count)
    (rising : 0 < transfer.spread)
    (within : 0 ≤ step ∧ step ≤ entry multipliers transfer.lowered) :
    Feasible count total (move multipliers transfer.raised transfer.lowered step) := by
  rcases within with ⟨nonneg, available⟩
  apply move_feasible feasible
  · exact equal ▸ chosen.raised_lt
  · exact equal ▸ chosen.lowered_lt
  · exact chosen.raised_ne_lowered rising
  · exact nonneg
  · exact available

/-- The multipliers weigh the gradients at least as heavily as if all mass stood at the
lowered coordinate. -/
theorem total_mul_lowered_le (chosen : transfer.Chosen multipliers gradient)
    (feasible : Feasible count total multipliers) (equal : gradient.length = count) :
    total * entry gradient transfer.lowered ≤ dot multipliers gradient := by
  rw [← feasible.sum_eq]
  exact sum_mul_le_dot (feasible.length_eq.trans equal.symm) feasible.nonneg chosen.smallest

end Transfer.Chosen

/-- Multipliers between which every move is negligible. -/
def Settled (total tolerance : ℚ) (multipliers gradient : List ℚ) : Prop :=
  (choose multipliers gradient).isNegligible total tolerance = true

/-- At settled multipliers the total mass could gain at most the tolerance by moving from any
coordinate that has some of it to any other one. -/
theorem Settled.total_mul_spread_le (settled : Settled total tolerance multipliers gradient)
    (feasible : Feasible count total multipliers) (positive : 0 < total)
    (equal : gradient.length = count) {slope : ℚ} (member : slope ∈ gradient) {position : Nat}
    (held : 0 < entry multipliers position) :
    total * (slope - entry gradient position) ≤ tolerance := by
  have chosen := choose_chosen feasible positive equal
  have negligible : (choose multipliers gradient).spread * total ≤ tolerance :=
    of_decide_eq_true settled
  have inBounds : position < multipliers.length := by
    by_contra outside
    rw [entry, List.getD_eq_default _ _ (Nat.le_of_not_lt outside)] at held
    exact lt_irrefl _ held
  have spread : slope - entry gradient position ≤ (choose multipliers gradient).spread := by
    rw [chosen.spread_eq]
    exact sub_le_sub (chosen.largest slope member) (chosen.smallest position inBounds held)
  calc total * (slope - entry gradient position)
      ≤ total * (choose multipliers gradient).spread := mul_le_mul_of_nonneg_left spread positive.le
    _ = (choose multipliers gradient).spread * total := mul_comm _ _
    _ ≤ tolerance := negligible

/-- At settled multipliers the total mass could gain at most the tolerance by moving to the
coordinate with the largest gradient. -/
theorem Settled.total_mul_le (settled : Settled total tolerance multipliers gradient)
    (feasible : Feasible count total multipliers) (positive : 0 < total)
    (equal : gradient.length = count) :
    total * entry gradient (Selection.largest gradient) ≤
      dot multipliers gradient + tolerance := by
  have chosen := choose_chosen feasible positive equal
  have raised_lt : Selection.largest gradient < gradient.length := chosen.raised_lt
  have raised_mem : entry gradient (Selection.largest gradient) ∈ gradient := by
    rw [entry_eq_getElem raised_lt]
    exact List.getElem_mem raised_lt
  have lower := chosen.total_mul_lowered_le feasible equal
  have within := settled.total_mul_spread_le feasible positive equal raised_mem chosen.lowered_pos
  rw [mul_sub] at within
  linarith

/-! ### The loop -/

section Climb

variable {σ : Type} {advance? : σ → Option σ}

/-- What every advance keeps holds at the end of a climb. -/
theorem climb_invariant {Invariant : σ → Prop}
    (kept : ∀ state next, Invariant state → advance? state = some next → Invariant next)
    (cap taken : Nat) (state : σ) (holds : Invariant state) :
    Invariant (climb advance? cap taken state).1 := by
  induction cap generalizing taken state with
  | zero => exact holds
  | succ cap ih =>
      unfold climb
      cases advanced : advance? state with
      | none => exact holds
      | some next => exact ih (taken + 1) next (kept state next holds advanced)

/-- A climb that does not use up its cap ends where no advance is left. -/
theorem climb_settled (cap taken : Nat) (state : σ)
    (early : (climb advance? cap taken state).2 < taken + cap) :
    advance? (climb advance? cap taken state).1 = none := by
  induction cap generalizing taken state with
  | zero => exact absurd early (lt_irrefl _)
  | succ cap ih =>
      unfold climb at early ⊢
      cases advanced : advance? state with
      | none => exact advanced
      | some next =>
          simp only [advanced] at early
          exact ih (taken + 1) next (by omega)

/-- An ascent between consistent states, which have feasible multipliers.  These determine all that
is in a state, so that the ascent can be started anew from any of them. -/
structure Restartable (advance? : σ → Option σ) (stateAt : List ℚ → σ) (multipliersOf : σ → List ℚ)
    (Consistent : σ → Prop) (count : Nat) (total : ℚ) : Prop where
  starts : ∀ multipliers, Feasible count total multipliers → Consistent (stateAt multipliers)
  kept : ∀ state next, Consistent state → advance? state = some next → Consistent next
  feasible : ∀ state, Consistent state → Feasible count total (multipliersOf state)
  fresh : ∀ state, Consistent state → stateAt (multipliersOf state) = state

/-- A climb from the state at some start. -/
def climbFrom (advance? : σ → Option σ) (stateAt : List ℚ → σ) (multipliersOf : σ → List ℚ)
    (start : List ℚ) (cap : Nat) : Solution ℚ :=
  let (state, iterations) := climb advance? cap 0 (stateAt start)
  ⟨multipliersOf state, iterations⟩

namespace Restartable

variable {stateAt : List ℚ → σ} {multipliersOf : σ → List ℚ} {Consistent : σ → Prop}

theorem consistent (restartable : Restartable advance? stateAt multipliersOf Consistent count total)
    (nonempty : 0 < count) (positive : 0 < total) (initial : Option (List ℚ)) (cap : Nat) :
    Consistent (climb advance? cap 0 (stateAt (feasibleStart count total initial))).1 := by
  apply climb_invariant restartable.kept
  exact restartable.starts _ (feasibleStart_feasible nonempty positive.le initial)

/-- The solution is feasible.  If the cap was not used up, no advance is left from there. -/
theorem climbFrom_ends
    (restartable : Restartable advance? stateAt multipliersOf Consistent count total)
    (nonempty : 0 < count) (positive : 0 < total) (initial : Option (List ℚ)) (cap : Nat) :
    let solution := climbFrom advance? stateAt multipliersOf (feasibleStart count total initial) cap
    Feasible count total solution.multipliers ∧
      (solution.iterations < cap → advance? (stateAt solution.multipliers) = none) := by
  have reached := restartable.consistent nonempty positive initial cap
  refine ⟨restartable.feasible _ reached, ?_⟩
  intro early
  have stopped := climb_settled cap 0 _ (early.trans_eq (Nat.zero_add cap).symm)
  exact (congrArg advance? (restartable.fresh _ reached)).trans stopped

end Restartable

end Climb

end

/-!
## Climbs that gain

Both solvers raise the worth of their multipliers with every move.  A move that leaves
something at the lowered coordinate raises it by a fixed amount, however far the climb has
come.  A move that takes all there is may raise it by very little.

A climb passes its start, one more state for every move, and ends at the last of them.  What
holds of single advances therefore holds along the whole climb.
-/

section

open Linear

/-- A move between two coordinates that raises the worth of the multipliers: by `least` at
least, unless the lowered coordinate gives up all it has. -/
inductive Gains (worth : List ℚ → ℚ) (least : ℚ) (before : List ℚ) : List ℚ → Prop
  | move (raised lowered : Nat) (step : ℚ)
      (raised_lt : raised < before.length)
      (lowered_lt : lowered < before.length)
      (distinct : raised ≠ lowered)
      (lowered_pos : 0 < entry before lowered)
      (rises : worth before < worth (move before raised lowered step))
      (gains : step ≠ entry before lowered →
        worth before + least ≤ worth (move before raised lowered step)) :
      Gains worth least before (move before raised lowered step)

/-- Whether or not something is left behind, the worth rises. -/
theorem Gains.lt {worth : List ℚ → ℚ} {least : ℚ} {before after : List ℚ}
    (gains : Gains worth least before after) : worth before < worth after := by
  cases gains with
  | move raised lowered step raised_lt lowered_lt distinct lowered_pos rises _ => exact rises

/-- A move between the chosen coordinates that gains. -/
theorem Transfer.Chosen.gains {worth : List ℚ → ℚ} {least step total : ℚ}
    {multipliers gradient : List ℚ} {count : Nat} {transfer : Transfer ℚ}
    (chosen : transfer.Chosen multipliers gradient) (feasible : Feasible count total multipliers)
    (equal : gradient.length = count) (rising : 0 < transfer.spread)
    (rises : worth multipliers <
      worth (move multipliers transfer.raised transfer.lowered step))
    (gains : step ≠ entry multipliers transfer.lowered → worth multipliers + least ≤
      worth (move multipliers transfer.raised transfer.lowered step)) :
    Gains worth least multipliers (move multipliers transfer.raised transfer.lowered step) := by
  have aligned : gradient.length = multipliers.length := equal.trans feasible.length_eq.symm
  exact .move _ _ _ (aligned ▸ chosen.raised_lt) (aligned ▸ chosen.lowered_lt)
    (chosen.raised_ne_lowered rising) chosen.lowered_pos rises gains

/-- What is gained at least by the best step on a parabola that begins with a slope worth a
move and bends no more than the bound. -/
def leastGain (total tolerance bound : ℚ) : ℚ := (tolerance / total) ^ 2 / (2 * bound)

theorem leastGain_pos {total tolerance bound : ℚ} (positive : 0 < total)
    (tolerance_pos : 0 < tolerance) (bound_pos : 0 < bound) :
    0 < leastGain total tolerance bound := by
  unfold leastGain
  positivity

theorem leastGain_le {total tolerance bound spread : ℚ} (positive : 0 < total)
    (nonneg : 0 ≤ tolerance) (bound_pos : 0 < bound) (steep : tolerance / total < spread) :
    leastGain total tolerance bound ≤ spread ^ 2 / (2 * bound) := by
  have least_nonneg : 0 ≤ tolerance / total := div_nonneg nonneg positive.le
  unfold leastGain
  gcongr

/-! ### States on the way -/

section Passed

variable {σ : Type} {advance? : σ → Option σ}

/-- The states that a climb passes, its start and its end included. -/
def passed (advance? : σ → Option σ) : (cap : Nat) → σ → List σ
  | 0, state => [state]
  | cap + 1, state =>
      match advance? state with
      | none => [state]
      | some next => state :: passed advance? cap next

@[simp] theorem head?_passed (cap : Nat) (state : σ) :
    (passed advance? cap state).head? = some state := by
  cases cap with
  | zero => rfl
  | succ cap =>
      unfold passed
      cases advance? state <;> rfl

/-- A climb ends at the last state that it passes, and counts all but the first. -/
theorem climb_eq_passed (cap taken : Nat) (state : σ) :
    (passed advance? cap state).getLast? = some (climb advance? cap taken state).1 ∧
      taken + (passed advance? cap state).length = (climb advance? cap taken state).2 + 1 := by
  induction cap generalizing taken state with
  | zero => exact ⟨rfl, rfl⟩
  | succ cap ih =>
      unfold passed climb
      cases advance? state with
      | none => exact ⟨rfl, rfl⟩
      | some next =>
          obtain ⟨last, counted⟩ := ih (taken + 1) next
          dsimp only
          rw [List.getLast?_cons, last, Option.getD_some, List.length_cons]
          exact ⟨rfl, by omega⟩

/-- What every advance keeps holds of all states on the way, and every advance is made from
where it holds. -/
theorem passed_invariant {Invariant : σ → Prop}
    (kept : ∀ state next, Invariant state → advance? state = some next → Invariant next)
    (cap : Nat) (state : σ) (holds : Invariant state) :
    (∀ visited ∈ passed advance? cap state, Invariant visited) ∧
      (passed advance? cap state).IsChain fun before after =>
        Invariant before ∧ advance? before = some after := by
  induction cap generalizing state with
  | zero => simpa [passed] using holds
  | succ cap ih =>
      unfold passed
      cases advanced : advance? state with
      | none => simpa using holds
      | some next =>
          obtain ⟨others, chain⟩ := ih next (kept state next holds advanced)
          constructor
          · intro visited member
            rcases List.mem_cons.mp member with rfl | member
            · exact holds
            · exact others visited member
          · apply List.isChain_cons.mpr
            refine ⟨?_, chain⟩
            intro after found
            rw [head?_passed, Option.mem_some_iff] at found
            exact found ▸ ⟨holds, advanced⟩

end Passed

/-! ### Climbs of solvers -/

/-- A climb from a start to a solution that passes feasible multipliers only, each of them
worth more than the ones before. -/
structure Rises (count : Nat) (total : ℚ) (worth : List ℚ → ℚ) (start : List ℚ)
    (way : List (List ℚ)) (solution : Solution ℚ) : Prop where
  begins : way.head? = some start
  ends : way.getLast? = some solution.multipliers
  /-- Every move leads to one more place on the way. -/
  counted : way.length = solution.iterations + 1
  feasible : ∀ multipliers ∈ way, Feasible count total multipliers
  rising : way.IsChain fun before after => worth before < worth after

namespace Rises

variable {count : Nat} {total : ℚ} {worth : List ℚ → ℚ} {start : List ℚ}
  {way : List (List ℚ)} {solution : Solution ℚ}

theorem feasible_solution (rises : Rises count total worth start way solution) :
    Feasible count total solution.multipliers :=
  rises.feasible _ (List.mem_of_getLast? rises.ends)

/-- Without a move the solution is the start, and with moves it is worth more. -/
theorem start_or_lt (rises : Rises count total worth start way solution) :
    (solution.iterations = 0 ∧ solution.multipliers = start) ∨
      worth start < worth solution.multipliers := by
  have ordered : way.Pairwise fun before after => worth before < worth after :=
    @List.IsChain.pairwise _ _ _ ⟨lt_trans⟩ rises.rising
  rcases rises with ⟨begins, ends, counted, -, -⟩
  cases way with
  | nil => cases begins
  | cons first rest =>
      cases begins
      cases rest with
      | nil =>
          cases ends
          exact .inl ⟨(Nat.succ.inj counted).symm, rfl⟩
      | cons second rest =>
          rw [List.getLast?_cons_cons] at ends
          exact .inr ((List.pairwise_cons.mp ordered).1 _ (List.mem_of_getLast? ends))

/-- The solution is worth no less than the start. -/
theorem worth_le (rises : Rises count total worth start way solution) :
    worth start ≤ worth solution.multipliers := by
  rcases rises.start_or_lt with ⟨-, same⟩ | less
  · rw [same]
  · exact less.le

end Rises

/-- From consistent states a climb advances to consistent states and gains. -/
structure Ascends {σ : Type} (advance? : σ → Option σ) (multipliersOf : σ → List ℚ)
    (Consistent : σ → Prop) (count : Nat) (total : ℚ) (worth : List ℚ → ℚ) (least : ℚ) :
    Prop where
  feasible : ∀ state, Consistent state → Feasible count total (multipliersOf state)
  kept : ∀ state next, Consistent state → advance? state = some next → Consistent next
  gains : ∀ state next, Consistent state → advance? state = some next →
    Gains worth least (multipliersOf state) (multipliersOf next)

/-- A climb that gains with every advance rises from its start to its end. -/
theorem Ascends.rises {σ : Type} {advance? : σ → Option σ} {multipliersOf : σ → List ℚ}
    {Consistent : σ → Prop} {count : Nat} {total least : ℚ} {worth : List ℚ → ℚ}
    (ascends : Ascends advance? multipliersOf Consistent count total worth least)
    (cap : Nat) {state : σ} (consistent : Consistent state) :
    Rises count total worth (multipliersOf state)
      ((passed advance? cap state).map multipliersOf)
      ⟨multipliersOf (climb advance? cap 0 state).1, (climb advance? cap 0 state).2⟩ := by
  obtain ⟨visited, chain⟩ := passed_invariant ascends.kept cap state consistent
  obtain ⟨last, counted⟩ := @climb_eq_passed σ advance? cap 0 state
  constructor
  case begins => rw [List.head?_map, head?_passed, Option.map_some]
  case ends => rw [List.getLast?_map, last, Option.map_some]
  case counted => rw [List.length_map, ← counted, Nat.zero_add]
  case feasible =>
    intro multipliers member
    obtain ⟨reached, reachedMem, rfl⟩ := List.mem_map.mp member
    exact ascends.feasible reached (visited reached reachedMem)
  case rising =>
    apply (List.isChain_map _).mpr
    refine chain.imp ?_
    rintro before after ⟨holds, advanced⟩
    exact (ascends.gains before after holds advanced).lt

end

end HingeRank.Dual
