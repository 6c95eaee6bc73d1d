import Mathlib
import HingeRank.Proofs.Dual.Simplex
import HingeRank.Proofs.Exact.Sequence

/-!
# Checked operations and the ascent

Operations that can fail, and the pairwise ascent written with them.
-/

namespace HingeRank.Checked

/-!
## Operations that can fail

The library's arithmetic is total: a quotient by zero is zero, a missing entry is zero, and a
longer vector is cut.  An operation here has a result only where nothing of the kind is
needed.  It is refused where a divisor is zero, a position lies outside of a list, lengths
differ, or there is nothing to choose from.

Each operation comes with the condition under which it agrees with the total one.
-/

section

variable {α β γ : Type}

/-! ### Arithmetic -/

/-- A quotient by something else than zero. -/
def divide (numerator denominator : ℚ) : Option ℚ :=
  if denominator = 0 then none else some (numerator / denominator)

@[simp] theorem divide_eq {denominator : ℚ} (nonzero : denominator ≠ 0) (numerator : ℚ) :
    divide numerator denominator = some (numerator / denominator) := if_neg nonzero

/-! ### Positions in lists -/

/-- The first items of a list that has so many. -/
def front (count : Nat) (items : List α) : Option (List α) :=
  if count ≤ items.length then some (items.take count) else none

@[simp] theorem front_eq {count : Nat} {items : List α} (enough : count ≤ items.length) :
    front count items = some (items.take count) := if_pos enough

/-- Replace the item at a position that exists. -/
def set (items : List α) (position : Nat) (item : α) : Option (List α) :=
  if position < items.length then some (items.set position item) else none

theorem set_eq {items : List α} {position : Nat} (inBounds : position < items.length) (item : α) :
    set items position item = some (items.set position item) := if_pos inBounds

/-- Replace the first items of a list that has so many. -/
def overwrite (items first : List α) : Option (List α) :=
  if first.length ≤ items.length then some (first ++ items.drop first.length) else none

@[simp] theorem overwrite_eq {items first : List α} (enough : first.length ≤ items.length) :
    overwrite items first = some (first ++ items.drop first.length) := if_pos enough

theorem getElem?_eq_entry {values : List ℚ} {position : Nat}
    (inBounds : position < values.length) :
    values[position]? = some (Linear.entry values position) := by
  rw [Linear.entry_eq_getElem inBounds, List.getElem?_eq_getElem inBounds]

theorem getElem?_eq_row {rows : List (List ℚ)} {position : Nat}
    (inBounds : position < rows.length) :
    rows[position]? = some (Linear.row rows position) := by
  simp [Linear.row, inBounds]

/-! ### Vectors -/

/-- Combine two lists of one length item by item. -/
def together (combine : α → β → γ) (left : List α) (right : List β) : Option (List γ) :=
  if left.length = right.length then some (List.zipWith combine left right) else none

theorem together_eq {left : List α} {right : List β} (equal : left.length = right.length)
    (combine : α → β → γ) :
    together combine left right = some (List.zipWith combine left right) := if_pos equal

def add (left right : List ℚ) : Option (List ℚ) := together (· + ·) left right

@[simp] theorem add_eq {left right : List ℚ} (equal : left.length = right.length) :
    add left right = some (Linear.add left right) := together_eq equal _

def sub (left right : List ℚ) : Option (List ℚ) := together (· - ·) left right

@[simp] theorem sub_eq {left right : List ℚ} (equal : left.length = right.length) :
    sub left right = some (Linear.sub left right) := together_eq equal _

/-- The inner product of vectors of one length. -/
def dot (left right : List ℚ) : Option ℚ := do
  return Linear.sum (← together (· * ·) left right)

@[simp] theorem dot_eq {left right : List ℚ} (equal : left.length = right.length) :
    dot left right = some (Linear.dot left right) := by
  rw [dot, together_eq equal]
  rfl

/-! ### Rows of vectors -/

/-- Every row against one vector of its length. -/
def apply (rows : List (List ℚ)) (vector : List ℚ) : Option (List ℚ) := rows.mapM (dot · vector)

theorem apply_eq {rows : List (List ℚ)} {vector : List ℚ}
    (aligned : ∀ row ∈ rows, row.length = vector.length) :
    apply rows vector = some (Linear.apply rows vector) := by
  apply mapM_eq_pure
  intro row member
  exact dot_eq (aligned row member)

/-- The entries at a position that all rows have. -/
def column (rows : List (List ℚ)) (position : Nat) : Option (List ℚ) := rows.mapM (·[position]?)

theorem column_eq {rows : List (List ℚ)} {position : Nat}
    (wide : ∀ row ∈ rows, position < row.length) :
    column rows position = some (Linear.column rows position) := by
  apply mapM_eq_pure
  intro row member
  exact getElem?_eq_entry (wide row member)

/-- The combination of rows of one length with one coefficient each. -/
def combine (dimension : Nat) (coefficients : List ℚ) (rows : List (List ℚ)) :
    Option (List ℚ) := do
  (← together Linear.scale coefficients rows).foldlM add (Linear.zeros dimension)

theorem foldlM_add_eq {rows : List (List ℚ)} {start : List ℚ}
    (aligned : ∀ row ∈ rows, row.length = start.length) :
    rows.foldlM add start = some (rows.foldl Linear.add start) := by
  induction rows generalizing start with
  | nil => rfl
  | cons row rows ih =>
      have same := aligned row List.mem_cons_self
      have later : ∀ other ∈ rows, other.length = (Linear.add start row).length := by
        intro other member
        rw [Linear.length_add, same, min_self]
        exact aligned other (List.mem_cons_of_mem _ member)
      rw [List.foldlM_cons, add_eq same.symm, List.foldl_cons]
      exact ih later

theorem combine_eq {dimension : Nat} {coefficients : List ℚ} {rows : List (List ℚ)}
    (equal : coefficients.length = rows.length)
    (aligned : ∀ row ∈ rows, row.length = dimension) :
    combine dimension coefficients rows = some (Linear.combine dimension coefficients rows) := by
  rw [combine, together_eq equal]
  apply foldlM_add_eq
  intro scaled member
  obtain ⟨position, inBounds, rfl⟩ := List.mem_iff_getElem.mp member
  rw [List.getElem_zipWith, Linear.length_scale, Linear.length_zeros]
  exact aligned _ (List.getElem_mem _)

/-! ### Choosing -/

/-- Position of the first largest entry, if there is an entry. -/
def largest (values : List ℚ) : Option Nat :=
  if values = [] then none else some (Selection.largest values)

@[simp] theorem largest_eq {values : List ℚ} (nonempty : values ≠ []) :
    largest values = some (Selection.largest values) := if_neg nonempty

/-- Position of the first smallest entry among the enabled ones, if there are any. -/
def smallestEnabled (enabled : ℚ → Bool) (marks values : List ℚ) : Option Nat :=
  if marks.length = values.length ∧ marks.any enabled = true then
    some (Selection.smallestEnabled enabled marks values)
  else none

theorem smallestEnabled_eq {enabled : ℚ → Bool} {marks values : List ℚ}
    (equal : marks.length = values.length) (someEnabled : ∃ mark ∈ marks, enabled mark = true) :
    smallestEnabled enabled marks values =
      some (Selection.smallestEnabled enabled marks values) :=
  if_pos ⟨equal, List.any_eq_true.mpr someEnabled⟩

end

/-!
## The ascent never fails

The pairwise ascent is written out once more with operations that can fail.  It needs no
result of theirs that is missing: there is a plane to share the mass with, the mass that is
scaled is positive, some multiplier stays positive so that a coordinate can be lowered, and
the chosen coordinates exist in all lists.
-/

section

open HingeRank.Dual Scalar

variable {count cap : Nat} {total tolerance : ℚ} {multipliers gradient : List ℚ}

/-! ### The starting point -/

def uniformStart (count : Nat) (total : ℚ) : Option (List ℚ) := do
  return List.replicate count (← divide total count)

@[simp] theorem uniformStart_eq (some : 0 < count) (total : ℚ) :
    uniformStart count total = .some (Dual.uniformStart count total) := by
  rw [uniformStart, divide_eq (Nat.cast_ne_zero.mpr some.ne')]
  rfl

example : uniformStart 0 1 = none := rfl

def feasibleStart (count : Nat) (total : ℚ) (initial : Option (List ℚ)) : Option (List ℚ) :=
  match initial with
  | none => uniformStart count total
  | some values =>
      if values.length = count then
        let clamped := values.map positivePart
        let mass := Linear.sum clamped
        if 0 < mass then do
          let factor ← divide total mass
          return clamped.map (· * factor)
        else uniformStart count total
      else uniformStart count total

/-- Mass is shared among planes that exist, and scaled only if there is some. -/
theorem feasibleStart_eq (nonempty : 0 < count) (total : ℚ) (initial : Option (List ℚ)) :
    feasibleStart count total initial = some (Dual.feasibleStart count total initial) := by
  cases initial with
  | none => exact uniformStart_eq nonempty total
  | some values =>
      unfold feasibleStart Dual.feasibleStart
      by_cases equal : values.length = count
      · simp only [if_pos equal]
        by_cases positive : 0 < Linear.sum (values.map positivePart)
        · simp only [if_pos positive, divide_eq positive.ne']
          rfl
        · simp only [if_neg positive]
          exact uniformStart_eq nonempty total
      · simp only [if_neg equal]
        exact uniformStart_eq nonempty total

/-! ### Moves -/

def choose (multipliers gradient : List ℚ) : Option (Transfer ℚ) := do
  let raised ← largest gradient
  let lowered ← smallestEnabled (fun multiplier => 0 < multiplier) multipliers gradient
  return ⟨raised, lowered, (← gradient[raised]?) - (← gradient[lowered]?)⟩

/-- Some multiplier is positive, so that there are coordinates to choose. -/
theorem choose_eq (feasible : Feasible count total multipliers) (positive : 0 < total)
    (equal : gradient.length = count) :
    choose multipliers gradient = some (Dual.choose multipliers gradient) := by
  have chosen := choose_chosen feasible positive equal
  have aligned : multipliers.length = gradient.length := feasible.length_eq.trans equal.symm
  have nonempty : gradient ≠ [] := by
    rw [← List.length_pos_iff, equal]
    exact feasible.count_pos positive
  have someEnabled : ∃ mark ∈ multipliers, decide (0 < mark) = true := by
    obtain ⟨multiplier, member, multiplierPos⟩ := feasible.exists_pos positive
    exact ⟨multiplier, member, decide_eq_true multiplierPos⟩
  have raised := getElem?_eq_entry chosen.raised_lt
  have lowered := getElem?_eq_entry chosen.lowered_lt
  simp only [Dual.choose] at raised lowered
  simp only [choose, largest_eq nonempty, smallestEnabled_eq aligned someEnabled, raised, lowered,
    Option.bind_eq_bind, Option.bind_some]
  rfl

example : (choose [0, 0] [1, 2]).isNone = true := by decide +kernel

def move (multipliers : List ℚ) (raised lowered : Nat) (step : ℚ) : Option (List ℚ) := do
  let risen ← set multipliers raised ((← multipliers[raised]?) + step)
  let held ← risen[lowered]?
  set risen lowered (if same step held then 0 else held - step)

theorem move_eq {raised lowered : Nat} (raisedBounds : raised < multipliers.length)
    (loweredBounds : lowered < multipliers.length) (step : ℚ) :
    move multipliers raised lowered step = some (Dual.move multipliers raised lowered step) := by
  have changed (values : List ℚ) (position : Nat) (inBounds : position < values.length)
      (change : ℚ → ℚ) : set values position (change (Linear.entry values position)) =
        some (values.modify position change) := by
    rw [set_eq inBounds, List.modify_eq_set_getElem?, List.getElem?_eq_getElem inBounds,
      Linear.entry_eq_getElem inBounds]
    rfl
  have risenBounds : lowered < (multipliers.modify raised (· + step)).length := by
    simpa using loweredBounds
  simp only [move, getElem?_eq_entry raisedBounds, Option.bind_eq_bind, Option.bind_some,
    changed multipliers raised raisedBounds (· + step), getElem?_eq_entry risenBounds]
  exact changed _ lowered risenBounds fun held => if same step held then 0 else held - step

/-! ### The loop -/

def climb {σ : Type} (advance? : σ → Option (Option σ)) :
    (cap taken : Nat) → σ → Option (σ × Nat)
  | 0, taken, state => some (state, taken)
  | cap + 1, taken, state => do
      match ← advance? state with
      | none => return (state, taken)
      | some next => climb advance? cap (taken + 1) next

/-- A climb through states in which no advance fails does not fail. -/
theorem climb_eq {σ : Type} {checked : σ → Option (Option σ)} {advance? : σ → Option σ}
    {Invariant : σ → Prop}
    (agrees : ∀ state, Invariant state → checked state = some (advance? state))
    (kept : ∀ state next, Invariant state → advance? state = some next → Invariant next)
    (cap taken : Nat) (state : σ) (holds : Invariant state) :
    climb checked cap taken state = some (Dual.climb advance? cap taken state) := by
  induction cap generalizing taken state with
  | zero => rfl
  | succ cap ih =>
      rw [climb, agrees state holds, Dual.climb]
      cases advanced : advance? state with
      | none => rfl
      | some next => exact ih (taken + 1) next (kept state next holds advanced)

/-! ### Without bounds on the weights -/

namespace Simplex

open Dual.Simplex

variable {gram : List (List ℚ)} {linear : List ℚ}

def bestStep (spread curvature available : ℚ) : Option ℚ :=
  if curvature ≤ 0 then some available
  else do return lesser (← divide spread curvature) available

/-- A parabola has its vertex only where it bends. -/
@[simp] theorem bestStep_eq (spread curvature available : ℚ) :
    bestStep spread curvature available =
      some (Dual.Simplex.bestStep spread curvature available) := by
  unfold bestStep Dual.Simplex.bestStep
  split
  next => rfl
  next bending =>
    rw [divide_eq (not_le.mp bending).ne']
    rfl

def curvature (gram : List (List ℚ)) (raised lowered : Nat) : Option ℚ := do
  let entry (i j : Nat) : Option ℚ := do (← gram[i]?)[j]?
  return (← entry raised raised) + (← entry lowered lowered) -
    (1 + 1) * (← entry raised lowered)

/-- Inner products of all planes with one another, in rows of equal length. -/
structure Square (gram : List (List ℚ)) (count : Nat) : Prop where
  length_eq : gram.length = count
  row_eq : ∀ row ∈ gram, row.length = count

theorem Square.entry_eq {raised lowered : Nat} (square : Square gram count)
    (raisedBounds : raised < count) (loweredBounds : lowered < count) :
    (gram[raised]? >>= fun row => row[lowered]?) =
      some (Linear.entry (Linear.row gram raised) lowered) := by
  have inBounds : raised < gram.length := square.length_eq ▸ raisedBounds
  have wide : lowered < (Linear.row gram raised).length := by
    rw [square.row_eq _ (by simp [Linear.row, inBounds])]
    exact loweredBounds
  rw [getElem?_eq_row inBounds]
  exact getElem?_eq_entry wide

theorem curvature_eq {raised lowered : Nat} (square : Square gram count)
    (raisedBounds : raised < count) (loweredBounds : lowered < count) :
    curvature gram raised lowered = some (Dual.Simplex.curvature gram raised lowered) := by
  simp only [curvature, square.entry_eq raisedBounds raisedBounds,
    square.entry_eq loweredBounds loweredBounds, square.entry_eq raisedBounds loweredBounds]
  rfl

def advance? (gram : List (List ℚ)) (total tolerance : ℚ) (state : State ℚ) :
    Option (Option (State ℚ)) := do
  let transfer ← choose state.multipliers state.gradient
  if transfer.isNegligible total tolerance then return none
  else
    let step ← bestStep transfer.spread (← curvature gram transfer.raised transfer.lowered)
      (← state.multipliers[transfer.lowered]?)
    let change := Linear.scale step
      (← sub (← column gram transfer.raised) (← column gram transfer.lowered))
    return some ⟨← move state.multipliers transfer.raised transfer.lowered step,
      ← sub state.gradient change⟩

theorem advance?_eq (square : Square gram linear.length) (positive : 0 < total) {state : State ℚ}
    (consistent : state.Consistent gram linear total) :
    advance? gram total tolerance state =
      some (Dual.Simplex.advance? gram total tolerance state) := by
  have feasible := consistent.feasible
  have lengths := consistent.length_gradient square.length_eq
  have chosen := choose_chosen feasible positive lengths
  have raisedBounds : (Dual.choose state.multipliers state.gradient).raised < linear.length :=
    lengths ▸ chosen.raised_lt
  have loweredBounds : (Dual.choose state.multipliers state.gradient).lowered < linear.length :=
    lengths ▸ chosen.lowered_lt
  simp only [advance?, Dual.Simplex.advance?, choose_eq feasible positive lengths,
    Option.bind_eq_bind, Option.bind_some]
  generalize Dual.choose state.multipliers state.gradient = transfer at *
  cases transfer.isNegligible total tolerance with
  | true => rfl
  | false =>
      have raisedHeld : transfer.raised < state.multipliers.length :=
        feasible.length_eq ▸ raisedBounds
      have loweredHeld : transfer.lowered < state.multipliers.length :=
        feasible.length_eq ▸ loweredBounds
      have raisedWide : ∀ row ∈ gram, transfer.raised < row.length :=
        fun row member => square.row_eq row member ▸ raisedBounds
      have loweredWide : ∀ row ∈ gram, transfer.lowered < row.length :=
        fun row member => square.row_eq row member ▸ loweredBounds
      have columns : (Linear.column gram transfer.raised).length =
          (Linear.column gram transfer.lowered).length := by
        simp [Linear.column]
      have changes (step : ℚ) : state.gradient.length = (Linear.scale step (Linear.sub
          (Linear.column gram transfer.raised) (Linear.column gram transfer.lowered))).length := by
        simp [Linear.column, lengths, square.length_eq]
      simp only [Bool.false_eq_true, if_false, curvature_eq square raisedBounds loweredBounds,
        getElem?_eq_entry loweredHeld, bestStep_eq, column_eq raisedWide, column_eq loweredWide,
        sub_eq columns, move_eq raisedHeld loweredHeld, sub_eq (changes _), Option.bind_some]
      rfl

def solve (gram : List (List ℚ)) (linear : List ℚ) (total : ℚ) (initial : Option (List ℚ))
    (tolerance : ℚ) (cap : Nat) : Option (Solution ℚ) := do
  let multipliers ← feasibleStart linear.length total initial
  let gradient ← sub linear (← apply gram multipliers)
  let (state, iterations) ← climb (advance? gram total tolerance) cap 0 ⟨multipliers, gradient⟩
  return ⟨state.multipliers, iterations⟩

/-- With a plane at least and a positive total the ascent has a solution. -/
theorem solve_eq (square : Square gram linear.length) (nonempty : 0 < linear.length)
    (positive : 0 < total) (nonneg : 0 ≤ tolerance) (initial : Option (List ℚ)) (cap : Nat) :
    solve gram linear total initial tolerance cap =
      some (Dual.Simplex.solve gram linear total initial tolerance cap) := by
  have feasible := feasibleStart_feasible nonempty positive.le initial
  have aligned : ∀ row ∈ gram, row.length =
      (Dual.feasibleStart linear.length total initial).length := by
    intro row member
    rw [square.row_eq row member, feasible.length_eq]
  have lengths : linear.length =
      (Linear.apply gram (Dual.feasibleStart linear.length total initial)).length := by
    rw [Linear.length_apply, square.length_eq]
  have agrees (state : State ℚ) (consistent : state.Consistent gram linear total) :
      advance? gram total tolerance state =
        some (Dual.Simplex.advance? gram total tolerance state) :=
    advance?_eq square positive consistent
  have climbs := climb_eq agrees
    (fun state next => advance_consistent square.length_eq positive nonneg) cap 0
    (State.at gram linear (Dual.feasibleStart linear.length total initial)) ⟨feasible, rfl⟩
  simp only [solve, feasibleStart_eq nonempty, apply_eq aligned, sub_eq lengths,
    Option.bind_eq_bind, Option.bind_some]
  rw [State.at] at climbs
  rw [climbs]
  rfl

end Simplex

end

end HingeRank.Checked
