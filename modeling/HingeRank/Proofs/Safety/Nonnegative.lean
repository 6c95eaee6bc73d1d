import Mathlib
import HingeRank.Optimizer
import HingeRank.Proofs.Planes.Duality
import HingeRank.Proofs.Safety.Ascent

/-!
# The checked plane model

The ascent with nonnegative weights and the solution of the plane model, written with
operations that can fail.
-/

namespace HingeRank.Checked

/-!
## The ascent with nonnegative weights never fails

The line search divides a component by its rate only where the rate is not zero, and the slope
by its fall only while it falls, also after components have crossed zero in between.  Rows and
offsets of the chosen planes exist, and all vectors have the dimension of the planes.
-/

section

open HingeRank.Dual Scalar

/-! ### Line search -/

namespace LineSearch

open Dual.LineSearch

/-- When a component changes its sign, if it does so before the upper bound. -/
def crossing? (upper : ℚ) (component : Component ℚ) : Option (Option (Crossing ℚ)) :=
  if same component.rate 0 then some none
  else do
    let time ← divide component.value component.rate
    return if 0 < time ∧ time < upper then some ⟨time, component⟩ else none

def crossings (upper : ℚ) (components : List (Component ℚ)) : Option (List (Crossing ℚ)) := do
  let all ← components.mapM (crossing? upper)
  return (all.filterMap id).mergeSort fun left right => left.time ≤ right.time

@[simp] theorem crossings_eq (upper : ℚ) (components : List (Component ℚ)) :
    crossings upper components = some (Dual.LineSearch.crossings upper components) := by
  let found (component : Component ℚ) : Option (Crossing ℚ) :=
    if same component.rate 0 then none
    else
      let time := component.value / component.rate
      if 0 < time ∧ time < upper then some ⟨time, component⟩ else none
  have agrees (component : Component ℚ) : crossing? upper component = some (found component) := by
    simp only [crossing?, found]
    cases kind : same component.rate 0 with
    | true => rfl
    | false =>
        rw [divide_eq (same_eq_false.mp kind)]
        rfl
  have all : components.mapM (crossing? upper) = some (components.map found) :=
    mapM_eq_pure fun component _ => agrees component
  rw [crossings, all]
  simp only [Option.bind_eq_bind, Option.bind_some, List.filterMap_map]
  rfl

/-- The slope from the start on. -/
def initial (gain : ℚ) (components : List (Component ℚ)) : Option (Slope ℚ) := do
  let active := components.filter (·.isActive)
  let rates := active.map (·.rate)
  return ⟨gain + (← dot rates (active.map (·.value))), ← dot rates rates⟩

@[simp] theorem initial_eq (gain : ℚ) (components : List (Component ℚ)) :
    initial gain components = some (Slope.initial gain components) := by
  have equal : ((components.filter (·.isActive)).map (·.rate)).length =
      ((components.filter (·.isActive)).map (·.value)).length := by
    rw [List.length_map, List.length_map]
  simp only [initial, dot_eq equal, dot_eq rfl]
  rfl

def walk (upper time : ℚ) (slope : Slope ℚ) : List (Crossing ℚ) → Option ℚ
  | [] =>
      if 0 < slope.fall then do
        return lesser (greater (← divide slope.level slope.fall) time) upper
      else if 0 < slope.level then some upper
      else some time
  | next :: rest =>
      if 0 < slope.fall then do
        let root ← divide slope.level slope.fall
        if root ≤ next.time then return greater root time
        else walk upper next.time (slope.cross next.component) rest
      else if slope.level ≤ 0 then some time
      else walk upper next.time (slope.cross next.component) rest

/-- The slope is divided by its fall only while it falls. -/
theorem walk_eq (upper time : ℚ) (slope : Slope ℚ) (crossings : List (Crossing ℚ)) :
    walk upper time slope crossings = some (Dual.LineSearch.walk upper time slope crossings) := by
  induction crossings generalizing time slope with
  | nil =>
      unfold walk Dual.LineSearch.walk
      split
      next falling =>
        rw [divide_eq falling.ne']
        rfl
      next => split <;> rfl
  | cons next rest ih =>
      unfold walk Dual.LineSearch.walk
      split
      next falling =>
        simp only [divide_eq falling.ne', Option.bind_eq_bind, Option.bind_some]
        split
        next => rfl
        next => exact ih _ _
      next =>
        split
        next => rfl
        next => exact ih _ _

def bestStep (values rates : List ℚ) (gain upper : ℚ) : Option ℚ := do
  let components ← together Component.mk values rates
  walk upper 0 (← initial gain components) (← crossings upper components)

theorem bestStep_eq {values rates : List ℚ} (equal : values.length = rates.length)
    (gain upper : ℚ) : bestStep values rates gain upper =
      some (Dual.LineSearch.bestStep values rates gain upper) := by
  simp only [bestStep, together_eq equal, Option.bind_eq_bind, Option.bind_some, initial_eq,
    crossings_eq, walk_eq]
  rfl

end LineSearch

/-! ### The ascent -/

namespace Nonnegative

open Dual.Nonnegative

variable {problem : Problem ℚ} {total tolerance : ℚ}

def values (problem : Problem ℚ) (position : List ℚ) : Option (List ℚ) := do
  add problem.offsets (← apply problem.gradients (position.map positivePart))

theorem values_eq (wellFormed : problem.WellFormed) {position : List ℚ}
    (equal : position.length = problem.dimension) :
    values problem position = some (problem.values position) := by
  have aligned : ∀ row ∈ problem.gradients, row.length = (position.map positivePart).length := by
    intro row member
    rw [wellFormed.aligned row member, List.length_map, equal]
  have lengths : problem.offsets.length =
      (Linear.apply problem.gradients (position.map positivePart)).length := by
    rw [Linear.length_apply, wellFormed.square]
  rw [values, apply_eq aligned]
  exact add_eq lengths

def advance? (problem : Problem ℚ) (total tolerance : ℚ) (state : State ℚ) :
    Option (Option (State ℚ)) := do
  let transfer ← choose state.multipliers (← values problem state.position)
  if transfer.isNegligible total tolerance then return none
  else
    let direction ← sub (← problem.gradients[transfer.raised]?)
      (← problem.gradients[transfer.lowered]?)
    let gain := (← problem.offsets[transfer.raised]?) - (← problem.offsets[transfer.lowered]?)
    let step ← LineSearch.bestStep state.position direction gain
      (← state.multipliers[transfer.lowered]?)
    return some ⟨← move state.multipliers transfer.raised transfer.lowered step,
      ← sub state.position (Linear.scale step direction)⟩

theorem advance?_eq (wellFormed : problem.WellFormed) (positive : 0 < total) {state : State ℚ}
    (consistent : problem.Consistent total state) :
    advance? problem total tolerance state = some (problem.advance? total tolerance state) := by
  have feasible := consistent.feasible
  have width := consistent.length_position wellFormed
  have lengths := Problem.length_values wellFormed state.position
  have chosen := choose_chosen feasible positive lengths
  simp only [advance?, Problem.advance?, values_eq wellFormed width,
    choose_eq feasible positive lengths, Option.bind_eq_bind, Option.bind_some]
  generalize Dual.choose state.multipliers (problem.values state.position) = transfer at *
  have raisedBounds : transfer.raised < problem.offsets.length := lengths ▸ chosen.raised_lt
  have loweredBounds : transfer.lowered < problem.offsets.length := lengths ▸ chosen.lowered_lt
  cases transfer.isNegligible total tolerance with
  | true => rfl
  | false =>
      have raisedHeld : transfer.raised < state.multipliers.length :=
        feasible.length_eq ▸ raisedBounds
      have loweredHeld : transfer.lowered < state.multipliers.length :=
        feasible.length_eq ▸ loweredBounds
      have raisedRow : transfer.raised < problem.gradients.length :=
        wellFormed.square ▸ raisedBounds
      have loweredRow : transfer.lowered < problem.gradients.length :=
        wellFormed.square ▸ loweredBounds
      have raisedWidth : (Linear.row problem.gradients transfer.raised).length =
          problem.dimension := wellFormed.aligned _ (by simp [Linear.row, raisedRow])
      have loweredWidth : (Linear.row problem.gradients transfer.lowered).length =
          problem.dimension := wellFormed.aligned _ (by simp [Linear.row, loweredRow])
      have rows := raisedWidth.trans loweredWidth.symm
      have directionWidth : (Linear.sub (Linear.row problem.gradients transfer.raised)
          (Linear.row problem.gradients transfer.lowered)).length = problem.dimension := by
        rw [Linear.length_sub, raisedWidth, loweredWidth, min_self]
      have along := width.trans directionWidth.symm
      have scaled (step : ℚ) := along.trans (Linear.length_scale step _).symm
      simp only [Bool.false_eq_true, if_false, getElem?_eq_row raisedRow,
        getElem?_eq_row loweredRow, sub_eq rows, getElem?_eq_entry raisedBounds,
        getElem?_eq_entry loweredBounds, getElem?_eq_entry loweredHeld,
        LineSearch.bestStep_eq along, move_eq raisedHeld loweredHeld, sub_eq (scaled _),
        Option.bind_some]
      rfl

def solve (problem : Problem ℚ) (total : ℚ) (initial : Option (List ℚ)) (tolerance : ℚ)
    (cap : Nat) : Option (Solution ℚ) := do
  let multipliers ← feasibleStart problem.offsets.length total initial
  let combined ← combine problem.dimension multipliers problem.gradients
  let (state, iterations) ←
    climb (advance? problem total tolerance) cap 0 ⟨multipliers, Linear.neg combined⟩
  return ⟨state.multipliers, iterations⟩

/-- With a plane at least and a positive total the ascent has a solution. -/
theorem solve_eq (wellFormed : problem.WellFormed) (nonempty : 0 < problem.offsets.length)
    (positive : 0 < total) (nonneg : 0 ≤ tolerance) (initial : Option (List ℚ)) (cap : Nat) :
    solve problem total initial tolerance cap =
      some (problem.solve total initial tolerance cap) := by
  have feasible := feasibleStart_feasible nonempty positive.le initial
  have equal := feasible.length_eq.trans wellFormed.square.symm
  have agrees (state : State ℚ) (consistent : problem.Consistent total state) :
      advance? problem total tolerance state = some (problem.advance? total tolerance state) :=
    advance?_eq wellFormed positive consistent
  have climbs := climb_eq agrees
    (fun state next => Problem.advance_consistent wellFormed positive nonneg) cap 0
    (problem.stateAt (Dual.feasibleStart problem.offsets.length total initial)) ⟨feasible, rfl⟩
  simp only [solve, feasibleStart_eq nonempty, combine_eq equal wellFormed.aligned,
    Option.bind_eq_bind, Option.bind_some]
  rw [Problem.stateAt] at climbs
  rw [climbs]
  rfl

end Nonnegative

end

/-!
## Solving the plane model never fails

The solvers find planes to share the mass among, the multipliers fit the planes, and there is
a plane to take the largest value of.  Over exact numbers the weights are finite.
-/

namespace Planes

variable {model : PlaneModel ℚ}

def climb (model : PlaneModel ℚ) (gram : List (List ℚ)) (options : ModelOptions ℚ) :
    Option (Dual.Solution ℚ) :=
  if options.nonnegative then
    Nonnegative.solve ⟨model.dimension, model.gradients, model.offsets⟩ model.tradeoff
      options.initialDual options.tolerance options.cap
  else
    Simplex.solve gram model.offsets model.tradeoff options.initialDual options.tolerance
      options.cap

/-- Inner products of as many vectors as there are linear terms. -/
theorem square_gram {rows : List (List ℚ)} {count : Nat} (equal : rows.length = count) :
    Simplex.Square (Linear.gram rows) count where
  length_eq := by rw [Linear.gram, List.length_map, equal]
  row_eq := by
    intro products member
    obtain ⟨row, -, rfl⟩ := List.mem_map.mp member
    rw [List.length_map, equal]

theorem climb_eq (wellFormed : model.WellFormed) (options : ModelOptions ℚ)
    (nonneg : 0 ≤ options.tolerance) :
    climb model (Linear.gram model.gradients) options =
      some (model.climb (Linear.gram model.gradients) options) := by
  unfold climb PlaneModel.climb
  cases options.nonnegative with
  | false =>
      exact Simplex.solve_eq (square_gram wellFormed.square) wellFormed.nonempty
        wellFormed.tradeoff_pos nonneg options.initialDual options.cap
  | true =>
      exact Nonnegative.solve_eq wellFormed.problem wellFormed.nonempty wellFormed.tradeoff_pos
        nonneg options.initialDual options.cap

def weightsOf (model : PlaneModel ℚ) (nonnegative : Bool) (multipliers : List ℚ) :
    Option (List ℚ) := do
  let free := Linear.neg (← combine model.dimension multipliers model.gradients)
  return if nonnegative then free.map Scalar.positivePart else free

theorem weightsOf_eq (wellFormed : model.WellFormed) (nonnegative : Bool) {multipliers : List ℚ}
    (equal : multipliers.length = model.gradients.length) :
    weightsOf model nonnegative multipliers = some (model.weightsOf nonnegative multipliers) := by
  rw [weightsOf, combine_eq equal wellFormed.aligned]
  rfl

/-- The model at a weight vector, if there are planes. -/
def value (model : PlaneModel ℚ) (weights : List ℚ) : Option ℚ := do
  let values ← add (← apply model.gradients weights) model.offsets
  let bound ← Selection.maximum? values
  return Linear.halfNorm weights + model.tradeoff * bound

theorem value_eq (wellFormed : model.WellFormed) {weights : List ℚ}
    (equal : weights.length = model.dimension) : value model weights = model.value? weights := by
  have aligned : ∀ row ∈ model.gradients, row.length = weights.length := by
    intro row member
    rw [wellFormed.aligned row member, equal]
  have lengths : (Linear.apply model.gradients weights).length = model.offsets.length := by
    rw [Linear.length_apply, wellFormed.square]
  rw [value, apply_eq aligned, Option.bind_eq_bind, Option.bind_some, add_eq lengths,
    Option.bind_eq_bind, Option.bind_some, PlaneModel.value?, PlaneModel.planeValues]
  cases Selection.maximum? (Linear.add (Linear.apply model.gradients weights) model.offsets) with
  | none => rfl
  | some bound => rfl

def solve? (model : PlaneModel ℚ) (gram : List (List ℚ)) (options : ModelOptions ℚ) :
    Option (Except Error (ModelSolution ℚ)) := do
  let solution ← climb model gram options
  let weights ← weightsOf model options.nonnegative solution.multipliers
  if !Linear.allFinite weights then return .error .weightsNotFinite
  let primalValue ← value model weights
  let spread ← dot solution.multipliers model.offsets
  return .ok {
    weights
    dual := solution.multipliers
    dualValue := spread - Linear.halfNorm weights
    primalValue
    iterations := solution.iterations }

theorem solve?_eq (wellFormed : model.WellFormed) (options : ModelOptions ℚ)
    (nonneg : 0 ≤ options.tolerance) :
    solve? model (Linear.gram model.gradients) options =
      some (model.solve? (Linear.gram model.gradients) options) := by
  have feasible := (PlaneModel.climb_feasible wellFormed options nonneg).1
  have equal := feasible.length_eq.trans wellFormed.square.symm
  have width := PlaneModel.length_weightsOf wellFormed.aligned options.nonnegative
    (model.climb (Linear.gram model.gradients) options).multipliers
  have planes : model.offsets.isEmpty = false := by
    rw [List.isEmpty_eq_false_iff]
    exact List.ne_nil_of_length_pos wellFormed.nonempty
  simp only [solve?, PlaneModel.solve?, planes, climb_eq wellFormed options nonneg,
    weightsOf_eq wellFormed options.nonnegative equal, value_eq wellFormed width,
    PlaneModel.value?_eq wellFormed, dot_eq feasible.length_eq, Option.bind_eq_bind,
    Option.bind_some]
  split
  next => rfl
  next => rfl

end Planes

end HingeRank.Checked
