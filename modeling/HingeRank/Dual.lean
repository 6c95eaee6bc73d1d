import HingeRank.Error

/-!
# The plane model and its dual

The multipliers of the planes are raised by pairwise ascent, with a line search where weights
must not be negative.  They decide the weights at which the model of all planes is least.
-/

namespace HingeRank

/-!
## Pairwise ascent over a scaled simplex

The multipliers of cutting planes are nonnegative and add up to a fixed total.
They are improved by moving mass between two coordinates: from the positive one
with the smallest gradient to the one with the largest.  When the two gradients
differ by little enough, no solution is much better and the ascent ends.

This module holds what both solvers share: the starting point, the choice of
coordinates, the move, and the loop.
-/

namespace Dual

open Scalar Selection

variable {K : Type} [Scalar K]

/-- Every coordinate carries the same mass. -/
def uniformStart (count : Nat) (total : K) : List K :=
  List.replicate count (total / (count : K))

/-- The starting point: given values of the right number are cut off at zero and
scaled to the total.  Without such values, or if they have no mass, every
coordinate carries the same. -/
def feasibleStart (count : Nat) (total : K) (initial : Option (List K)) : List K :=
  match initial with
  | none => uniformStart count total
  | some values =>
      if values.length = count then
        let clamped := values.map positivePart
        let mass := Linear.sum clamped
        if 0 < mass then clamped.map (· * (total / mass)) else uniformStart count total
      else uniformStart count total

/-- The coordinates between which mass is moved, and how far their gradients differ. -/
structure Transfer (K : Type) where
  raised : Nat
  lowered : Nat
  spread : K

/-- The coordinate with the largest gradient is raised and the positive one with
the smallest gradient is lowered. -/
def choose (multipliers gradient : List K) : Transfer K :=
  let raised := largest gradient
  let lowered := smallestEnabled (fun multiplier => 0 < multiplier) multipliers gradient
  ⟨raised, lowered, Linear.entry gradient raised - Linear.entry gradient lowered⟩

/-- No solution is better by more than the tolerance. -/
def Transfer.isNegligible (transfer : Transfer K) (total tolerance : K) : Bool :=
  transfer.spread * total ≤ tolerance

/-- Move mass.  A coordinate that gives up all it has becomes exactly zero. -/
def move (multipliers : List K) (raised lowered : Nat) (step : K) : List K :=
  (multipliers.modify raised (· + step)).modify lowered fun held =>
    if same step held then 0 else held - step

/-- Advance until there is no next state, at most `cap` times.  The result is the
last state and the number of advances, counted from `taken`. -/
def climb {σ : Type} (advance? : σ → Option σ) : (cap taken : Nat) → σ → σ × Nat
  | 0, taken, state => (state, taken)
  | cap + 1, taken, state =>
      match advance? state with
      | none => (state, taken)
      | some next => climb advance? cap (taken + 1) next

/-- Multipliers and the number of moves that led to them. -/
structure Solution (K : Type) where
  multipliers : List K
  iterations : Nat

end Dual

/-!
## Exact line search on a piecewise parabola

Maximises `t · gain - ½ ‖max(0, v - t u)‖²` for `t` from zero to an upper bound.
The slope is `gain` plus the sum of `uₖ (vₖ - t uₖ)` over the components that are
positive at `t`.  Between the points where a component changes its sign the slope
is a line, so one pass over these points in ascending order finds where the slope
vanishes.
-/

namespace Dual.LineSearch

open Scalar

variable {K : Type} [Scalar K]

/-- A component of `v` together with the rate `u` at which it falls. -/
structure Component (K : Type) where
  value : K
  rate : K

namespace Component

/-- The component is positive just after the start. -/
def isActive (component : Component K) : Bool :=
  0 < component.value || (same component.value 0 && component.rate < 0)

end Component

/-- A component that changes its sign, and when it does so. -/
structure Crossing (K : Type) where
  time : K
  component : Component K

/-- The sign changes strictly between the start and the upper bound, in order;
simultaneous ones stay in the order of the components. -/
def crossings (upper : K) (components : List (Component K)) : List (Crossing K) :=
  let all := components.filterMap fun component =>
    if same component.rate 0 then none
    else
      let time := component.value / component.rate
      if 0 < time ∧ time < upper then some ⟨time, component⟩ else none
  all.mergeSort fun left right => left.time ≤ right.time

/-- The slope as a line: its value at zero and how fast it falls. -/
structure Slope (K : Type) where
  level : K
  fall : K

namespace Slope

/-- The slope from the start on. -/
def initial (gain : K) (components : List (Component K)) : Slope K :=
  let active := components.filter (·.isActive)
  let rates := active.map (·.rate)
  ⟨gain + Linear.dot rates (active.map (·.value)), Linear.dot rates rates⟩

/-- The slope after a component has changed its sign. -/
def cross (slope : Slope K) (component : Component K) : Slope K :=
  let level := component.rate * component.value
  let fall := component.rate * component.rate
  if 0 < component.rate then ⟨slope.level - level, slope.fall - fall⟩
  else ⟨slope.level + level, slope.fall + fall⟩

end Slope

/-- Follow the slope from `time` on until it vanishes. -/
def walk (upper time : K) (slope : Slope K) : List (Crossing K) → K
  | [] =>
      if 0 < slope.fall then lesser (greater (slope.level / slope.fall) time) upper
      else if 0 < slope.level then upper
      else time
  | next :: rest =>
      let root := slope.level / slope.fall
      if 0 < slope.fall then
        if root ≤ next.time then greater root time
        else walk upper next.time (slope.cross next.component) rest
      else if slope.level ≤ 0 then time
      else walk upper next.time (slope.cross next.component) rest

/-- The best step between zero and the upper bound. -/
def bestStep (values rates : List K) (gain upper : K) : K :=
  let components := List.zipWith Component.mk values rates
  walk upper 0 (.initial gain components) (crossings upper components)

end Dual.LineSearch

/-!
## Quadratic ascent over a scaled simplex

Maximises `λ · linear - ½ λ · gram λ` over nonnegative `λ` with a fixed total.
Along a move the objective is a parabola, so the best step is its vertex, as far
as the lowered coordinate has mass to give.  The gradient is kept up to date by
the two columns of `gram` that a move touches.
-/

namespace Dual.Simplex

open Scalar

variable {K : Type} [Scalar K]

/-- Multipliers with the gradient of the objective there. -/
structure State (K : Type) where
  multipliers : List K
  gradient : List K

/-- The state at given multipliers. -/
def State.at (gram : List (List K)) (linear multipliers : List K) : State K :=
  ⟨multipliers, Linear.sub linear (Linear.apply gram multipliers)⟩

/-- The best step of a move along which the objective bends by `curvature`. -/
def bestStep (spread curvature available : K) : K :=
  if curvature ≤ 0 then available else lesser (spread / curvature) available

/-- The bend of the objective along a move between two coordinates. -/
def curvature (gram : List (List K)) (raised lowered : Nat) : K :=
  let entry (i j : Nat) : K := Linear.entry (Linear.row gram i) j
  entry raised raised + entry lowered lowered - (1 + 1) * entry raised lowered

/-- Make the next move, unless it is negligible. -/
def advance? (gram : List (List K)) (total tolerance : K) (state : State K) :
    Option (State K) :=
  let transfer := choose state.multipliers state.gradient
  if transfer.isNegligible total tolerance then none
  else
    let step := bestStep transfer.spread (curvature gram transfer.raised transfer.lowered)
      (Linear.entry state.multipliers transfer.lowered)
    let change := Linear.scale step
      (Linear.sub (Linear.column gram transfer.raised) (Linear.column gram transfer.lowered))
    some ⟨move state.multipliers transfer.raised transfer.lowered step,
      Linear.sub state.gradient change⟩

/-- Climb from a start for at most `cap` moves. -/
def solve (gram : List (List K)) (linear : List K) (total : K) (initial : Option (List K))
    (tolerance : K) (cap : Nat) : Solution K :=
  let start := State.at gram linear (feasibleStart linear.length total initial)
  let (state, iterations) := climb (advance? gram total tolerance) cap 0 start
  ⟨state.multipliers, iterations⟩

end Dual.Simplex

/-!
## Ascent when weights must not be negative

Maximises `λ · offsets - ½ ‖max(0, -Aᵀ λ)‖²` over nonnegative `λ` with a fixed
total, where the rows of `A` are the gradients of planes.  The gradient of this
objective is the value of every plane at the weights `max(0, -Aᵀ λ)`.  Along a
move the objective is only piecewise a parabola, so the step comes from a line
search.
-/

namespace Dual.Nonnegative

open Scalar

variable {K : Type} [Scalar K]

/-- Planes given by their gradients and offsets. -/
structure Problem (K : Type) where
  dimension : Nat
  gradients : List (List K)
  offsets : List K

/-- Multipliers with `-Aᵀ λ`. -/
structure State (K : Type) where
  multipliers : List K
  position : List K

/-- The value of every plane at the weights that a position stands for. -/
def Problem.values (problem : Problem K) (position : List K) : List K :=
  Linear.add problem.offsets (Linear.apply problem.gradients (position.map positivePart))

/-- The state at given multipliers. -/
def Problem.stateAt (problem : Problem K) (multipliers : List K) : State K :=
  ⟨multipliers, Linear.neg (Linear.combine problem.dimension multipliers problem.gradients)⟩

/-- Make the next move, unless it is negligible. -/
def Problem.advance? (problem : Problem K) (total tolerance : K) (state : State K) :
    Option (State K) :=
  let transfer := choose state.multipliers (problem.values state.position)
  if transfer.isNegligible total tolerance then none
  else
    let direction := Linear.sub (Linear.row problem.gradients transfer.raised)
      (Linear.row problem.gradients transfer.lowered)
    let gain := Linear.entry problem.offsets transfer.raised -
      Linear.entry problem.offsets transfer.lowered
    let step := LineSearch.bestStep state.position direction gain
      (Linear.entry state.multipliers transfer.lowered)
    some ⟨move state.multipliers transfer.raised transfer.lowered step,
      Linear.sub state.position (Linear.scale step direction)⟩

/-- Climb from a start for at most `cap` moves. -/
def Problem.solve (problem : Problem K) (total : K) (initial : Option (List K))
    (tolerance : K) (cap : Nat) : Solution K :=
  let start := problem.stateAt (feasibleStart problem.offsets.length total initial)
  let (state, iterations) := climb (problem.advance? total tolerance) cap 0 start
  ⟨state.multipliers, iterations⟩

end Dual.Nonnegative

/-!
## The regularised model of cutting planes

The largest of the planes bounds the risk from below.  The model is half the
squared length of the weights plus `tradeoff` times that bound, over all weights
or over those that are not negative.

The dual spreads the mass `tradeoff` over the planes, and every such spread has a
value that no weights undercut.  The weights that belong to it therefore come
with their own distance from the optimum.
-/

section

open Scalar

/-- Planes with the factor by which their bound is weighted against the length
of the weights. -/
structure PlaneModel (K : Type) where
  dimension : Nat
  gradients : List (List K)
  offsets : List K
  tradeoff : K

/-- Weights with the multipliers they come from and the values on both sides. -/
structure ModelSolution (K : Type) where
  weights : List K
  dual : List K
  dualValue : K
  primalValue : K
  iterations : Nat

/-- How hard to try, and in which space. -/
structure ModelOptions (K : Type) where
  /-- Weights must not be negative. -/
  nonnegative : Bool
  /-- Multipliers to start from. -/
  initialDual : Option (List K)
  /-- The distance from the optimum that is accepted. -/
  tolerance : K
  /-- The number of moves that is not exceeded. -/
  cap : Nat

namespace ModelSolution

variable {K : Type} [Scalar K]

/-- The optimum is not farther away than this. -/
def dualityGap (solution : ModelSolution K) : K := solution.primalValue - solution.dualValue

end ModelSolution

namespace PlaneModel

variable {K : Type} [Scalar K]

/-- The default distance from the optimum. -/
def defaultTolerance : K := ratio 1 (Nat.pow 10 8)

/-- The default number of moves. -/
def defaultCap : Nat := 50000

/-- The value of every plane at a weight vector. -/
def planeValues (model : PlaneModel K) (weights : List K) : List K :=
  Linear.add (Linear.apply model.gradients weights) model.offsets

/-- The model at a weight vector; without planes it has no value. -/
def value? (model : PlaneModel K) (weights : List K) : Option K :=
  (Selection.maximum? (model.planeValues weights)).map fun bound =>
    Linear.halfNorm weights + model.tradeoff * bound

/-- The multipliers that the solver for the chosen space arrives at. -/
def climb (model : PlaneModel K) (gram : List (List K)) (options : ModelOptions K) :
    Dual.Solution K :=
  if options.nonnegative then
    Dual.Nonnegative.Problem.solve ⟨model.dimension, model.gradients, model.offsets⟩
      model.tradeoff options.initialDual options.tolerance options.cap
  else
    Dual.Simplex.solve gram model.offsets model.tradeoff options.initialDual options.tolerance
      options.cap

/-- The weights that multipliers stand for. -/
def weightsOf (model : PlaneModel K) (nonnegative : Bool) (multipliers : List K) : List K :=
  let free := Linear.neg (Linear.combine model.dimension multipliers model.gradients)
  if nonnegative then free.map positivePart else free

/-- The value of multipliers: no weights of the chosen space undercut it. -/
def dualValue (model : PlaneModel K) (multipliers weights : List K) : K :=
  Linear.dot multipliers model.offsets - Linear.halfNorm weights

/-- Solve the model, given the inner products of the gradients.  A model without
planes has nothing over which to spread the mass. -/
def solve? (model : PlaneModel K) (gram : List (List K)) (options : ModelOptions K) :
    Except Error (ModelSolution K) := do
  if model.offsets.isEmpty then throw (.fault .divisionByZero)
  let solution := model.climb gram options
  let weights := model.weightsOf options.nonnegative solution.multipliers
  if !Linear.allFinite weights then throw .weightsNotFinite
  match model.value? weights with
  | none => throw (.fault .badValue)
  | some primalValue =>
      return {
        weights
        dual := solution.multipliers
        dualValue := model.dualValue solution.multipliers weights
        primalValue
        iterations := solution.iterations }

end PlaneModel

end

end HingeRank
