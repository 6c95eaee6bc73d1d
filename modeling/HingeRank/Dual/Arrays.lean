import HingeRank.Dual
import HingeRank.Value.Conversion

/-!
# Quadratic programs given as arrays

The solvers work on vectors and rows whose lengths fit together.  Here they are
offered for arrays of any shape.  Arrays that fit go to the solvers; with others the
same ascent is carried out place by place until it meets something that cannot be
done, which need not happen when there is little to do.
-/

namespace HingeRank.Dual

open Scalar

variable {K : Type} [Scalar K]

/-- The first extent of an array that has one. -/
def extent? (array : Tensor K) : Except Fault Nat :=
  match array.shape with
  | [] => .error .badPosition
  | extent :: _ => .ok extent

/-- A given point as a starting point: values of any depth are cut off and scaled
alike, if their first extent is the number of coordinates and some value is left. -/
def scaledStart? (count : Option Int) (total : K) (initial : Option (Tensor K)) :
    Except Fault (Option (Tensor K)) := do
  let some array := initial | return none
  let extent : Int ← extent? array
  let clamped := array.entries.map positivePart
  let mass := Linear.sum clamped
  if count = some extent ∧ 0 < mass then
    return some ⟨array.shape, clamped.map (· * (total / mass))⟩
  else return none

/-- The same share for every coordinate. -/
def evenStart? (count : Int) (total : K) : Except Fault (Tensor K) :=
  if count = 0 then .error .divisionByZero
  else if count < 0 ∨ Tensor.greatestSize < count then .error .badValue
  else .ok (.vector (uniformStart count.toNat total))

/-- The starting point as an array. -/
def feasibleStartArray? (count : Int) (total : K) (initial : Option (Tensor K)) :
    Except Fault (Tensor K) := do
  match ← scaledStart? (some count) total initial with
  | some start => return start
  | none => evenStart? count total

/-- The starting point for a number of coordinates as it was given.  A number of another
kind may be that of a given point, but no point can be made for it. -/
def feasibleStartOf? (count : Value) (total : Float) (initial : Option (Tensor Float)) :
    Except Fault (Tensor Float) := do
  let whole := count.number?.toOption.bind (·.whole?)
  match ← scaledStart? whole total initial, count with
  | some start, _ => return start
  | none, .int count => do
      let _ ← (Number.whole count).toFloat?
      evenStart? count total
  | none, _ => if whole = some 0 then throw .divisionByZero else throw .wrongType

/-- Limits of an ascent as they were given. -/
structure Limits where
  tolerance : Value
  cap : Value

/-- The limits given by two values; an absent one leaves the default. -/
def Limits.ofValues (tolerance cap : Value) : Limits :=
  { tolerance := tolerance.orElse (.float PlaneModel.defaultTolerance)
    cap := cap.orElse (.int PlaneModel.defaultCap) }

/-- A cap that no ascent reaches. -/
def unreachableCap : Nat := Nat.pow 2 64

/-- The cap as a number of moves. -/
def Limits.cap? (limits : Limits) : Except Fault Nat := do
  return (← limits.cap.number?).countsBelow unreachableCap

/-- The tolerance as a double. -/
def Limits.tolerance? (limits : Limits) : Except Fault Float := do
  (← limits.tolerance.number?).toFloat?

/-- The limits as numbers.  The tolerance matters only if there may be a move. -/
def Limits.resolve? (limits : Limits) : Except Fault (Float × Nat) := do
  let cap ← limits.cap?
  if cap = 0 then return (0, 0)
  return (← limits.tolerance?, cap)

/-- Multipliers as an array, and the number of moves that led to them. -/
structure ArraySolution (K : Type) where
  multipliers : Tensor K
  iterations : Nat

def Solution.toArrays (solution : Solution K) : ArraySolution K :=
  ⟨.vector solution.multipliers, solution.iterations⟩

/-- An ascent whose moves may fail. -/
def climbArrays? {σ : Type} (advance? : σ → Except Fault (Option σ)) :
    (cap taken : Nat) → σ → Except Fault (σ × Nat)
  | 0, taken, state => .ok (state, taken)
  | cap + 1, taken, state => do
      match ← advance? state with
      | none => return (state, taken)
      | some next => climbArrays? advance? cap (taken + 1) next

/-- The coordinates between which mass is moved, and how far their gradients differ,
unless that is negligible. -/
def transfer? (multipliers gradient : Tensor K) (total : K) (tolerance : Except Fault K) :
    Except Fault (Option (Nat × Nat × Tensor K)) := do
  if gradient.entries.isEmpty then throw .badValue
  let marked ← Tensor.zipWith? Prod.mk multipliers gradient
  if marked.entries.isEmpty then throw .badValue
  let raised := Selection.largest gradient.entries
  let lowered := Selection.smallestEnabled (fun multiplier => 0 < multiplier)
    (marked.entries.map (·.1)) (marked.entries.map (·.2))
  let spread ← Tensor.zipWith? (· - ·) (← gradient.item? raised) (← gradient.item? lowered)
  let tolerance ← tolerance
  let isNegligible ← (spread.map fun x => decide (x * total ≤ tolerance)).holds?
  return if isNegligible then none else some (raised, lowered, spread)

/-- Move mass from one part of an array to another. -/
def moveParts? (multipliers : Tensor K) (raised lowered : Nat) (step : Tensor K) :
    Except Fault (Tensor K) := do
  let gained ← (← multipliers.item? raised).update? (· + ·) step
  let multipliers := multipliers.setItem raised gained
  let held ← multipliers.item? lowered
  if ← (← Tensor.zipWith? same step held).holds? then
    return multipliers.setItem lowered (held.map fun _ => 0)
  else return multipliers.setItem lowered (← held.update? (· - ·) step)

/-- Multipliers with the gradient of the objective there. -/
structure ArrayState (K : Type) where
  multipliers : Tensor K
  gradient : Tensor K

/-- Make the next move of a quadratic ascent, unless it is negligible. -/
def advanceSimplex? (gram : Tensor K) (total : K) (tolerance : Except Fault K)
    (state : ArrayState K) : Except Fault (Option (ArrayState K)) := do
  let some (raised, lowered, spread) ←
    transfer? state.multipliers state.gradient total tolerance | return none
  let bend (left right : Nat) : Except Fault (Tensor K) := do (← gram.item? left).item? right
  let own ← Tensor.zipWith? (· + ·) (← bend raised raised) (← bend lowered lowered)
  let curvature ← Tensor.zipWith? (fun own mixed => own - (1 + 1) * mixed) own
    (← bend raised lowered)
  let held ← state.multipliers.item? lowered
  let step ←
    if ← (curvature.map fun x => decide (x ≤ 0)).holds? then pure held
    else do
      let vertex ← Tensor.zipWith? (· / ·) spread curvature
      let isLess ← Tensor.zipWith? (fun left right => decide (left < right)) held vertex
      pure (if ← isLess.holds? then held else vertex)
  let multipliers ← moveParts? state.multipliers raised lowered step
  let columns ← Tensor.zipWith? (· - ·) (← gram.column? raised) (← gram.column? lowered)
  let gradient ← state.gradient.update? (· - ·) (← Tensor.zipWith? (· * ·) step columns)
  return some ⟨multipliers, gradient⟩

/-- The starting values that a solver for vectors takes. -/
def vectorStart (count : Nat) (initial : Option (Tensor K)) : Option (List K) :=
  (initial.filter (·.shape == [count])).map (·.entries)

/-- Quadratic ascent for arrays. -/
def solveSimplex? (gram linear : Tensor Float) (total : Float) (initial : Option (Tensor Float))
    (limits : Limits) : Except Fault (ArraySolution Float) := do
  let count ← extent? linear
  let start ← feasibleStartArray? count total initial
  let gradient ← Tensor.zipWith? (· - ·) linear (← gram.product? start)
  if start.shape = [count] ∧ linear.shape = [count] ∧ gram.shape = [count, count] then
    let (tolerance, cap) ← limits.resolve?
    let rows := Tensor.pieces count count gram.entries
    return (Simplex.solve rows linear.entries total (vectorStart count initial) tolerance
      cap).toArrays
  let (state, iterations) ← climbArrays? (advanceSimplex? gram total limits.tolerance?)
    (← limits.cap?) 0 ⟨start, gradient⟩
  return ⟨state.multipliers, iterations⟩

/-- The sign changes of components in an array with several extents cannot be put in
order.  If all extents but the first are one, the first change is met as often as there
are changes, and only the upper bound is still a single number after that. -/
def walkStacked? (upper : K) (crossing : LineSearch.Crossing K) :
    (count : Nat) → (time : K) → LineSearch.Slope K → Except Fault K
  | 0, time, slope =>
      let vertex := greater (slope.level / slope.fall) time
      if 0 < slope.fall then if upper < vertex then .ok upper else .error .wrongType
      else if 0 < slope.level then .ok upper
      else .error .wrongType
  | count + 1, _, slope =>
      let ends := if 0 < slope.fall then decide (slope.level / slope.fall ≤ crossing.time)
        else decide (slope.level ≤ 0)
      if ends then .error .wrongType
      else walkStacked? upper crossing count crossing.time (slope.cross crossing.component)

/-- The line search for components in an array with several extents. -/
def bestStackedStep? (inner : List Nat) (components : List (LineSearch.Component K))
    (gain upper : K) : Except Fault K := do
  let slope := LineSearch.Slope.initial gain components
  let crossings := components.zipIdx.filterMap fun (component, position) =>
    (LineSearch.crossings upper [component]).head?.map fun crossing => (position, crossing)
  let some (_, first) := crossings.head? | return LineSearch.walk upper 0 slope []
  let size := Tensor.sizeOf inner
  if crossings.any fun (position, _) => components.length ≤ position * size then throw .badPosition
  if inner.getLast?.any (crossings.length < ·) then throw .badPosition
  if 0 < slope.fall then
    if size ≠ 1 then throw .badValue
    if slope.level / slope.fall ≤ first.time then return greater (slope.level / slope.fall) 0
  else
    if slope.level ≤ 0 then return 0
    if size ≠ 1 then throw .badValue
  walkStacked? upper first (crossings.length - 1) first.time (slope.cross first.component)

/-- The line search for arrays; components are matched one by one. -/
def bestStep? (values rates : Tensor K) (gain upper : K) : Except Fault K :=
  match decide (values.shape = rates.shape), values.shape with
  | false, _ =>
      .error (if (Tensor.align? values.shape rates.shape).isSome then .badPosition else .badValue)
  | true, [] => .error .badPosition
  | true, [_] => .ok (LineSearch.bestStep values.entries rates.entries gain upper)
  | true, _ :: inner =>
      bestStackedStep? inner (List.zipWith LineSearch.Component.mk values.entries rates.entries)
        gain upper

/-- Multipliers with the position `-Aᵀ λ` and the gradient of the objective there. -/
structure PositionedState (K : Type) extends ArrayState K where
  position : Tensor K

/-- The value of every plane at the weights that a position stands for. -/
def planeValues? (gradients offsets position : Tensor K) : Except Fault (Tensor K) := do
  Tensor.zipWith? (· + ·) offsets (← gradients.product? (position.map positivePart))

/-- Make the next move of the ascent for weights that must not be negative, unless it
is negligible. -/
def advanceNonnegative? (gradients offsets : Tensor K) (total : K) (tolerance : Except Fault K)
    (state : PositionedState K) : Except Fault (Option (PositionedState K)) := do
  let some (raised, lowered, _) ←
    transfer? state.multipliers state.gradient total tolerance | return none
  let direction ← Tensor.zipWith? (· - ·) (← gradients.item? raised) (← gradients.item? lowered)
  let gain ← Tensor.zipWith? (· - ·) (← offsets.item? raised) (← offsets.item? lowered)
  let held ← state.multipliers.item? lowered
  let step := Tensor.scalar
    (← bestStep? state.position direction (← gain.number?) (← held.number?))
  let multipliers ← moveParts? state.multipliers raised lowered step
  let position ← state.position.update? (· - ·) (← Tensor.zipWith? (· * ·) step direction)
  return some ⟨⟨multipliers, ← planeValues? gradients offsets position⟩, position⟩

/-- Ascent for weights that must not be negative, for arrays. -/
def solveNonnegative? (gradients offsets : Tensor Float) (total : Float)
    (initial : Option (Tensor Float)) (limits : Limits) :
    Except Fault (ArraySolution Float) := do
  let count ← extent? offsets
  let start ← feasibleStartArray? count total initial
  let position := (← gradients.transpose.product? start).map (- ·)
  let gradient ← planeValues? gradients offsets position
  match decide (start.shape = [count] ∧ offsets.shape = [count]), gradients.rows? with
  | true, some (dimension, rows) =>
      let (tolerance, cap) ← limits.resolve?
      return (Nonnegative.Problem.solve ⟨dimension, rows, offsets.entries⟩ total
        (vectorStart count initial) tolerance cap).toArrays
  | _, _ =>
      let (state, iterations) ←
        climbArrays? (advanceNonnegative? gradients offsets total limits.tolerance?)
          (← limits.cap?) 0 ⟨⟨start, gradient⟩, position⟩
      return ⟨state.multipliers, iterations⟩

/-- The solution of the model of planes that belongs to multipliers. -/
def modelSolution? (gradients offsets : Tensor Float) (tradeoff : Float) (nonnegative : Bool)
    (solution : ArraySolution Float) : Except Error (ModelSolution Float) := do
  let free := (← (gradients.transpose.product? solution.multipliers).mapError .fault).map (- ·)
  let weights := if nonnegative then free.map positivePart else free
  if !Linear.allFinite weights.entries then throw .weightsNotFinite
  let halfNorm := half * (← (weights.inner? weights).mapError .fault)
  let values ← (Tensor.zipWith? (· + ·) (← (gradients.product? weights).mapError .fault)
    offsets).mapError .fault
  let some bound := Selection.maximum? values.entries | throw (.fault .badValue)
  let product ← (solution.multipliers.inner? offsets).mapError .fault
  return {
    weights := weights.entries
    dual := solution.multipliers.entries
    dualValue := product - halfNorm
    primalValue := halfNorm + tradeoff * bound
    iterations := solution.iterations }

/-- The model of planes that arrays describe if they fit together, with the inner
products of the gradients. -/
def modelOf? (gradients offsets : Tensor K) (tradeoff : K) (gram : Option (Tensor K)) :
    Option (PlaneModel K × List (List K)) := do
  let offsets ← offsets.vector?
  let (dimension, rows) ← gradients.rows?
  let count := offsets.length
  let products ←
    match gram with
    | none => pure (Linear.gram rows)
    | some gram =>
        if gram.shape = [count, count] then pure (Tensor.pieces count count gram.entries)
        else failure
  if rows.length = count then return (⟨dimension, rows, offsets, tradeoff⟩, products) else failure

/-- Solve the model of planes that arrays describe, whether they fit together or not. -/
def solveAnyPlanes? (gradients offsets : Tensor Float) (tradeoff : Float)
    (gram : Option (Tensor Float)) (nonnegative : Bool) (initial : Option (Tensor Float))
    (limits : Limits) : Except Error (ModelSolution Float) := do
  let solution ← Except.mapError .fault
    (if nonnegative then solveNonnegative? gradients offsets tradeoff initial limits
    else do
      let gram ← gram.elim (gradients.product? gradients.transpose) pure
      solveSimplex? gram offsets tradeoff initial limits)
  modelSolution? gradients offsets tradeoff nonnegative solution

/-- The model of planes for arrays; inner products are computed unless given, and play
no part if weights must not be negative. -/
def solvePlanes? (gradients offsets : Tensor Float) (tradeoff : Float)
    (gram : Option (Tensor Float)) (nonnegative : Bool) (initial : Option (Tensor Float))
    (limits : Limits) : Except Error (ModelSolution Float) := do
  let gram := if nonnegative then none else gram
  match modelOf? gradients offsets tradeoff gram,
      initial.all fun start => start.shape.length == 1 with
  | some (model, products), true =>
      if model.offsets.isEmpty then throw (.fault .divisionByZero)
      let (tolerance, cap) ← limits.resolve?.mapError .fault
      model.solve? products
        ⟨nonnegative, vectorStart model.offsets.length initial, tolerance, cap⟩
  | _, _ => solveAnyPlanes? gradients offsets tradeoff gram nonnegative initial limits

end HingeRank.Dual
