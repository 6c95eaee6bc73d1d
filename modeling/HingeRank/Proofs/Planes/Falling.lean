import Mathlib
import HingeRank.Proofs.Dual.Termination
import HingeRank.Proofs.Planes.Duality

/-!
# Starts of the plane model

What a solution gains on its start, solving in parts, and planes of which none rises.
-/

namespace HingeRank

open Linear

/-!
## Solutions that start from multipliers

Multipliers are worth the value that no weights of the model undercut.  Both solvers raise this
worth with every move, and feasible multipliers are a start that they take as it is.

If at the weights of the start some plane lies above what the start is worth, by more than the
tolerance, then the start is not settled.  So there is a move, and the solution is worth more.
-/

theorem Linear.entry_gram {rows : List (List ℚ)} {i j : Nat} (iBounds : i < rows.length)
    (jBounds : j < rows.length) :
    entry (row (gram rows) i) j = dot (row rows i) (row rows j) := by
  simp only [gram, row, entry, List.getD_eq_getElem?_getD, List.getElem?_map, iBounds, jBounds,
    List.getElem?_eq_getElem, Option.map_some, Option.getD_some]

/-- Inner products do not depend on the order of their sides. -/
theorem Linear.gram_symmetric (rows : List (List ℚ)) :
    Dual.Simplex.Symmetric (gram rows) rows.length where
  height := by simp [gram]
  width := by
    intro line member
    obtain ⟨row, -, rfl⟩ := List.mem_map.mp member
    exact List.length_map _
  entry_comm := by
    intro i iBounds j jBounds
    rw [entry_gram iBounds jBounds, entry_gram jBounds iBounds, dot_comm]

namespace PlaneModel

variable {model : PlaneModel ℚ} {options : ModelOptions ℚ} {solution : ModelSolution ℚ}
  {start : List ℚ}

/-- The value of multipliers at the weights that belong to them. -/
def worth (model : PlaneModel ℚ) (nonnegative : Bool) (multipliers : List ℚ) : ℚ :=
  model.dualValue multipliers (model.weightsOf nonnegative multipliers)

/-- What the ascent over the inner products of the gradients raises. -/
theorem worth_gram (wellFormed : model.WellFormed) :
    Dual.Simplex.worth (gram model.gradients) model.offsets = model.worth false := by
  funext multipliers
  rw [worth, dualValue, weightsOf_false, halfNorm_eq, dot_neg_left, dot_neg_right, neg_neg,
    dot_combine multipliers wellFormed.aligned, ← apply_gram wellFormed.aligned,
    Dual.Simplex.worth]
  ring

/-- Both solvers raise the worth of the multipliers on their way from the start. -/
theorem climb_rises (wellFormed : model.WellFormed) (options : ModelOptions ℚ)
    (nonneg : 0 ≤ options.tolerance) :
    ∃ way, Dual.Rises model.offsets.length model.tradeoff (model.worth options.nonnegative)
      (Dual.feasibleStart model.offsets.length model.tradeoff options.initialDual) way
      (model.climb (gram model.gradients) options) := by
  have nonempty : model.offsets ≠ [] := List.ne_nil_of_length_pos wellFormed.nonempty
  unfold climb
  cases options.nonnegative with
  | false =>
      have symmetric := gram_symmetric model.gradients
      rw [wellFormed.square] at symmetric
      rw [← worth_gram wellFormed]
      exact ⟨_, Dual.Simplex.solve_rises symmetric nonempty wellFormed.tradeoff_pos nonneg _ _⟩
  | true =>
      exact ⟨_, Dual.Nonnegative.Problem.solve_rises wellFormed.problem nonempty
        wellFormed.tradeoff_pos nonneg options.initialDual options.cap⟩

/-- **A start that is not settled is left for something better**: if some plane lies so high above
the worth of feasible multipliers, then the solution that starts from them is worth more. -/
theorem worth_lt_dualValue (wellFormed : model.WellFormed) (nonneg : 0 ≤ options.tolerance)
    (cap_pos : 0 < options.cap) (starts : options.initialDual = some start)
    (feasible : Dual.Feasible model.offsets.length model.tradeoff start) {plane : ℚ}
    (member : plane ∈ model.planeValues (model.weightsOf options.nonnegative start))
    (above : model.worth options.nonnegative start + options.tolerance <
      halfNorm (model.weightsOf options.nonnegative start) + model.tradeoff * plane)
    (solves : model.solve? (gram model.gradients) options = .ok solution) :
    model.worth options.nonnegative start < solution.dualValue := by
  obtain ⟨other, found, solved⟩ := solve?_solved wellFormed options nonneg
  cases found.symm.trans solves
  obtain ⟨way, rises⟩ := climb_rises wellFormed options nonneg
  have solution_eq := Except.ok.inj (solves.symm.trans (solve?_eq wellFormed _ options))
  have dual_eq : solution.dual = (model.climb (gram model.gradients) options).multipliers :=
    congrArg ModelSolution.dual solution_eq
  have iterations_eq : solution.iterations =
      (model.climb (gram model.gradients) options).iterations :=
    congrArg ModelSolution.iterations solution_eq
  have dualValue_eq : solution.dualValue = model.worth options.nonnegative solution.dual := by
    rw [solved.dualValue_eq, solved.weights_eq, worth]
  rw [starts, feasible.feasibleStart_eq wellFormed.tradeoff_pos] at rises
  rcases rises.start_or_lt with ⟨unmoved, same⟩ | less
  · -- Without a move the start is settled, so that no plane lies so high.
    rw [← dual_eq] at same
    rw [← iterations_eq] at unmoved
    have settled := solved.settled (unmoved ▸ cap_pos)
    have primalValue_eq := solved.primalValue_eq
    rw [solved.weights_eq, same] at settled primalValue_eq
    have reached := le_of_value? wellFormed primalValue_eq member
    have close := value?_le_of_settled wellFormed feasible settled primalValue_eq
    exact absurd (reached.trans close) above.not_ge
  · rw [dualValue_eq, dual_eq]
    exact less

end PlaneModel

/-!
## Solving a model in parts

Both solvers can be stopped and taken up again from the multipliers of the last solution.  As
weights and values follow from the multipliers, a model that is solved in two parts has the same
solution as one that is solved at once.
-/

namespace PlaneModel

variable {model : PlaneModel ℚ} {products : List (List ℚ)} {tolerance : ℚ}

/-- The solution in two parts of a model, in one of the two spaces, is its solution at once. -/
structure SolvesInParts (model : PlaneModel ℚ) (products : List (List ℚ)) (nonnegative : Bool)
    (tolerance : ℚ) (initial : Option (List ℚ)) (first second : Nat)
    (begun resumed : ModelSolution ℚ) : Prop where
  begins : model.solve? products ⟨nonnegative, initial, tolerance, first⟩ = .ok begun
  resumes : model.solve? products ⟨nonnegative, some begun.dual, tolerance, second⟩ = .ok resumed
  add : model.solve? products ⟨nonnegative, initial, tolerance, first + second⟩ =
    .ok { resumed with iterations := begun.iterations + resumed.iterations }
  /-- After an early end there is nothing left to do. -/
  settled : begun.iterations < first → resumed = { begun with iterations := 0 }

/-- The ascent in either space can be taken up again. -/
theorem climb_resumes (wellFormed : model.WellFormed)
    (height : products.length = model.offsets.length) (nonneg : 0 ≤ tolerance)
    (nonnegative : Bool) :
    Dual.Resumes fun initial cap =>
      model.climb products ⟨nonnegative, initial, tolerance, cap⟩ := by
  cases nonnegative with
  | false =>
      exact Dual.Simplex.solve_resumes wellFormed.tradeoff_pos nonneg height wellFormed.nonempty
  | true =>
      exact Dual.Nonnegative.Problem.solve_resumes wellFormed.tradeoff_pos nonneg wellFormed.problem
        wellFormed.nonempty

theorem exists_solvesInParts (wellFormed : model.WellFormed)
    (height : products.length = model.offsets.length) (nonneg : 0 ≤ tolerance) (nonnegative : Bool)
    (initial : Option (List ℚ)) (first second : Nat) :
    ∃ begun resumed, model.SolvesInParts products nonnegative tolerance initial first second begun
      resumed := by
  have climbs := climb_resumes wellFormed height nonneg nonnegative
  refine ⟨_, _, solve?_eq wellFormed _ _, solve?_eq wellFormed _ _, ?_, ?_⟩
  case refine_1 =>
    rw [solve?_eq wellFormed, climbs.add initial first second]
    rfl
  case refine_2 =>
    intro early
    have unmoved := climbs.settled initial first second early
    exact congrArg (model.solutionOf nonnegative) unmoved

/-- **Solving composes**: both solvers, stopped after some moves and started again from the
multipliers they have arrived at, end where they would have ended without the stop and need as many
moves.  So does the solution of a model, in either space, whether or not the products are those of
its gradients. -/
theorem solves_in_parts (wellFormed : model.WellFormed)
    (height : products.length = model.offsets.length) (nonneg : 0 ≤ tolerance) :
    (Dual.Resumes fun initial cap =>
      Dual.Simplex.solve products model.offsets model.tradeoff initial tolerance cap) ∧
    (Dual.Resumes fun initial cap =>
      model.problem.solve model.tradeoff initial tolerance cap) ∧
    ∀ nonnegative initial first second, ∃ begun resumed,
      model.SolvesInParts products nonnegative tolerance initial first second begun resumed :=
  ⟨climb_resumes wellFormed height nonneg false, climb_resumes wellFormed height nonneg true,
    exists_solvesInParts wellFormed height nonneg⟩

/-- Weights that must not be negative, with a start that has a negative entry: stopped after one
move and started again, the ascent makes the other two of its three moves. -/
theorem solves_in_parts_warm :
    let model : PlaneModel ℚ := ⟨2, [[1, -1], [-1, 2], [0, 0]], [0, 1, 0], 2⟩
    let products := gram model.gradients
    model.WellFormed ∧ products.length = model.offsets.length ∧ (0 : ℚ) ≤ 1 / 10 ∧
      ∃ begun resumed,
        model.SolvesInParts products true (1 / 10) (some [-1, 3, 1]) 1 99 begun resumed ∧
        begun.iterations = 1 ∧ resumed.iterations = 2 ∧ resumed.weights = [1 / 2, 0] := by
  intro model products
  have wellFormed : model.WellFormed := ⟨rfl, by decide, by decide, by decide⟩
  have nonneg : (0 : ℚ) ≤ 1 / 10 := by decide +kernel
  have parts := (solves_in_parts wellFormed (show products.length = _ from rfl) nonneg).2.2
  obtain ⟨begun, resumed, inParts⟩ := parts true (some [-1, 3, 1]) 1 99
  have begins : model.solve? products ⟨true, some [-1, 3, 1], 1 / 10, 1⟩ =
      .ok ⟨[1 / 2, 0], [1 / 2, 1, 1 / 2], 7 / 8, 9 / 8, 1⟩ := by
    cbv
  have resumes : model.solve? products ⟨true, some [1 / 2, 1, 1 / 2], 1 / 10, 99⟩ =
      .ok ⟨[1 / 2, 0], [3 / 4, 5 / 4, 0], 9 / 8, 9 / 8, 2⟩ := by
    cbv
  cases inParts.begins.symm.trans begins
  cases inParts.resumes.symm.trans resumes
  exact ⟨wellFormed, rfl, nonneg, _, _, inParts, rfl, rfl, rfl⟩

end PlaneModel

/-!
## Where weights cannot become negative

If no plane rises in any direction, then the weights that belong to multipliers are not negative
anyway, and both solvers look for the same optimum.  They go about it differently: one keeps a
gradient and knows the vertex of a parabola, the other keeps a position and walks over its sign
changes.  Yet they make the same moves.  Seen through the values of the planes, the position is the
gradient, and as no sign changes up to the end of a move, the line of the walk is the slope of the
parabola all the way.
-/

namespace Dual

/-! ### Two climbs in step -/

/-- If every advance looks like an advance of another kind, then so does a whole climb. -/
theorem climb_map {σ τ : Type} {advance? : σ → Option σ} {image? : τ → Option τ} {view : σ → τ}
    {Invariant : σ → Prop}
    (kept : ∀ state next, Invariant state → advance? state = some next → Invariant next)
    (alike : ∀ state, Invariant state → image? (view state) = (advance? state).map view)
    (cap taken : Nat) (state : σ) (holds : Invariant state) :
    climb image? cap taken (view state) =
      (view (climb advance? cap taken state).1, (climb advance? cap taken state).2) := by
  induction cap generalizing taken state with
  | zero => rfl
  | succ cap ih =>
      unfold climb
      rw [alike state holds]
      cases advanced : advance? state with
      | none => rfl
      | some next => exact ih (taken + 1) next (kept state next holds advanced)

/-! ### Line searches without sign changes -/

namespace LineSearch

variable {components : List (Component ℚ)} {component : Component ℚ} {gain upper : ℚ}

/-- The component is not negative from the start to the upper bound. -/
structure Component.Stays (component : Component ℚ) (upper : ℚ) : Prop where
  begins : 0 ≤ component.value
  ends : 0 ≤ component.value - upper * component.rate

namespace Component.Stays

theorem crossing?_eq (stays : component.Stays upper) : component.crossing? upper = none := by
  by_cases still : component.rate = 0
  · exact crossing?_of_still still
  rw [crossing?_of_moving still, if_neg]
  rintro ⟨late, early⟩
  have falls : 0 < component.rate := by
    by_contra grows
    exact late.not_ge (div_nonpos_of_nonneg_of_nonpos stays.begins (not_lt.mp grows))
  have gone := (div_lt_iff₀ falls).mp early
  exact (sub_neg.mpr gone).not_ge stays.ends

/-- A component that is not active has nothing to lose and does not grow. -/
theorem rate_eq (stays : component.Stays upper) (positive : 0 < upper)
    (inactive : component.isActive = false) : component.rate = 0 := by
  rw [← Bool.not_eq_true, isActive_iff, not_or, not_and, not_lt, not_lt] at inactive
  rcases inactive with ⟨notAbove, notFalling⟩
  have value_eq := le_antisymm notAbove stays.begins
  have ends := stays.ends
  rw [value_eq, zero_sub, neg_nonneg] at ends
  exact le_antisymm (nonpos_of_mul_nonpos_right ends positive) (notFalling value_eq)

end Component.Stays

theorem stays_of_nonneg {values rates : List ℚ} (begins : ∀ value ∈ values, 0 ≤ value)
    (ends : ∀ value ∈ sub values (scale upper rates), 0 ≤ value) :
    ∀ component ∈ List.zipWith Component.mk values rates, component.Stays upper := by
  have ends_eq : sub values (scale upper rates) =
      (List.zipWith Component.mk values rates).map fun component =>
        component.value - upper * component.rate := by
    simp only [sub, scale, List.zipWith_map_right, List.map_zipWith]
  rw [ends_eq] at ends
  intro component member
  refine ⟨?_, ends _ (List.mem_map_of_mem member)⟩
  obtain ⟨value, valueMem, rate, -, rfl⟩ := exists_of_mem_zipWith member
  exact begins value valueMem

theorem crossings_eq_nil (stay : ∀ component ∈ components, component.Stays upper) :
    crossings upper components = [] := by
  have none : components.filterMap (·.crossing? upper) = [] :=
    List.filterMap_eq_nil_iff.mpr fun component member => (stay component member).crossing?_eq
  rw [crossings_eq, none, List.mergeSort_nil]

/-- The line falls with the squared length of all rates. -/
theorem initial_fall (stay : ∀ component ∈ components, component.Stays upper)
    (positive : 0 < upper) (gain : ℚ) :
    (Slope.initial gain components).fall =
      dot (components.map (·.rate)) (components.map (·.rate)) := by
  rw [fall_initial, dot_map_map]
  refine congrArg List.sum (List.map_congr_left fun component member => ?_)
  cases active : component.isActive with
  | true => rfl
  | false =>
      rw [(stay component member).rate_eq positive active, mul_zero, if_neg Bool.false_ne_true]

theorem initial_level (nonneg : 0 ≤ upper) (gain : ℚ) (components : List (Component ℚ)) :
    (Slope.initial gain components).level = slopeAt components gain 0 := by
  rw [(initial_tracks nonneg gain components).slopeAt_time, Slope.valueAt, zero_mul, sub_zero]

/-- Without sign changes the walk ends at the vertex of a parabola. -/
theorem walk_nil {slope : Slope ℚ} (rising : 0 < slope.level) (upper : ℚ) :
    walk upper 0 slope [] = Simplex.bestStep slope.level slope.fall upper := by
  unfold walk Simplex.bestStep
  by_cases falls : 0 < slope.fall
  · have vertex := (div_pos rising falls).le
    rw [if_pos falls, if_neg falls.not_ge, Scalar.greater_eq_max, max_eq_left vertex]
  · rw [if_neg falls, if_pos rising, if_pos (not_lt.mp falls)]

/-- As long as no component becomes negative the best step is that of a parabola. -/
theorem bestStep_eq {values rates : List ℚ} (equal : values.length = rates.length)
    (stay : ∀ component ∈ List.zipWith Component.mk values rates, component.Stays upper)
    (positive : 0 < upper) {spread : ℚ} (rising : 0 < spread)
    (spread_eq : slopeAt (List.zipWith Component.mk values rates) gain 0 = spread) :
    bestStep values rates gain upper = Simplex.bestStep spread (dot rates rates) upper := by
  have level_eq := (initial_level positive.le gain _).trans spread_eq
  have fall_eq := initial_fall stay positive gain
  rw [map_rate_zipWith equal] at fall_eq
  rw [bestStep, crossings_eq_nil stay, walk_nil (level_eq ▸ rising), level_eq, fall_eq]

end LineSearch

end Dual

/-! ### Positions that are not negative -/

namespace Linear

theorem nonpos_of_mem_foldl_add {rows : List (List ℚ)} {start : List ℚ}
    (start_nonpos : ∀ value ∈ start, value ≤ 0)
    (rows_nonpos : ∀ row ∈ rows, ∀ value ∈ row, value ≤ 0) :
    ∀ value ∈ rows.foldl add start, value ≤ 0 := by
  induction rows generalizing start with
  | nil => exact start_nonpos
  | cons row rows ih =>
      refine ih ?_ fun other member => rows_nonpos other (List.mem_cons_of_mem _ member)
      intro value member
      obtain ⟨left, leftMem, right, rightMem, rfl⟩ := exists_of_mem_zipWith member
      exact add_nonpos (start_nonpos _ leftMem) (rows_nonpos row List.mem_cons_self _ rightMem)

/-- Rows without positive components have no combination with positive ones. -/
theorem neg_combine_nonneg {rows : List (List ℚ)} {coefficients : List ℚ}
    (rows_nonpos : ∀ row ∈ rows, ∀ value ∈ row, value ≤ 0)
    (nonneg : ∀ coefficient ∈ coefficients, 0 ≤ coefficient) (dimension : Nat) :
    ∀ value ∈ neg (combine dimension coefficients rows), 0 ≤ value := by
  intro value member
  obtain ⟨sum, sumMem, rfl⟩ := List.mem_map.mp member
  refine neg_nonneg.mpr (nonpos_of_mem_foldl_add ?_ ?_ sum sumMem)
  · intro zero member
    exact (List.eq_of_mem_replicate member).le
  · intro scaled member value valueMem
    obtain ⟨coefficient, coefficientMem, row, rowMem, rfl⟩ := exists_of_mem_zipWith member
    obtain ⟨original, originalMem, rfl⟩ := List.mem_map.mp valueMem
    exact mul_nonpos_of_nonneg_of_nonpos (nonneg _ coefficientMem)
      (rows_nonpos _ rowMem _ originalMem)

end Linear

namespace PlaneModel

variable {model : PlaneModel ℚ} {multipliers : List ℚ} {state next : Dual.Nonnegative.State ℚ}
  {tolerance : ℚ}

/-- No plane rises in any direction. -/
def Falls (model : PlaneModel ℚ) : Prop :=
  ∀ gradient ∈ model.gradients, ∀ slope ∈ gradient, slope ≤ 0

/-- The weights that belong to feasible multipliers are not negative anyway. -/
theorem Falls.weightsOf_true (falls : model.Falls)
    (feasible : Dual.Feasible model.offsets.length model.tradeoff multipliers) :
    model.weightsOf true multipliers = model.weightsOf false multipliers :=
  map_positivePart (neg_combine_nonneg falls feasible.nonneg model.dimension)

/-! ### Moves in step -/

/-- A state with a position, seen through the values of the planes. -/
def throughValues (model : PlaneModel ℚ) (state : Dual.Nonnegative.State ℚ) :
    Dual.Simplex.State ℚ :=
  ⟨state.multipliers, model.problem.values state.position⟩

/-- The values of the planes are the gradient that the other solver knows. -/
theorem throughValues_eq (wellFormed : model.WellFormed) (falls : model.Falls)
    (consistent : model.problem.Consistent model.tradeoff state) :
    model.throughValues state =
      .at (gram model.gradients) model.offsets state.multipliers := by
  have position_nonneg := neg_combine_nonneg falls consistent.feasible.nonneg model.dimension
  rw [throughValues, Dual.Simplex.State.at, sub_apply_gram wellFormed,
    Dual.Nonnegative.Problem.values, consistent.position_eq]
  rw [problem, map_positivePart position_nonneg, Linear.add_comm]
  rfl

/-- The bend of a move is the squared length of its direction. -/
theorem curvature_gram (wellFormed : model.WellFormed) {raised lowered : Nat}
    (raised_lt : raised < model.offsets.length) (lowered_lt : lowered < model.offsets.length) :
    Dual.Simplex.curvature (gram model.gradients) raised lowered =
      dot (model.problem.direction raised lowered) (model.problem.direction raised lowered) := by
  have raisedLength := wellFormed.problem.length_row raised_lt
  have loweredLength := wellFormed.problem.length_row lowered_lt
  have equal := raisedLength.trans loweredLength.symm
  rw [← wellFormed.square] at raised_lt lowered_lt
  rw [Dual.Nonnegative.Problem.direction, dot_sub_left equal, dot_sub_right equal,
    dot_sub_right equal, Dual.Simplex.curvature]
  simp only [entry_gram, raised_lt, lowered_lt]
  rw [dot_comm (row model.problem.gradients lowered)]
  simp only [problem]
  ring

/-- Up to the end of a move no component of the position becomes negative. -/
theorem stays (wellFormed : model.WellFormed) (falls : model.Falls)
    (consistent : model.problem.Consistent model.tradeoff state) {raised lowered : Nat}
    (raised_lt : raised < model.offsets.length) (lowered_lt : lowered < model.offsets.length)
    (distinct : raised ≠ lowered) :
    ∀ component ∈ List.zipWith Dual.LineSearch.Component.mk state.position
        (model.problem.direction raised lowered),
      component.Stays (entry state.multipliers lowered) := by
  have feasible := consistent.feasible
  have held_nonneg := feasible.entry_nonneg lowered
  have moved := Dual.move_feasible feasible raised_lt lowered_lt distinct held_nonneg le_rfl
  have begins := neg_combine_nonneg falls feasible.nonneg model.problem.dimension
  have ends := neg_combine_nonneg falls moved.nonneg model.problem.dimension
  have carried := Dual.Nonnegative.Problem.neg_combine_move wellFormed.problem
    (feasible.length_eq.trans wellFormed.square.symm) (feasible.length_eq.symm ▸ raised_lt)
    (feasible.length_eq.symm ▸ lowered_lt) (entry state.multipliers lowered)
  rw [← consistent.position_eq] at carried
  refine Dual.LineSearch.stays_of_nonneg ?_ ?_
  · rw [consistent.position_eq]
    exact begins
  · rw [Dual.Nonnegative.Problem.direction, ← carried]
    exact ends

/-- Both line searches end at the same step. -/
theorem bestStep_eq (wellFormed : model.WellFormed) (falls : model.Falls)
    (consistent : model.problem.Consistent model.tradeoff state) {transfer : Dual.Transfer ℚ}
    (chosen : transfer.Chosen state.multipliers (model.problem.values state.position))
    (rising : 0 < transfer.spread) :
    Dual.LineSearch.bestStep state.position
        (model.problem.direction transfer.raised transfer.lowered)
        (model.problem.offsetGain transfer.raised transfer.lowered)
        (entry state.multipliers transfer.lowered) =
      Dual.Simplex.bestStep transfer.spread
        (Dual.Simplex.curvature (gram model.gradients) transfer.raised transfer.lowered)
        (entry state.multipliers transfer.lowered) := by
  have lengths := Dual.Nonnegative.Problem.length_values wellFormed.problem state.position
  have raised_lt := lengths ▸ chosen.raised_lt
  have lowered_lt := lengths ▸ chosen.lowered_lt
  have distinct := chosen.raised_ne_lowered rising
  have positionLength := consistent.length_position wellFormed.problem
  have directionLength :=
    Dual.Nonnegative.Problem.length_direction wellFormed.problem raised_lt lowered_lt
  have begins := Dual.Nonnegative.Problem.slopeAt_zero wellFormed.problem raised_lt lowered_lt
    positionLength
  rw [curvature_gram wellFormed raised_lt lowered_lt]
  exact Dual.LineSearch.bestStep_eq (positionLength.trans directionLength.symm)
    (stays wellFormed falls consistent raised_lt lowered_lt distinct) chosen.lowered_pos rising
    (begins.trans chosen.spread_eq.symm)

/-- Both solvers make the same move. -/
theorem advance?_throughValues (wellFormed : model.WellFormed) (falls : model.Falls)
    (nonneg : 0 ≤ tolerance) (consistent : model.problem.Consistent model.tradeoff state) :
    Dual.Simplex.advance? (gram model.gradients) model.tradeoff tolerance
        (model.throughValues state) =
      (model.problem.advance? model.tradeoff tolerance state).map model.throughValues := by
  have positive := wellFormed.tradeoff_pos
  rw [Dual.Simplex.advance?, throughValues]
  cases advanced : model.problem.advance? model.tradeoff tolerance state with
  | none => exact if_pos (Dual.Nonnegative.Problem.advance?_eq_none advanced)
  | some next =>
      have later := Dual.Nonnegative.Problem.advance_consistent wellFormed.problem positive nonneg
        consistent advanced
      obtain ⟨worthwhile, rfl⟩ := Dual.Nonnegative.Problem.advance?_eq_some advanced
      have feasible := consistent.feasible
      have lengths := Dual.Nonnegative.Problem.length_values wellFormed.problem state.position
      have chosen := Dual.choose_chosen feasible positive lengths
      have rising := Dual.Transfer.Chosen.spread_pos positive nonneg worthwhile
      have step_eq := bestStep_eq wellFormed falls consistent chosen rising
      have gradient_eq : model.problem.values state.position =
          sub model.offsets (apply (gram model.gradients) state.multipliers) :=
        congrArg (·.gradient) (throughValues_eq wellFormed falls consistent)
      have equal := lengths.trans feasible.length_eq.symm
      dsimp only [Dual.Nonnegative.Problem.direction, Dual.Nonnegative.Problem.offsetGain]
        at step_eq
      rw [Option.map_some, throughValues_eq wellFormed falls later, Dual.Simplex.State.at, step_eq,
        Dual.Simplex.sub_apply_move (equal ▸ chosen.raised_lt) (equal ▸ chosen.lowered_lt),
        ← gradient_eq]
      dsimp only
      rw [worthwhile, if_neg Bool.false_ne_true]

/-- Both solvers arrive at the same multipliers after as many moves. -/
theorem climb_eq_of_falls (wellFormed : model.WellFormed) (falls : model.Falls)
    (nonneg : 0 ≤ tolerance) (initial : Option (List ℚ)) (cap : Nat) :
    model.climb (gram model.gradients) ⟨false, initial, tolerance, cap⟩ =
      model.climb (gram model.gradients) ⟨true, initial, tolerance, cap⟩ := by
  have nonempty := wellFormed.nonempty
  have positive := wellFormed.tradeoff_pos
  let start :=
    model.problem.stateAt (Dual.feasibleStart model.offsets.length model.tradeoff initial)
  have consistent : model.problem.Consistent model.tradeoff start :=
    ⟨Dual.feasibleStart_feasible nonempty positive.le initial, rfl⟩
  have climbs := Dual.climb_map
    (fun state next =>
      Dual.Nonnegative.Problem.advance_consistent wellFormed.problem positive nonneg)
    (fun state => advance?_throughValues wellFormed falls nonneg) cap 0 start consistent
  rw [throughValues_eq wellFormed falls consistent] at climbs
  exact congrArg (fun climbed => (⟨climbed.1.multipliers, climbed.2⟩ : Dual.Solution ℚ)) climbs

/-- **Where no plane rises, weights that must not be negative are no different**: with either
setting a model has the same solution, from any start and with any cap. -/
theorem solve?_of_falls (wellFormed : model.WellFormed) (falls : model.Falls)
    (products : Option (Tensor ℚ))
    (given : products = none ∨
      products = some (.ofRows model.offsets.length (gram model.gradients)))
    (options : ModelOptions ℚ) (nonneg : 0 ≤ options.tolerance) :
    ∃ read solution,
      Dual.modelOf? (.ofRows model.dimension model.gradients) (.vector model.offsets)
        model.tradeoff products = some (model, read) ∧
      model.solve? read { options with nonnegative := true } = .ok solution ∧
      model.solve? read { options with nonnegative := false } = .ok solution := by
  refine ⟨_, _, modelOf?_ofRows wellFormed given, solve?_eq wellFormed _ _, ?_⟩
  rw [solve?_eq wellFormed, climb_eq_of_falls wellFormed falls nonneg]
  obtain ⟨feasible, -⟩ := climb_feasible wellFormed { options with nonnegative := true } nonneg
  simp only [solutionOf, falls.weightsOf_true feasible]

/-- Two of three planes are parallel, so that a move between them does not bend the objective, and
two are level in one direction. -/
theorem solve?_of_falls_parallel :
    let model : PlaneModel ℚ := ⟨2, [[-1, 0], [-1, -2], [-1, 0]], [1 / 2, 2, 0], 1⟩
    let options : ModelOptions ℚ := ⟨true, none, 0, 100⟩
    model.WellFormed ∧ model.Falls ∧ 0 ≤ options.tolerance ∧
      ∃ solution,
        model.solve? (gram model.gradients) options = .ok solution ∧
        model.solve? (gram model.gradients) { options with nonnegative := false } = .ok solution ∧
        solution.weights = [1, 3 / 4] ∧ solution.dual = [5 / 8, 3 / 8, 0] ∧
        solution.iterations = 3 := by
  intro model options
  have wellFormed : model.WellFormed := ⟨rfl, by decide, by decide, by decide⟩
  have falls : model.Falls := by
    unfold Falls
    decide
  have found : model.solve? (gram model.gradients) options =
      .ok ⟨[1, 3 / 4], [5 / 8, 3 / 8, 0], 9 / 32, 9 / 32, 3⟩ := by
    cbv
  obtain ⟨read, solution, reads, solves, same⟩ :=
    solve?_of_falls wellFormed falls _ (.inr rfl) options le_rfl
  cases (modelOf?_ofRows wellFormed (.inr rfl)).symm.trans reads
  cases found.symm.trans solves
  exact ⟨wellFormed, falls, le_rfl, _, found, same, rfl, rfl, rfl⟩

end PlaneModel

end HingeRank
