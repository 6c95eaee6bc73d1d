import Mathlib
import HingeRank.Dual.Arrays
import HingeRank.Proofs.Dual.Nonnegative
import HingeRank.Proofs.Dual.Simplex
import HingeRank.Proofs.Planes.Shape

/-!
# Solutions of the plane model

Duality of the plane model, and what it certifies about a solution.
-/

namespace HingeRank

open Linear

/-!
## Duality of the plane model

Feasible multipliers have a value that the model does not undercut at any admissible
weights; the distance from the weights that belong to the multipliers is paid for on top
of it.  At settled multipliers the model exceeds this value by the tolerance at most.

Both halves rest on one relation between multipliers and their weights, which holds
with and without the constraint that weights must not be negative.
-/

/-- Weights of the given dimension, none of them negative if that is asked for. -/
structure Linear.Admissible (nonnegative : Bool) (dimension : Nat) (weights : List ℚ) : Prop where
  length_eq : weights.length = dimension
  nonneg : nonnegative = true → ∀ weight ∈ weights, 0 ≤ weight

namespace PlaneModel

variable {model : PlaneModel ℚ} {nonnegative : Bool} {multipliers weights : List ℚ}

/-- One offset for each gradient, gradients in one space, and a plane at least. -/
structure WellFormed (model : PlaneModel ℚ) : Prop where
  square : model.gradients.length = model.offsets.length
  aligned : ∀ gradient ∈ model.gradients, gradient.length = model.dimension
  nonempty : 0 < model.offsets.length
  tradeoff_pos : 0 < model.tradeoff

/-- The planes as the solver for weights that must not be negative takes them. -/
def problem (model : PlaneModel ℚ) : Dual.Nonnegative.Problem ℚ :=
  ⟨model.dimension, model.gradients, model.offsets⟩

theorem WellFormed.problem (wellFormed : model.WellFormed) : model.problem.WellFormed :=
  ⟨wellFormed.square, wellFormed.aligned⟩

@[simp] theorem length_planeValues (wellFormed : model.WellFormed) (weights : List ℚ) :
    (model.planeValues weights).length = model.offsets.length := by
  simp [planeValues, wellFormed.square]

theorem dot_planeValues (wellFormed : model.WellFormed) (multipliers weights : List ℚ) :
    dot multipliers (model.planeValues weights) =
      dot multipliers (apply model.gradients weights) + dot multipliers model.offsets :=
  dot_add_right (by simp [wellFormed.square]) _

/-! ### Weights that belong to multipliers -/

@[simp] theorem weightsOf_false (model : PlaneModel ℚ) (multipliers : List ℚ) :
    model.weightsOf false multipliers =
      neg (combine model.dimension multipliers model.gradients) := rfl

@[simp] theorem weightsOf_true (model : PlaneModel ℚ) (multipliers : List ℚ) :
    model.weightsOf true multipliers =
      (neg (combine model.dimension multipliers model.gradients)).map Scalar.positivePart := rfl

theorem weightsOf_admissible (wellFormed : model.WellFormed) (nonnegative : Bool)
    (multipliers : List ℚ) :
    Admissible nonnegative model.dimension (model.weightsOf nonnegative multipliers) := by
  refine ⟨length_weightsOf wellFormed.aligned nonnegative multipliers, ?_⟩
  rintro rfl weight member
  obtain ⟨value, -, rfl⟩ := List.mem_map.mp member
  rw [Scalar.positivePart_eq_max]
  exact le_max_right _ _

/-- Cutting a vector off at zero does not lower its product with nonnegative weights. -/
theorem dot_le_dot_positivePart (vector : List ℚ) (nonneg : ∀ weight ∈ weights, 0 ≤ weight) :
    dot vector weights ≤ dot (vector.map Scalar.positivePart) weights := by
  induction vector generalizing weights with
  | nil => simp
  | cons x vector ih =>
      cases weights with
      | nil => simp
      | cons weight weights =>
          have first : x * weight ≤ max x 0 * weight :=
            mul_le_mul_of_nonneg_right (le_max_left _ _) (nonneg weight List.mem_cons_self)
          have others := ih fun other member => nonneg other (List.mem_cons_of_mem _ member)
          simp only [List.map_cons, dot_cons_cons, Scalar.positivePart_eq_max] at others ⊢
          exact add_le_add first others

/-- A vector and its positive part have the same product with the positive part. -/
theorem dot_positivePart_self (vector : List ℚ) :
    dot vector (vector.map Scalar.positivePart) =
      dot (vector.map Scalar.positivePart) (vector.map Scalar.positivePart) := by
  induction vector with
  | nil => rfl
  | cons x vector ih =>
      have first : x * max x 0 = max x 0 * max x 0 := by
        rcases le_total x 0 with nonpos | nonneg
        · rw [max_eq_right nonpos, mul_zero, mul_zero]
        · rw [max_eq_left nonneg]
      simp only [List.map_cons, dot_cons_cons, Scalar.positivePart_eq_max] at ih ⊢
      rw [first, ih]

/-- Together with the weights that belong to the multipliers, the slopes of the planes are
not negative at any admissible weights. -/
theorem dot_weightsOf_nonneg (wellFormed : model.WellFormed) (multipliers : List ℚ)
    (admissible : Admissible nonnegative model.dimension weights) :
    0 ≤ dot (model.weightsOf nonnegative multipliers) weights +
      dot multipliers (apply model.gradients weights) := by
  have combined := dot_combine multipliers wellFormed.aligned weights
  have free : dot (neg (combine model.dimension multipliers model.gradients)) weights =
      -dot multipliers (apply model.gradients weights) := by
    rw [dot_neg_left, combined]
  cases nonnegative with
  | false =>
      rw [weightsOf_false, free, neg_add_cancel]
  | true =>
      have cut := dot_le_dot_positivePart
        (neg (combine model.dimension multipliers model.gradients)) (admissible.nonneg rfl)
      rw [free] at cut
      exact neg_le_iff_add_nonneg.mp cut

/-- At the weights that belong to the multipliers themselves the two sides cancel. -/
theorem dot_weightsOf_self (wellFormed : model.WellFormed) (nonnegative : Bool)
    (multipliers : List ℚ) :
    dot (model.weightsOf nonnegative multipliers) (model.weightsOf nonnegative multipliers) +
      dot multipliers (apply model.gradients (model.weightsOf nonnegative multipliers)) = 0 := by
  rw [← dot_combine multipliers wellFormed.aligned]
  have free (vector : List ℚ) :
      dot (combine model.dimension multipliers model.gradients) vector =
        -dot (neg (combine model.dimension multipliers model.gradients)) vector := by
    rw [dot_neg_left, neg_neg]
  rw [free]
  cases nonnegative with
  | false => exact add_neg_cancel _
  | true =>
      rw [weightsOf_true, dot_positivePart_self, add_neg_cancel]

/-! ### Both sides of the optimum -/

/-- No admissible weights undercut the value of feasible multipliers, and weights away from
those that belong to the multipliers exceed it by half their squared distance. -/
theorem dualValue_add_le (wellFormed : model.WellFormed)
    (feasible : Dual.Feasible model.offsets.length model.tradeoff multipliers)
    (admissible : Admissible nonnegative model.dimension weights) {bound : ℚ}
    (above : ∀ value ∈ model.planeValues weights, value ≤ bound) :
    model.dualValue multipliers (model.weightsOf nonnegative multipliers) +
        halfNorm (sub weights (model.weightsOf nonnegative multipliers)) ≤
      halfNorm weights + model.tradeoff * bound := by
  have spread := dot_le_sum_mul
    (feasible.length_eq.trans (length_planeValues wellFormed weights).symm) feasible.nonneg above
  rw [feasible.sum_eq, dot_planeValues wellFormed] at spread
  have crossed := dot_weightsOf_nonneg wellFormed multipliers admissible
  have equal : weights.length = (model.weightsOf nonnegative multipliers).length := by
    rw [admissible.length_eq, length_weightsOf wellFormed.aligned]
  simp only [dualValue, halfNorm_eq, dot_sub_left equal, dot_sub_right equal,
    dot_comm weights (model.weightsOf nonnegative multipliers)]
  linarith

/-- No admissible weights undercut the value of feasible multipliers. -/
theorem dualValue_le (wellFormed : model.WellFormed)
    (feasible : Dual.Feasible model.offsets.length model.tradeoff multipliers)
    (admissible : Admissible nonnegative model.dimension weights) {bound : ℚ}
    (above : ∀ value ∈ model.planeValues weights, value ≤ bound) :
    model.dualValue multipliers (model.weightsOf nonnegative multipliers) ≤
      halfNorm weights + model.tradeoff * bound := by
  have strong := dualValue_add_le wellFormed feasible admissible above
  have distance := halfNorm_nonneg (sub weights (model.weightsOf nonnegative multipliers))
  linarith

/-- The value of the model, in terms of its largest plane. -/
theorem value?_eq (wellFormed : model.WellFormed) (weights : List ℚ) :
    model.value? weights = some (halfNorm weights + model.tradeoff *
      entry (model.planeValues weights) (Selection.largest (model.planeValues weights))) := by
  have nonempty : model.planeValues weights ≠ [] := by
    rw [← List.length_pos_iff, length_planeValues wellFormed]
    exact wellFormed.nonempty
  rw [value?, (Selection.largest_greatest nonempty).2.1]
  rfl

/-- The planes reach up to the value of the model. -/
theorem le_of_value? (wellFormed : model.WellFormed) {value : ℚ}
    (found : model.value? weights = some value) {plane : ℚ}
    (member : plane ∈ model.planeValues weights) :
    halfNorm weights + model.tradeoff * plane ≤ value := by
  rw [value?_eq wellFormed] at found
  rw [← Option.some.inj found]
  have atMost := (Selection.largest_greatest (List.ne_nil_of_mem member)).2.2 plane member
  have weighed := mul_le_mul_of_nonneg_left atMost wellFormed.tradeoff_pos.le
  linarith

/-- At settled multipliers the model is close to their value. -/
theorem value?_le_of_settled (wellFormed : model.WellFormed) {tolerance value : ℚ}
    (feasible : Dual.Feasible model.offsets.length model.tradeoff multipliers)
    (settled : Dual.Settled model.tradeoff tolerance multipliers
      (model.planeValues (model.weightsOf nonnegative multipliers)))
    (found : model.value? (model.weightsOf nonnegative multipliers) = some value) :
    value ≤ model.dualValue multipliers (model.weightsOf nonnegative multipliers) + tolerance := by
  rw [value?_eq wellFormed] at found
  rw [← Option.some.inj found]
  have gain := settled.total_mul_le feasible wellFormed.tradeoff_pos
    (length_planeValues wellFormed _)
  rw [dot_planeValues wellFormed] at gain
  have cancel := dot_weightsOf_self wellFormed nonnegative multipliers
  rw [dualValue, halfNorm_eq]
  linarith

/-! ### Solving the model -/

/-- Values of planes at the weights that belong to multipliers, as the ascent over the inner
products of the gradients knows them. -/
theorem sub_apply_gram (wellFormed : model.WellFormed) (multipliers : List ℚ) :
    sub model.offsets (apply (gram model.gradients) multipliers) =
      model.planeValues (model.weightsOf false multipliers) := by
  rw [apply_gram wellFormed.aligned, planeValues, weightsOf_false]
  generalize combine model.dimension multipliers model.gradients = combined
  have each (row : List ℚ) : dot row (neg combined) = -dot row combined :=
    dot_neg_right row combined
  simp only [sub, add, apply, List.zipWith_map_right, List.zipWith_map_left, each]
  rw [List.zipWith_comm]
  congr 1
  funext row offset
  ring

/-- What every solution of a well-formed model satisfies. -/
structure Solved (model : PlaneModel ℚ) (options : ModelOptions ℚ) (solution : ModelSolution ℚ) :
    Prop where
  feasible : Dual.Feasible model.offsets.length model.tradeoff solution.dual
  weights_eq : solution.weights = model.weightsOf options.nonnegative solution.dual
  dualValue_eq : solution.dualValue = model.dualValue solution.dual solution.weights
  primalValue_eq : model.value? solution.weights = some solution.primalValue
  /-- A solution found before the cap was reached is settled. -/
  settled : solution.iterations < options.cap →
    Dual.Settled model.tradeoff options.tolerance solution.dual
      (model.planeValues solution.weights)

/-- Both solvers arrive at feasible multipliers, which are settled unless the cap was used
up. -/
theorem climb_feasible (wellFormed : model.WellFormed) (options : ModelOptions ℚ)
    (nonneg : 0 ≤ options.tolerance) :
    let solution := model.climb (gram model.gradients) options
    Dual.Feasible model.offsets.length model.tradeoff solution.multipliers ∧
      (solution.iterations < options.cap → Dual.Settled model.tradeoff options.tolerance
        solution.multipliers
        (model.planeValues (model.weightsOf options.nonnegative solution.multipliers))) := by
  unfold climb
  cases options.nonnegative with
  | false =>
      simp only [Bool.false_eq_true, if_false, ← sub_apply_gram wellFormed]
      exact Dual.Simplex.solve_feasible (by simp [gram, wellFormed.square]) wellFormed.tradeoff_pos
        nonneg wellFormed.nonempty _ _
  | true =>
      obtain ⟨feasible, settled⟩ := Dual.Nonnegative.Problem.solve_feasible wellFormed.problem
        wellFormed.tradeoff_pos nonneg wellFormed.nonempty options.initialDual options.cap
      refine ⟨feasible, ?_⟩
      intro early
      have same (weights : List ℚ) : model.planeValues weights =
          add model.offsets (apply model.gradients weights) := Linear.add_comm _ _
      rw [same, weightsOf_true]
      exact settled early

/-- The weights and values of the multipliers that an ascent has arrived at. -/
def solutionOf (model : PlaneModel ℚ) (nonnegative : Bool) (climbed : Dual.Solution ℚ) :
    ModelSolution ℚ :=
  let weights := model.weightsOf nonnegative climbed.multipliers
  { weights
    dual := climbed.multipliers
    dualValue := model.dualValue climbed.multipliers weights
    primalValue := halfNorm weights + model.tradeoff *
      entry (model.planeValues weights) (Selection.largest (model.planeValues weights))
    iterations := climbed.iterations }

/-- Whatever the ascent arrives at, also over other products than those of the gradients, is
a solution. -/
theorem solve?_eq (wellFormed : model.WellFormed) (products : List (List ℚ))
    (options : ModelOptions ℚ) :
    model.solve? products options =
      .ok (model.solutionOf options.nonnegative (model.climb products options)) := by
  have nonempty : model.offsets.isEmpty = false := by
    rw [List.isEmpty_eq_false_iff]
    exact List.ne_nil_of_length_pos wellFormed.nonempty
  have finite (vector : List ℚ) : allFinite vector = true := by simp [allFinite]
  simp only [solve?, nonempty, finite, value?_eq wellFormed]
  rfl

/-- A well-formed model has a solution. -/
theorem solve?_solved (wellFormed : model.WellFormed) (options : ModelOptions ℚ)
    (nonneg : 0 ≤ options.tolerance) :
    ∃ solution, model.solve? (gram model.gradients) options = .ok solution ∧
      model.Solved options solution := by
  obtain ⟨feasible, settled⟩ := climb_feasible wellFormed options nonneg
  exact ⟨_, solve?_eq wellFormed _ options, feasible, rfl, rfl, value?_eq wellFormed _, settled⟩

end PlaneModel

/-!
## Solutions certify themselves

The two values of a solution say how far its weights can be from the optimum, whatever the
ascent started from and wherever it was stopped.  The lower value and half the squared
distance from the weights are together a bound from below on the cost of all admissible
weights, and the upper value is the cost of the weights themselves.  When the ascent has not
used up its moves the two differ by the tolerance at most.
-/

/-! ### Planes as arrays -/

namespace Tensor

/-- The array with the given rows. -/
def ofRows {K : Type} (width : Nat) (rows : List (List K)) : Tensor K :=
  ⟨[rows.length, width], rows.flatten⟩

theorem pieces_flatten {K : Type} {width : Nat} {rows : List (List K)}
    (aligned : ∀ row ∈ rows, row.length = width) :
    pieces width rows.length rows.flatten = rows := by
  induction rows with
  | nil => rfl
  | cons row rows ih =>
      have rowLength := aligned row List.mem_cons_self
      have others := ih fun other member => aligned other (List.mem_cons_of_mem _ member)
      rw [List.flatten_cons, List.length_cons, pieces, ← rowLength, List.take_left, List.drop_left,
        rowLength, others]

theorem rows?_ofRows {K : Type} {width : Nat} {rows : List (List K)}
    (aligned : ∀ row ∈ rows, row.length = width) :
    (ofRows width rows).rows? = some (width, rows) := by
  simp only [rows?, ofRows, pieces_flatten aligned]

end Tensor

namespace PlaneModel

variable {model : PlaneModel ℚ} {options : ModelOptions ℚ} {solution : ModelSolution ℚ}
  {weights : List ℚ} {cost : ℚ}

/-- Arrays whose extents fit describe a model, whether the products of its gradients are given
or not. -/
theorem modelOf?_ofRows (wellFormed : model.WellFormed) {products : Option (Tensor ℚ)}
    (given : products = none ∨
      products = some (.ofRows model.offsets.length (gram model.gradients))) :
    Dual.modelOf? (.ofRows model.dimension model.gradients) (.vector model.offsets) model.tradeoff
      products = some (model, gram model.gradients) := by
  have height : (gram model.gradients).length = model.offsets.length := by
    simp [gram, wellFormed.square]
  have square : ∀ row ∈ gram model.gradients, row.length = model.offsets.length := by
    intro row member
    obtain ⟨gradient, -, rfl⟩ := List.mem_map.mp member
    rw [List.length_map, wellFormed.square]
  have pieces := Tensor.pieces_flatten square
  rw [height] at pieces
  rcases given with rfl | rfl
  · simp [Dual.modelOf?, Tensor.rows?_ofRows wellFormed.aligned, Tensor.vector?, Tensor.vector,
      wellFormed.square]
  · have shape : (Tensor.ofRows model.offsets.length (gram model.gradients)).shape =
        [model.offsets.length, model.offsets.length] := by
      rw [Tensor.ofRows, height]
    have entries : (Tensor.ofRows model.offsets.length (gram model.gradients)).entries =
        (gram model.gradients).flatten := rfl
    simp [Dual.modelOf?, Tensor.rows?_ofRows wellFormed.aligned, Tensor.vector?, Tensor.vector,
      wellFormed.square, shape, entries, pieces]

/-! ### Costs -/

/-- Weights cost half their squared length and, weighed by the tradeoff, the highest plane. -/
def Costs (model : PlaneModel ℚ) (weights : List ℚ) (cost : ℚ) : Prop :=
  ∃ highest, IsGreatest {plane | plane ∈ model.planeValues weights} highest ∧
    cost = halfNorm weights + model.tradeoff * highest

theorem costs_of_value? (wellFormed : model.WellFormed) (found : model.value? weights = some cost) :
    model.Costs weights cost := by
  have nonempty : model.planeValues weights ≠ [] := by
    rw [← List.length_pos_iff, length_planeValues wellFormed]
    exact wellFormed.nonempty
  obtain ⟨inBounds, -, above⟩ := Selection.largest_greatest nonempty
  rw [value?_eq wellFormed] at found
  refine ⟨_, ⟨?_, above⟩, (Option.some.inj found).symm⟩
  rw [Set.mem_ofPred_eq, entry_eq_getElem inBounds]
  exact List.getElem_mem inBounds

/-- Admissible weights that cost no more than all others. -/
structure IsOptimal (model : PlaneModel ℚ) (nonnegative : Bool) (weights : List ℚ) (cost : ℚ) :
    Prop where
  admissible : Admissible nonnegative model.dimension weights
  costs : model.Costs weights cost
  le_cost : ∀ others otherCost, Admissible nonnegative model.dimension others →
    model.Costs others otherCost → cost ≤ otherCost

/-! ### The certificate -/

/-- What the values of a solution say about all admissible weights. -/
structure Certifies (model : PlaneModel ℚ) (options : ModelOptions ℚ)
    (solution : ModelSolution ℚ) : Prop where
  admissible : Admissible options.nonnegative model.dimension solution.weights
  costs : model.Costs solution.weights solution.primalValue
  le_cost : ∀ weights cost, Admissible options.nonnegative model.dimension weights →
    model.Costs weights cost →
    solution.dualValue + halfNorm (sub weights solution.weights) ≤ cost
  /-- The ascent ends before the cap only when the rest is negligible. -/
  gap_le : solution.iterations < options.cap → solution.dualityGap ≤ options.tolerance

theorem Solved.certifies (wellFormed : model.WellFormed) (solved : model.Solved options solution) :
    model.Certifies options solution where
  admissible := by
    rw [solved.weights_eq]
    exact weightsOf_admissible wellFormed _ _
  costs := costs_of_value? wellFormed solved.primalValue_eq
  le_cost := by
    rintro weights cost admissible ⟨highest, ⟨-, above⟩, rfl⟩
    rw [solved.dualValue_eq, solved.weights_eq]
    exact dualValue_add_le wellFormed solved.feasible admissible fun plane member => above member
  gap_le := by
    intro early
    have settled := solved.settled early
    have found := solved.primalValue_eq
    rw [solved.weights_eq] at settled found
    have close := value?_le_of_settled wellFormed solved.feasible settled found
    rw [ModelSolution.dualityGap, solved.dualValue_eq, solved.weights_eq]
    exact sub_le_iff_le_add'.mpr close

namespace Certifies

/-- Stopped before the cap, the weights cost no more than any others and the tolerance. -/
theorem primalValue_le (certifies : model.Certifies options solution)
    (early : solution.iterations < options.cap)
    (admissible : Admissible options.nonnegative model.dimension weights)
    (costs : model.Costs weights cost) : solution.primalValue ≤ cost + options.tolerance := by
  have gap := certifies.gap_le early
  have below := certifies.le_cost weights cost admissible costs
  have distance := halfNorm_nonneg (sub weights solution.weights)
  rw [ModelSolution.dualityGap] at gap
  linarith

/-- Stopped before the cap, the weights are close to optimal ones. -/
theorem dot_sub_le (certifies : model.Certifies options solution)
    (early : solution.iterations < options.cap)
    (optimal : model.IsOptimal options.nonnegative weights cost) :
    dot (sub weights solution.weights) (sub weights solution.weights) ≤ 2 * options.tolerance := by
  have gap := certifies.gap_le early
  have below := certifies.le_cost weights cost optimal.admissible optimal.costs
  have least := optimal.le_cost _ _ certifies.admissible certifies.costs
  rw [ModelSolution.dualityGap] at gap
  rw [halfNorm_eq] at below
  linarith

end Certifies

/-- **A solution certifies itself**, and stopped before the cap it is within the tolerance of the
optimum: from arrays that fit together a model is read and solved from any start, in either
space, and with any cap. -/
theorem solve?_certifies (wellFormed : model.WellFormed) (products : Option (Tensor ℚ))
    (given : products = none ∨
      products = some (.ofRows model.offsets.length (gram model.gradients)))
    (options : ModelOptions ℚ) (nonneg : 0 ≤ options.tolerance) :
    ∃ read solution,
      Dual.modelOf? (.ofRows model.dimension model.gradients) (.vector model.offsets)
        model.tradeoff products = some (model, read) ∧
      model.solve? read options = .ok solution ∧
      model.Certifies options solution ∧
      (solution.iterations < options.cap →
        (∀ weights cost, Admissible options.nonnegative model.dimension weights →
          model.Costs weights cost → solution.primalValue ≤ cost + options.tolerance) ∧
        ∀ weights cost, model.IsOptimal options.nonnegative weights cost →
          dot (sub weights solution.weights) (sub weights solution.weights) ≤
            2 * options.tolerance) := by
  obtain ⟨solution, solves, solved⟩ := solve?_solved wellFormed options nonneg
  have certifies := solved.certifies wellFormed
  refine ⟨_, solution, modelOf?_ofRows wellFormed given, solves, certifies, ?_⟩
  intro early
  constructor
  · intro weights cost admissible costs
    exact certifies.primalValue_le early admissible costs
  · intro weights cost optimal
    exact certifies.dot_sub_le early optimal

/-- Weights that must not be negative, with a start that has a negative entry: the third move is
the last one. -/
theorem solve?_certifies_warm :
    let model : PlaneModel ℚ := ⟨2, [[1, -1], [-1, 2], [0, 0]], [0, 1, 0], 2⟩
    let options : ModelOptions ℚ := ⟨true, some [-1, 3, 1], 1 / 10, 100⟩
    model.WellFormed ∧ 0 ≤ options.tolerance ∧
    ∃ solution, model.solve? (gram model.gradients) options = .ok solution ∧
      (solution.weights = [1 / 2, 0] ∧ solution.iterations = 3) ∧
      model.Certifies options solution ∧
      ∀ weights cost, Admissible true 2 weights → model.Costs weights cost →
        solution.primalValue ≤ cost + 1 / 10 := by
  intro model options
  have wellFormed : model.WellFormed := ⟨rfl, by decide, by decide, by decide⟩
  have nonneg : 0 ≤ options.tolerance := by decide +kernel
  have found : model.solve? (gram model.gradients) options =
      .ok ⟨[1 / 2, 0], [3 / 4, 5 / 4, 0], 9 / 8, 9 / 8, 3⟩ := by
    cbv
  obtain ⟨read, solution, reads, solves, certifies, close⟩ :=
    solve?_certifies wellFormed none (.inl rfl) options nonneg
  cases (modelOf?_ofRows wellFormed (.inl rfl)).symm.trans reads
  cases found.symm.trans solves
  exact ⟨wellFormed, nonneg, _, found, ⟨rfl, rfl⟩, certifies, (close (by decide)).1⟩

end PlaneModel

end HingeRank
