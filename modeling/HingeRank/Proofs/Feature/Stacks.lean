import Mathlib
import HingeRank.Feature
import HingeRank.Proofs.Exact.Linear

/-!
# Stacks of feature vectors

Products with stacks are refused for no vectors of one dimension, and are the products with
the vectors that were stacked.
-/

namespace HingeRank

/-!
## Shapes of stacks

Vectors of one dimension are stacked into one row each, and all rows have the width of that
dimension, whatever the numbers in them are.  Weights of this length and coefficients for
these rows are therefore not refused, and the results are those of the products that look at
no lengths.
-/

section

open Linear

variable {K : Type} [Scalar K]

namespace Sparse.Row

@[simp] theorem length_addTo (target : List K) (factor : K) (row : Row K) :
    (row.addTo target factor).length = target.length := by
  induction row generalizing target with
  | nil => rfl
  | cons first row ih =>
      refine (ih _).trans ?_
      exact List.length_modify _ _ _

@[simp] theorem length_foldl_addTo (pairs : List (K × Row K)) (target : List K) :
    (pairs.foldl (fun total (coefficient, row) => row.addTo total coefficient) target).length =
      target.length := by
  induction pairs generalizing target with
  | nil => rfl
  | cons pair pairs ih => exact (ih _).trans (length_addTo _ _ _)

end Sparse.Row

namespace FeatureStack

variable {stack : FeatureStack K} {vectors : List (FeatureVector K)} {weights coefficients : List K}
  {count dimension : Nat}

/-- The stack has this many rows of this width. -/
structure HasShape (stack : FeatureStack K) (count dimension : Nat) : Prop where
  height_eq : stack.height = count
  width_eq : stack.width = dimension
  aligned : ∀ rowWidth rows, stack = dense rowWidth rows → ∀ row ∈ rows, row.length = dimension

namespace HasShape

theorem length_scores (shape : stack.HasShape count dimension) (weights : List K) :
    (stack.scores weights).length = count := by
  rw [← shape.height_eq]
  cases stack with
  | dense rowWidth rows => exact length_apply rows weights
  | sparse rowWidth rows => exact List.length_map _

theorem length_weightedSum (shape : stack.HasShape count dimension)
    (coefficients : List K) : (stack.weightedSum coefficients).length = dimension := by
  have width_eq := shape.width_eq
  cases stack with
  | dense rowWidth rows =>
      cases width_eq
      exact length_combine coefficients (shape.aligned _ rows rfl)
  | sparse rowWidth rows =>
      exact (Sparse.Row.length_foldl_addTo _ _).trans ((length_zeros _).trans width_eq)

end HasShape

/-- A single column is read from its first entry to its last. -/
@[simp] theorem interleave_singleton (column : List K) :
    interleave column.length [column] = column := by
  have spelled : interleave column.length [column] =
      (List.range column.length).map (entry column) := by
    rw [List.map_eq_flatMap]
    rfl
  rw [spelled]
  apply List.ext_getElem
  · rw [List.length_map, List.length_range]
  · intro position _ inBounds
    rw [List.getElem_map, List.getElem_range, entry, List.getD_eq_getElem _ _ inBounds]

@[simp] theorem operandColumns?_vector (stack : FeatureStack K) (operand : List K) :
    stack.operandColumns? operand.length (.vector operand) = .ok [[operand]] := by
  simp [operandColumns?, Tensor.vector]

namespace HasShape

/-- Weights with one entry for each column are not refused. -/
theorem scores?_eq (shape : stack.HasShape count dimension) (fits : weights.length = dimension) :
    stack.scores? (.vector weights) = .ok (stack.scores weights) := by
  have height_eq : stack.height = (stack.scores weights).length := by
    rw [shape.length_scores, shape.height_eq]
  have columns := stack.operandColumns?_vector weights
  rw [fits, ← shape.width_eq] at columns
  simp only [scores?, columns, height_eq]
  exact congrArg Except.ok ((List.append_nil _).trans (interleave_singleton _))

/-- Coefficients with one entry for each row are not refused. -/
theorem weightedSum?_eq (shape : stack.HasShape count dimension)
    (fits : coefficients.length = count) :
    stack.weightedSum? (.vector coefficients) = .ok (stack.weightedSum coefficients) := by
  have width_eq : stack.width = (stack.weightedSum coefficients).length := by
    rw [shape.length_weightedSum, shape.width_eq]
  have columns := stack.operandColumns?_vector coefficients
  rw [fits, ← shape.height_eq] at columns
  simp only [weightedSum?, columns, width_eq]
  exact congrArg Except.ok ((List.append_nil _).trans (interleave_singleton _))

end HasShape

omit [Scalar K] in
/-- A vector that is not sparse gives its dense row. -/
theorem length_denseRows (allDense : ∀ vector ∈ vectors, vector.isSparse = false) :
    (denseRows vectors).length = vectors.length := by
  induction vectors with
  | nil => rfl
  | cons vector vectors ih =>
      have rest := ih fun other member => allDense other (List.mem_cons_of_mem _ member)
      cases vector with
      | dense components => exact congrArg (· + 1) rest
      | sparse dimension row => cases allDense _ List.mem_cons_self

omit [Scalar K] in
/-- Dense rows are the components of vectors. -/
theorem mem_of_mem_denseRows {row : List K} (member : row ∈ denseRows vectors) :
    .dense row ∈ vectors := by
  obtain ⟨vector, vectorMem, found⟩ := List.mem_filterMap.mp member
  cases vector with
  | dense components =>
      cases found
      exact vectorMem
  | sparse dimension row => cases found

/-- Vectors of one dimension can be stacked, as dense rows if none of them is sparse. -/
theorem ofVectors?_stacks (nonempty : vectors ≠ [])
    (same : ∀ vector ∈ vectors, vector.dimension = dimension) :
    ofVectors? vectors = .ok (sparse dimension (vectors.map (·.toRow))) ∨
      ofVectors? vectors = .ok (dense dimension (denseRows vectors)) ∧
        ∀ vector ∈ vectors, vector.isSparse = false := by
  cases vectors with
  | nil => exact absurd rfl nonempty
  | cons first rest =>
      have first_eq := same first List.mem_cons_self
      have agree : rest.all (fun vector => vector.dimension == first.dimension) = true := by
        rw [List.all_eq_true]
        intro vector member
        rw [first_eq, same vector (List.mem_cons_of_mem _ member)]
        exact beq_self_eq_true dimension
      rw [ofVectors?, if_pos agree, first_eq]
      cases kind : (first :: rest).any fun vector => vector.isSparse with
      | true => exact .inl rfl
      | false =>
          refine .inr ⟨rfl, ?_⟩
          intro vector member
          rw [List.any_eq_false] at kind
          exact Bool.eq_false_iff.mpr (kind vector member)

/-- Stacked vectors make one row each. -/
theorem ofVectors?_hasShape (nonempty : vectors ≠ [])
    (same : ∀ vector ∈ vectors, vector.dimension = dimension) :
    ∃ stack, ofVectors? vectors = .ok stack ∧ stack.HasShape vectors.length dimension := by
  rcases ofVectors?_stacks nonempty same with made | ⟨made, allDense⟩
  · exact ⟨_, made, List.length_map _, rfl, nofun⟩
  · refine ⟨_, made, length_denseRows allDense, rfl, ?_⟩
    rintro rowWidth rows ⟨⟩ row member
    exact same _ (mem_of_mem_denseRows member)

end FeatureStack

end

/-!
## Feature vectors and their stacks

Whether a vector is dense or sparse shows nowhere in its inner products, and a stack scores
and adds up the vectors it was made of.  A sparse row may name columns that a weight vector
does not have; they count as zero on both sides, so that no assumption about the names is
needed.
-/

section

open Linear

namespace Sparse.Row

variable {weights target : List ℚ}

@[simp] theorem dot_nil (weights : List ℚ) : Row.dot weights [] = 0 := rfl

@[simp] theorem dot_cons (weights : List ℚ) (column : Nat) (value : ℚ) (row : Row ℚ) :
    Row.dot weights ((column, value) :: row) = value * entry weights column + row.dot weights := by
  simp [Row.dot]

theorem dot_addTo (equal : weights.length = target.length) (factor : ℚ) (row : Row ℚ) :
    Linear.dot (row.addTo target factor) weights =
      Linear.dot target weights + factor * row.dot weights := by
  induction row generalizing target with
  | nil => simp [addTo]
  | cons first row ih =>
      rcases first with ⟨column, value⟩
      have moved : Linear.dot (target.modify column (· + value * factor)) weights =
          Linear.dot target weights + value * factor * entry weights column := by
        by_cases inBounds : column < target.length
        · exact dot_modify_add inBounds _ weights
        · have targetEnd : target.length ≤ column := not_lt.mp inBounds
          have beyond : entry weights column = 0 := by
            rw [entry, List.getD_eq_default _ _ (equal.trans_le targetEnd)]
          rw [List.modify_eq_self targetEnd, beyond, mul_zero, add_zero]
      have aligned : weights.length = (target.modify column (· + value * factor)).length := by
        rw [List.length_modify, equal]
      rw [dot_cons]
      refine (ih aligned).trans ?_
      rw [moved]
      ring

theorem dot_foldl_addTo (coefficients : List ℚ) (rows : List (Row ℚ))
    (equal : weights.length = target.length) :
    Linear.dot ((coefficients.zip rows).foldl
        (fun total (coefficient, row) => row.addTo total coefficient) target) weights =
      Linear.dot target weights + Linear.dot coefficients (rows.map (·.dot weights)) := by
  induction coefficients generalizing rows target with
  | nil => simp
  | cons coefficient coefficients ih =>
      cases rows with
      | nil => simp
      | cons row rows =>
          have aligned : weights.length = (row.addTo target coefficient).length := by
            rw [length_addTo]
            exact equal
          refine (ih rows aligned).trans ?_
          rw [dot_addTo equal, List.map_cons, dot_cons_cons]
          ring

/-- The components from a position on, paired with their columns, score like a vector. -/
theorem dot_ofComponents_from (weights components : List ℚ) (start : Nat) :
    Row.dot weights (((components.zipIdx start).filter fun (value, _) =>
        !Scalar.same value 0).map fun (value, column) => (column, value)) =
      Linear.dot components (weights.drop start) := by
  induction components generalizing start with
  | nil => rfl
  | cons value components ih =>
      have scored : Linear.dot (value :: components) (weights.drop start) =
          value * entry weights start + Linear.dot components (weights.drop (start + 1)) := by
        by_cases inBounds : start < weights.length
        · rw [List.drop_eq_getElem_cons inBounds, dot_cons_cons, entry_eq_getElem inBounds]
        · have atEnd : weights.length ≤ start := not_lt.mp inBounds
          rw [List.drop_of_length_le atEnd, List.drop_of_length_le (Nat.le_succ_of_le atEnd),
            entry, List.getD_eq_default _ _ atEnd]
          simp
      rw [scored, ← ih, List.zipIdx_cons]
      by_cases zero : value = 0
      · simp [zero]
      · simp [zero]

@[simp] theorem dot_ofComponents (weights components : List ℚ) :
    (ofComponents components).dot weights = Linear.dot components weights := by
  rw [ofComponents, dot_ofComponents_from, List.drop_zero]

end Sparse.Row

namespace FeatureVector

variable {weights : List ℚ}

/-- All components of a vector. -/
def components : FeatureVector ℚ → List ℚ
  | dense components => components
  | sparse dimension row => row.addTo (zeros dimension) 1

@[simp] theorem length_components (vector : FeatureVector ℚ) :
    vector.components.length = vector.dimension := by
  cases vector with
  | dense components => rfl
  | sparse dimension row => exact (Sparse.Row.length_addTo _ _ _).trans (length_zeros dimension)

theorem dot_components (vector : FeatureVector ℚ) (equal : weights.length = vector.dimension) :
    Linear.dot vector.components weights = vector.dot weights := by
  cases vector with
  | dense components => exact dot_comm _ _
  | sparse dimension row =>
      have aligned : weights.length = (zeros dimension : List ℚ).length := by
        rw [length_zeros]
        exact equal
      refine (Sparse.Row.dot_addTo aligned 1 row).trans ?_
      rw [dot_zeros_left, zero_add, one_mul]
      rfl

@[simp] theorem dot_toRow (weights : List ℚ) (vector : FeatureVector ℚ) :
    vector.toRow.dot weights = vector.dot weights := by
  cases vector with
  | dense components => exact (Sparse.Row.dot_ofComponents _ _).trans (dot_comm _ _)
  | sparse dimension row => rfl

end FeatureVector

namespace FeatureStack

variable {stack : FeatureStack ℚ} {vectors : List (FeatureVector ℚ)} {weights : List ℚ}

/-- Dense rows are as long as the stack is wide. -/
def Aligned : FeatureStack ℚ → Prop
  | dense width rows => ∀ row ∈ rows, row.length = width
  | sparse _ _ => True

theorem Aligned.hasShape (aligned : stack.Aligned) : stack.HasShape stack.height stack.width := by
  refine ⟨rfl, rfl, ?_⟩
  rintro width rows rfl
  exact aligned

/-- A weighted sum of the rows scores like the weighted sum of the scores. -/
theorem dot_weightedSum (aligned : stack.Aligned) (coefficients : List ℚ)
    (equal : weights.length = stack.width) :
    dot (stack.weightedSum coefficients) weights = dot coefficients (stack.scores weights) := by
  cases stack with
  | dense width rows => exact dot_combine coefficients aligned weights
  | sparse width rows =>
      have aligned : weights.length = (zeros width : List ℚ).length := by
        rw [length_zeros]
        exact equal
      refine (Sparse.Row.dot_foldl_addTo coefficients rows aligned).trans ?_
      rw [dot_zeros_left, zero_add]
      rfl

/-- Without sparse vectors the dense rows are the components of all vectors. -/
theorem denseRows_eq (dense : ∀ vector ∈ vectors, vector.isSparse = false) :
    denseRows vectors = vectors.map (·.components) := by
  induction vectors with
  | nil => rfl
  | cons vector vectors ih =>
      have rest := ih fun other member => dense other (List.mem_cons_of_mem _ member)
      cases vector with
      | dense components => exact congrArg (components :: ·) rest
      | sparse dimension row => cases dense _ List.mem_cons_self

/-- The stack holds vectors of one dimension, and scores each of them. -/
structure Holds (stack : FeatureStack ℚ) (dimension : Nat) (vectors : List (FeatureVector ℚ)) :
    Prop where
  width_eq : stack.width = dimension
  aligned : stack.Aligned
  scores_eq : ∀ weights, stack.scores weights = vectors.map (·.dot weights)

theorem Holds.length_weightedSum {dimension : Nat} (holds : stack.Holds dimension vectors)
    (coefficients : List ℚ) : (stack.weightedSum coefficients).length = dimension :=
  (holds.aligned.hasShape.length_weightedSum coefficients).trans holds.width_eq

theorem Holds.dot_weightedSum {dimension : Nat} (holds : stack.Holds dimension vectors)
    (coefficients : List ℚ) (equal : weights.length = dimension) :
    dot (stack.weightedSum coefficients) weights =
      dot coefficients (vectors.map (·.dot weights)) := by
  rw [← holds.scores_eq]
  exact FeatureStack.dot_weightedSum holds.aligned coefficients
    (equal.trans holds.width_eq.symm)

/-- Sparse rows hold vectors of any kind. -/
theorem sparse_holds (dimension : Nat) (vectors : List (FeatureVector ℚ)) :
    (sparse dimension (vectors.map (·.toRow))).Holds dimension vectors where
  width_eq := rfl
  aligned := trivial
  scores_eq := by
    intro weights
    rw [scores, List.map_map]
    apply List.map_congr_left
    intro vector _
    exact FeatureVector.dot_toRow weights vector

/-- Dense rows hold dense vectors. -/
theorem dense_holds {dimension : Nat} (allDense : ∀ vector ∈ vectors, vector.isSparse = false)
    (same : ∀ vector ∈ vectors, vector.dimension = dimension) :
    (dense dimension (denseRows vectors)).Holds dimension vectors where
  width_eq := rfl
  aligned := by
    intro row member
    exact same _ (mem_of_mem_denseRows member)
  scores_eq := by
    intro weights
    rw [scores, denseRows_eq allDense, apply, List.map_map]
    apply List.map_congr_left
    intro vector member
    cases vector with
    | dense components => exact dot_comm _ _
    | sparse dimension row => cases allDense _ member

/-- Stacked vectors of one dimension are held. -/
theorem ofVectors?_holds {dimension : Nat} (nonempty : vectors ≠ [])
    (same : ∀ vector ∈ vectors, vector.dimension = dimension) :
    ∃ stack, ofVectors? vectors = .ok stack ∧ stack.Holds dimension vectors := by
  rcases ofVectors?_stacks nonempty same with made | ⟨made, allDense⟩
  · exact ⟨_, made, sparse_holds dimension vectors⟩
  · exact ⟨_, made, dense_holds allDense same⟩

end FeatureStack

end

end HingeRank
