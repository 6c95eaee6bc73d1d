import Mathlib
import HingeRank.Proofs.Exact.Lengths

/-!
# Exact arithmetic

Scalars, vectors and sums over the rational numbers.
-/

namespace HingeRank

/-!
## Rational numbers as scalars

Over the rational numbers every predicate about odd values is a plain fact: each
value is a finite number, and the operations that avoid laws are the familiar ones
of an ordered field.
-/

namespace Scalar

@[simp] theorem isNumber_rat (x : ℚ) : isNumber x = true := by
  simp [isNumber]

@[simp] theorem isFinite_rat (x : ℚ) : isFinite x = true := by
  simp [isFinite]

@[simp] theorem belowInfinity_rat (x : ℚ) : belowInfinity x = true := by
  simp [belowInfinity]

@[simp] theorem same_eq_true {x y : ℚ} : same x y = true ↔ x = y := by
  simp only [same, Bool.and_eq_true, decide_eq_true_eq]
  exact le_antisymm_iff.symm

@[simp] theorem same_eq_false {x y : ℚ} : same x y = false ↔ x ≠ y := by
  rw [← Bool.not_eq_true, same_eq_true]

@[simp] theorem half_rat : (half : ℚ) = 1 / 2 := by
  norm_num [half]

@[simp] theorem lesser_eq_min (x y : ℚ) : lesser x y = min x y := by
  unfold lesser
  split
  next below => exact (min_eq_right below.le).symm
  next notBelow => exact (min_eq_left (not_lt.mp notBelow)).symm

@[simp] theorem greater_eq_max (x y : ℚ) : greater x y = max x y := by
  unfold greater
  split
  next above => exact (max_eq_right above.le).symm
  next notAbove => exact (max_eq_left (not_lt.mp notAbove)).symm

@[simp] theorem positivePart_eq_max (x : ℚ) : positivePart x = max x 0 := by
  unfold positivePart
  split
  next atMost => exact (max_eq_right atMost).symm
  next above => exact (max_eq_left (not_le.mp above).le).symm

end Scalar

/-!
## Linear algebra over the rational numbers

Over the rational numbers the inner product is bilinear and symmetric, and a vector
is determined by its inner products.  Equations between vectors are therefore proved
by taking inner products on both sides.

A missing component counts as zero in an inner product, so most laws need no
assumption about lengths.
-/

namespace Linear

variable {left right vector weights : List ℚ} {rows : List (List ℚ)}

/-! ### Components -/

theorem exists_of_mem_zipWith {α β γ : Type} {operation : α → β → γ} {left : List α}
    {right : List β} {value : γ} (member : value ∈ List.zipWith operation left right) :
    ∃ first ∈ left, ∃ second ∈ right, operation first second = value := by
  rw [← List.map_uncurry_zip_eq_zipWith] at member
  obtain ⟨⟨first, second⟩, pairMem, rfl⟩ := List.mem_map.mp member
  obtain ⟨firstMem, secondMem⟩ := List.of_mem_zip pairMem
  exact ⟨first, firstMem, second, secondMem, rfl⟩

/-- A vector that is not negative is not cut off at zero. -/
theorem map_positivePart (nonneg : ∀ value ∈ vector, 0 ≤ value) :
    vector.map Scalar.positivePart = vector := by
  refine (List.map_congr_left fun value member => ?_).trans vector.map_id
  rw [Scalar.positivePart_eq_max, max_eq_left (nonneg value member), id]

/-! ### Sums and inner products -/

@[simp] theorem sum_eq (values : List ℚ) : sum values = values.sum := by
  rw [List.sum_eq_foldl]
  rfl

@[simp] theorem dot_nil_left (vector : List ℚ) : dot [] vector = 0 := rfl

@[simp] theorem dot_nil_right (vector : List ℚ) : dot vector [] = 0 := by
  simp [dot]

@[simp] theorem dot_cons_cons (x y : ℚ) (left right : List ℚ) :
    dot (x :: left) (y :: right) = x * y + dot left right := by
  simp [dot]

theorem dot_comm (left right : List ℚ) : dot left right = dot right left := by
  unfold dot
  rw [List.zipWith_comm]
  simp only [mul_comm]

theorem add_comm (left right : List ℚ) : add left right = add right left := by
  unfold add
  rw [List.zipWith_comm]
  simp only [Rat.add_comm]

theorem dot_self_nonneg (vector : List ℚ) : 0 ≤ dot vector vector := by
  induction vector with
  | nil => simp
  | cons x vector ih =>
      rw [dot_cons_cons]
      exact add_nonneg (mul_self_nonneg x) ih

theorem halfNorm_eq (vector : List ℚ) : halfNorm vector = dot vector vector / 2 := by
  rw [halfNorm, Scalar.half_rat]
  ring

theorem halfNorm_nonneg (vector : List ℚ) : 0 ≤ halfNorm vector := by
  rw [halfNorm_eq]
  exact div_nonneg (dot_self_nonneg vector) (by norm_num)

/-! ### Linearity -/

@[simp] theorem dot_zeros_left (dimension : Nat) (vector : List ℚ) :
    dot (zeros dimension) vector = 0 := by
  induction dimension generalizing vector with
  | zero => rfl
  | succ dimension ih =>
      cases vector with
      | nil => simp
      | cons x vector =>
          change dot (0 :: zeros dimension) (x :: vector) = 0
          rw [dot_cons_cons, ih]
          ring

@[simp] theorem dot_zeros_right (dimension : Nat) (vector : List ℚ) :
    dot vector (zeros dimension) = 0 := by
  rw [dot_comm, dot_zeros_left]

theorem dot_add_left (equal : left.length = right.length) (vector : List ℚ) :
    dot (add left right) vector = dot left vector + dot right vector := by
  induction left generalizing right vector with
  | nil => simp [add, List.length_eq_zero_iff.mp equal.symm]
  | cons x left ih =>
      cases right with
      | nil => simp at equal
      | cons y right =>
          cases vector with
          | nil => simp
          | cons z vector =>
              change dot ((x + y) :: add left right) (z :: vector) = _
              simp only [dot_cons_cons, ih (Nat.succ.inj equal)]
              ring

theorem dot_add_right (equal : left.length = right.length) (vector : List ℚ) :
    dot vector (add left right) = dot vector left + dot vector right := by
  rw [dot_comm, dot_add_left equal, dot_comm left, dot_comm right]

@[simp] theorem dot_scale_left (factor : ℚ) (left right : List ℚ) :
    dot (scale factor left) right = factor * dot left right := by
  induction left generalizing right with
  | nil => simp [scale]
  | cons x left ih =>
      cases right with
      | nil => simp
      | cons y right =>
          change dot (factor * x :: scale factor left) (y :: right) = _
          simp only [dot_cons_cons, ih]
          ring

theorem neg_eq_scale (vector : List ℚ) : neg vector = scale (-1) vector := by
  simp [neg, scale]

theorem sub_eq_add_scale (left right : List ℚ) : sub left right = add left (scale (-1) right) := by
  simp only [sub, add, scale, List.zipWith_map_right]
  congr 1
  funext x y
  ring

@[simp] theorem dot_neg_left (left right : List ℚ) : dot (neg left) right = -dot left right := by
  rw [neg_eq_scale, dot_scale_left]
  ring

@[simp] theorem dot_neg_right (left right : List ℚ) : dot left (neg right) = -dot left right := by
  rw [dot_comm, dot_neg_left, dot_comm]

theorem dot_sub_left (equal : left.length = right.length) (vector : List ℚ) :
    dot (sub left right) vector = dot left vector - dot right vector := by
  rw [sub_eq_add_scale, dot_add_left (by simpa using equal), dot_scale_left]
  ring

theorem dot_sub_right (equal : left.length = right.length) (vector : List ℚ) :
    dot vector (sub left right) = dot vector left - dot vector right := by
  rw [dot_comm, dot_sub_left equal, dot_comm left, dot_comm right]

/-- A vector is determined by its inner products with vectors of its length. -/
theorem ext_dot (equal : left.length = right.length)
    (agree : ∀ vector : List ℚ, vector.length = left.length → dot left vector = dot right vector) :
    left = right := by
  induction left generalizing right with
  | nil => exact (List.length_eq_zero_iff.mp equal.symm).symm
  | cons x left ih =>
      cases right with
      | nil => simp at equal
      | cons y right =>
          have heads : x = y := by simpa using agree (1 :: zeros left.length) (by simp)
          have tails : left = right := by
            apply ih (Nat.succ.inj equal)
            intro vector length_eq
            simpa using agree (0 :: vector) (by simpa using length_eq)
          rw [heads, tails]

/-! ### Combinations of rows -/

/-- The inner product distributes over a sum of vectors. -/
theorem dot_foldl_add (rows : List (List ℚ)) (dimension : Nat)
    (aligned : ∀ row ∈ rows, row.length = dimension) (start : List ℚ)
    (begins : start.length = dimension) (vector : List ℚ) :
    dot (rows.foldl add start) vector = dot start vector + (rows.map (dot · vector)).sum := by
  induction rows generalizing start with
  | nil => simp
  | cons row rows ih =>
      have rowLength := aligned row List.mem_cons_self
      rw [List.foldl_cons, ih (fun other member => aligned other (List.mem_cons_of_mem _ member)) _
        (by simp [begins, rowLength]), dot_add_left (by rw [begins, rowLength])]
      simp only [List.map_cons, List.sum_cons]
      ring

/-- The inner product with a combination of rows is the same combination of the inner
products with the rows. -/
theorem dot_combine {dimension : Nat} (coefficients : List ℚ)
    (aligned : ∀ row ∈ rows, row.length = dimension) (vector : List ℚ) :
    dot (combine dimension coefficients rows) vector = dot coefficients (apply rows vector) := by
  rw [combine, dot_foldl_add _ dimension (length_of_mem_scaled aligned) _ (length_zeros dimension),
    dot_zeros_left, zero_add, dot, sum_eq, apply, List.map_zipWith, List.zipWith_map_right]
  simp only [dot_scale_left]

/-- Multiplying by the inner products of the rows is combining the rows and then taking
inner products with them. -/
theorem apply_gram {dimension : Nat} (aligned : ∀ row ∈ rows, row.length = dimension)
    (coefficients : List ℚ) :
    apply (gram rows) coefficients = apply rows (combine dimension coefficients rows) := by
  simp only [apply, gram, List.map_map]
  refine List.map_congr_left fun row _ => ?_
  rw [Function.comp_apply, dot_comm row, dot_combine coefficients aligned row,
    dot_comm coefficients]
  simp only [apply, dot_comm row]

/-! ### Single components -/

@[simp] theorem entry_nil (position : Nat) : entry ([] : List ℚ) position = 0 := rfl

@[simp] theorem entry_cons_zero (x : ℚ) (vector : List ℚ) : entry (x :: vector) 0 = x := rfl

@[simp] theorem entry_cons_succ (x : ℚ) (vector : List ℚ) (position : Nat) :
    entry (x :: vector) (position + 1) = entry vector position := rfl

theorem entry_eq_getElem {position : Nat} (inBounds : position < vector.length) :
    entry vector position = vector[position] := by
  simp [entry, inBounds]

/-- Raising one component changes an inner product by that much of the other side. -/
theorem dot_modify_add {position : Nat} (inBounds : position < vector.length) (change : ℚ)
    (weights : List ℚ) :
    dot (vector.modify position (· + change)) weights =
      dot vector weights + change * entry weights position := by
  induction vector generalizing position weights with
  | nil => simp at inBounds
  | cons x vector ih =>
      cases weights with
      | nil => simp
      | cons y weights =>
          cases position with
          | zero =>
              simp only [List.modify_zero_cons, dot_cons_cons, entry_cons_zero]
              ring
          | succ position =>
              simp only [List.modify_succ_cons, dot_cons_cons, entry_cons_succ,
                ih (Nat.lt_of_succ_lt_succ inBounds)]
              ring

/-- An inner product with ones is the sum. -/
theorem dot_replicate_one (vector : List ℚ) :
    dot vector (List.replicate vector.length 1) = vector.sum := by
  induction vector with
  | nil => rfl
  | cons x vector ih => simp [List.replicate_succ, ih]

/-- Nonnegative weights weigh a vector at most as heavily as an upper bound of it. -/
theorem dot_le_sum_mul {bound : ℚ} (equal : weights.length = vector.length)
    (nonneg : ∀ weight ∈ weights, 0 ≤ weight) (above : ∀ value ∈ vector, value ≤ bound) :
    dot weights vector ≤ weights.sum * bound := by
  induction weights generalizing vector with
  | nil => simp
  | cons weight weights ih =>
      cases vector with
      | nil => simp at equal
      | cons value vector =>
          have first := mul_le_mul_of_nonneg_left (above value List.mem_cons_self)
            (nonneg weight List.mem_cons_self)
          have others := ih (Nat.succ.inj equal)
            (fun other member => nonneg other (List.mem_cons_of_mem _ member))
            (fun other member => above other (List.mem_cons_of_mem _ member))
          rw [dot_cons_cons, List.sum_cons, add_mul]
          exact add_le_add first others

/-- Nonnegative weights weigh a vector at least as heavily as a lower bound of the
components that have a positive weight. -/
theorem sum_mul_le_dot {bound : ℚ} (equal : weights.length = vector.length)
    (nonneg : ∀ weight ∈ weights, 0 ≤ weight)
    (below : ∀ position < weights.length, 0 < entry weights position →
      bound ≤ entry vector position) :
    weights.sum * bound ≤ dot weights vector := by
  induction weights generalizing vector with
  | nil => simp
  | cons weight weights ih =>
      cases vector with
      | nil => simp at equal
      | cons value vector =>
          have first : weight * bound ≤ weight * value := by
            rcases (nonneg weight List.mem_cons_self).eq_or_lt with zero | positive
            · rw [← zero, zero_mul, zero_mul]
            · exact mul_le_mul_of_nonneg_left (below 0 (by simp) positive) positive.le
          have others := ih (Nat.succ.inj equal)
            (fun other member => nonneg other (List.mem_cons_of_mem _ member))
            (fun position inBounds => below (position + 1) (Nat.succ_lt_succ inBounds))
          rw [dot_cons_cons, List.sum_cons, add_mul]
          exact add_le_add first others

theorem entry_apply {position : Nat} (inBounds : position < rows.length) (vector : List ℚ) :
    entry (apply rows vector) position = dot (row rows position) vector := by
  simp [entry, apply, row, inBounds]

theorem entry_add (equal : left.length = right.length) (position : Nat) :
    entry (add left right) position = entry left position + entry right position := by
  by_cases inBounds : position < left.length
  · simp [entry, add, inBounds, equal ▸ inBounds]
  · simp [entry, add, inBounds, equal ▸ inBounds]

theorem entry_sub (equal : left.length = right.length) (position : Nat) :
    entry (sub left right) position = entry left position - entry right position := by
  by_cases inBounds : position < left.length
  · simp [entry, sub, inBounds, equal ▸ inBounds]
  · simp [entry, sub, inBounds, equal ▸ inBounds]

/-! ### Bounds -/

/-- Finitely many values lie below some positive one. -/
theorem exists_bound (values : List ℚ) : ∃ bound, 0 < bound ∧ ∀ value ∈ values, value ≤ bound := by
  obtain ⟨bound, above⟩ := values.toFinset.exists_le
  refine ⟨max bound 1, lt_max_of_lt_right one_pos, ?_⟩
  intro value member
  exact (above value (List.mem_toFinset.mpr member)).trans (le_max_left _ _)

/-- The same for values that belong to pairs of positions. -/
theorem exists_bound_pairs (count : Nat) (value : Nat → Nat → ℚ) :
    ∃ bound, 0 < bound ∧ ∀ i < count, ∀ j < count, value i j ≤ bound := by
  obtain ⟨bound, positive, above⟩ := exists_bound
    ((List.range count).flatMap fun i => (List.range count).map (value i))
  refine ⟨bound, positive, ?_⟩
  intro i i_lt j j_lt
  apply above
  rw [List.mem_flatMap]
  exact ⟨i, List.mem_range.mpr i_lt, List.mem_map_of_mem (List.mem_range.mpr j_lt)⟩

end Linear

/-!
## Sums over items

A quantity is added up over the items of a list.  Items that are left out count as zero, so
that sums over different selections of the same items can be compared item by item.

Where every item contributes a part of one, so does their mean, and it is one only where every
item contributes the whole.
-/

section

open Linear

variable {α β : Type}

theorem dot_map_map (items : List α) (first second : α → ℚ) :
    dot (items.map first) (items.map second) =
      (items.map fun item => first item * second item).sum := by
  induction items with
  | nil => rfl
  | cons item items ih => simp [ih]

theorem sum_map_sub (items : List α) (first second : α → ℚ) :
    (items.map first).sum - (items.map second).sum =
      (items.map fun item => first item - second item).sum := by
  induction items with
  | nil => simp
  | cons item items ih =>
      simp only [List.map_cons, List.sum_cons, ← ih]
      ring

theorem sum_map_filter (items : List α) (accept : α → Bool) (value : α → ℚ) :
    ((items.filter accept).map value).sum =
      (items.map fun item => if accept item then value item else 0).sum := by
  induction items with
  | nil => rfl
  | cons item items ih =>
      cases kind : accept item with
      | true => simp [kind, ih]
      | false => simp [kind, ih]

theorem sum_map_countP (items : List α) (accept : α → Bool) (value : ℚ) :
    (items.map fun item => if accept item then value else 0).sum =
      (items.countP accept : ℚ) * value := by
  induction items with
  | nil => simp
  | cons item items ih =>
      cases kind : accept item with
      | true =>
          simp only [List.map_cons, List.sum_cons, List.countP_cons, kind, if_true, ih]
          push_cast
          ring
      | false => simp [kind, ih]

/-- What is chosen for some of the items, added up over all of them. -/
theorem sum_map_filterMap (items : List α) (choice : α → Option β) (value : β → ℚ) :
    ((items.filterMap choice).map value).sum =
      (items.map fun item => (choice item).elim 0 value).sum := by
  induction items with
  | nil => rfl
  | cons item items ih =>
      cases chosen : choice item with
      | none => simp [chosen, ih]
      | some result => simp [chosen, ih]

/-! ### Means of parts of one -/

section Mean

variable {parts : List ℚ}

theorem sum_le_length (most : ∀ part ∈ parts, part ≤ 1) : parts.sum ≤ parts.length := by
  simpa using List.sum_le_card_nsmul parts 1 most

/-- Parts make up a whole each only if every one of them is whole. -/
theorem sum_eq_length_iff (most : ∀ part ∈ parts, part ≤ 1) :
    parts.sum = parts.length ↔ ∀ part ∈ parts, part = 1 := by
  induction parts with
  | nil => simp
  | cons part parts ih =>
      obtain ⟨first, others⟩ := List.forall_mem_cons.mp most
      have rest := sum_le_length others
      rw [List.forall_mem_cons, ← ih others, List.sum_cons, List.length_cons, Nat.cast_succ]
      constructor
      · intro whole
        constructor <;> linarith
      · rintro ⟨whole, wholes⟩
        linarith

theorem mean_pos (nonempty : parts ≠ []) (positive : ∀ part ∈ parts, 0 < part) :
    0 < parts.sum / parts.length :=
  div_pos (List.sum_pos parts positive nonempty)
    (Nat.cast_pos.mpr (List.length_pos_iff.mpr nonempty))

theorem mean_le_one (most : ∀ part ∈ parts, part ≤ 1) : parts.sum / parts.length ≤ 1 :=
  div_le_one_of_le₀ (sum_le_length most) (Nat.cast_nonneg _)

/-- The mean of parts is whole only if every one of them is. -/
theorem mean_eq_one_iff (nonempty : parts ≠ []) (most : ∀ part ∈ parts, part ≤ 1) :
    parts.sum / parts.length = 1 ↔ ∀ part ∈ parts, part = 1 := by
  have some : (parts.length : ℚ) ≠ 0 :=
    Nat.cast_ne_zero.mpr (List.length_pos_iff.mpr nonempty).ne'
  rw [div_eq_one_iff_eq some, sum_eq_length_iff most]

end Mean

end

end HingeRank
