import Mathlib
import HingeRank.Proofs.Exact.Sequence
import HingeRank.Tensor

/-!
# Lengths

What depends on the lengths of vectors alone holds whatever the numbers in them are.
-/

namespace HingeRank

/-!
## Lengths of vectors

The lengths of vectors do not depend on the numbers in them.  They are therefore found
without any law of arithmetic, and what is said of them holds of programs as well as of exact
computations.
-/

namespace Linear

variable {K : Type} [Scalar K] {rows : List (List K)} {dimension : Nat}

@[simp] theorem length_zeros (dimension : Nat) : (zeros dimension : List K).length = dimension :=
  List.length_replicate

@[simp] theorem length_add (left right : List K) :
    (add left right).length = min left.length right.length := List.length_zipWith

@[simp] theorem length_sub (left right : List K) :
    (sub left right).length = min left.length right.length := List.length_zipWith

@[simp] theorem length_scale (factor : K) (vector : List K) :
    (scale factor vector).length = vector.length := List.length_map _

@[simp] theorem length_neg (vector : List K) : (neg vector).length = vector.length :=
  List.length_map _

@[simp] theorem length_apply (rows : List (List K)) (vector : List K) :
    (apply rows vector).length = rows.length := List.length_map _

theorem length_foldl_add (rows : List (List K)) (dimension : Nat)
    (aligned : ∀ row ∈ rows, row.length = dimension) (start : List K)
    (begins : start.length = dimension) : (rows.foldl add start).length = dimension := by
  induction rows generalizing start with
  | nil => exact begins
  | cons row rows ih =>
      refine ih (fun other member => aligned other (List.mem_cons_of_mem _ member)) _ ?_
      simp [begins, aligned row List.mem_cons_self]

theorem length_of_mem_scaled {coefficients : List K}
    (aligned : ∀ row ∈ rows, row.length = dimension) :
    ∀ row ∈ List.zipWith scale coefficients rows, row.length = dimension := by
  intro row member
  obtain ⟨index, inBounds, rfl⟩ := List.mem_iff_getElem.mp member
  simp only [List.getElem_zipWith, length_scale]
  exact aligned _ (List.getElem_mem _)

@[simp] theorem length_combine (coefficients : List K)
    (aligned : ∀ row ∈ rows, row.length = dimension) :
    (combine dimension coefficients rows).length = dimension :=
  length_foldl_add _ dimension (length_of_mem_scaled aligned) _ (length_zeros dimension)

end Linear

/-!
## Vectors as arrays

Arrays with one extent are combined and multiplied like the vectors that they are, provided
that their lengths are the same.
-/

namespace Tensor

variable {K L M : Type}

@[simp] theorem places_singleton (extent : Nat) :
    places [extent] = (List.range extent).map ([·]) := by
  rw [List.map_eq_flatMap]
  rfl

/-- The place of an entry in a vector is its position, also where there is only one. -/
@[simp] theorem entryAt?_vector (entries : List K) {position : Nat}
    (inBounds : position < entries.length) :
    (vector entries).entryAt? [position] = some entries[position] := by
  have index : (if entries.length = 1 then 0 else position) = position := by
    split
    next => omega
    next => rfl
  simp [entryAt?, vector, index, inBounds]

/-- A list is read back from its positions. -/
@[simp] theorem filterMap_range_getElem? (entries : List M) :
    (List.range entries.length).filterMap (entries[·]?) = entries := by
  induction entries with
  | nil => rfl
  | cons entry entries ih =>
      rw [List.length_cons, List.range_succ_eq_map, List.filterMap_cons, List.getElem?_cons_zero,
        List.filterMap_map]
      exact congrArg (entry :: ·) ih

/-- Vectors of one length are combined entry by entry. -/
@[simp] theorem zipWith?_vector (combine : K → L → M) {left : List K} {right : List L}
    (equal : left.length = right.length) :
    zipWith? combine (vector left) (vector right) =
      .ok (vector (List.zipWith combine left right)) := by
  have length_eq : (List.zipWith combine left right).length = left.length := by
    rw [List.length_zipWith, equal, min_self]
  have aligned : align? (vector left).shape (vector right).shape = some [left.length] := by
    simp [align?, alignReversed?, vector, equal]
  have entries : ((places [left.length]).filterMap fun place => do
      return combine (← (vector left).entryAt? place) (← (vector right).entryAt? place)) =
        List.zipWith combine left right := by
    rw [places_singleton, List.filterMap_map]
    refine Eq.trans ?_ (filterMap_range_getElem? _)
    rw [length_eq]
    apply List.filterMap_congr
    intro position member
    have leftBounds := List.mem_range.mp member
    have rightBounds := equal ▸ leftBounds
    simp [leftBounds, rightBounds]
  rw [zipWith?, aligned]
  simp only [build, entries]
  rw [vector, length_eq]

/-- A vector is changed by another one of its length. -/
@[simp] theorem update?_vector (combine : K → L → K) {left : List K} {right : List L}
    (equal : left.length = right.length) :
    update? combine (vector left) (vector right) =
      .ok (vector (List.zipWith combine left right)) := by
  have kept : (vector (List.zipWith combine left right)).shape = (vector left).shape := by
    simp [vector, equal]
  simp [update?, equal, kept]

/-- Vectors of one length have an inner product. -/
@[simp] theorem inner?_vector [Scalar K] {left right : List K}
    (equal : left.length = right.length) :
    inner? (vector left) (vector right) = .ok (Linear.dot left right) := by
  simp [inner?, vector, equal]

end Tensor

end HingeRank
