import Mathlib
import HingeRank.Proofs.Exact.Double
import HingeRank.Proofs.Feature.Given
import HingeRank.Proofs.Feature.Stacks

/-!
# Accepted vectors

Which numbers an accepted vector holds, and the components that a form gives.
-/

namespace HingeRank

/-!
## Which numbers an accepted vector holds

A vector that is accepted has finite components if it is dense, and if it is sparse it names
columns in strictly ascending order, all of them below its dimension.  A sum of values given for
one column is finite if it was examined itself, as it is for triplets.  Where the values were
examined one by one, their sum can still be infinite.

A vector is accepted again exactly if what it holds is finite, and is then the same vector.
-/

section

open Sparse

/-! ### Vectors as values -/

namespace Value

@[simp] theorem commonShape?_floats (depth : Nat) (components : List Float) :
    commonShape? depth (components.map float) = .ok [] := by
  induction components with
  | nil => simp [commonShape?]
  | cons first rest ih =>
      cases rest with
      | nil => simp [commonShape?, shape?]
      | cons second rest =>
          simp only [List.map_cons] at ih ⊢
          simp [commonShape?, shape?, ih]

@[simp] theorem entriesOfAll?_floats (components : List Float) :
    entriesOfAll? (components.map float) = .ok components := by
  induction components with
  | nil => simp [entriesOfAll?]
  | cons first rest ih =>
      simp [entriesOfAll?, entries?, ih]
      rfl

/-- A list of doubles is an array with one extent. -/
@[simp] theorem toTensor?_floats (components : List Float) :
    (list (components.map float)).toTensor? = .ok (.vector components) := by
  simp [toTensor?, shape?, entries?, maximalDepth]
  rfl

end Value

namespace FeatureVector

/-- The entries of a matrix with this row as its only row. -/
def rowEntries (row : Row Float) : List (Entry Float) :=
  row.map fun (column, value) => ⟨0, column, value⟩

/-- The value that lists the components of a vector, or the matrix with its row. -/
def toValue? : FeatureVector Float → Option Value
  | dense components => some (.list (components.map .float))
  | sparse dimension row =>
      (Matrix.ofEntries? 1 dimension .compressedRows (rowEntries row)).map .matrix

/-- What a vector holds is finite. -/
def IsFinite : FeatureVector Float → Prop
  | dense components => ∀ component ∈ components, component.isFinite = true
  | sparse _ row => ∀ entry ∈ row, entry.2.isFinite = true

@[simp] theorem allFinite_iff {components : List Float} :
    Linear.allFinite components = true ↔ ∀ component ∈ components, component.isFinite = true := by
  simp only [Linear.allFinite, List.all_eq_true, Double.isFinite_eq]

@[simp] theorem row_allFinite_iff {row : Row Float} :
    row.allFinite = true ↔ ∀ entry ∈ row, entry.2.isFinite = true := by
  simp only [Row.allFinite, List.all_eq_true, Double.isFinite_eq]

/-- A vector is taken for itself, unless it holds what is not finite. -/
structure Reaccepted (vector : FeatureVector Float) (shown : Value) : Prop where
  shows : vector.toValue? = some shown
  accepted : vector.IsFinite → ofValue? shown = .ok vector
  refused : ¬ vector.IsFinite → ofValue? shown = .error .notFinite

theorem dense_reaccepted (components : List Float) :
    Reaccepted (.dense components) (.list (components.map .float)) := by
  have form : FeatureForm.ofValue? (.list (components.map .float)) =
      .ok (.array (.vector components)) := by
    rw [FeatureForm.ofValue?, Value.toTensor?_floats]
    exact nofun
  have made : ofValue? (.list (components.map .float)) =
      if Linear.allFinite components = true then .ok (.dense components)
      else .error .notFinite := by
    have isVector : FeatureForm.IsVector _ (.array (.vector components)) := .list rfl
    have normalised := ofForm?_eq isVector
    rw [FeatureForm.allFinite_array] at normalised
    rw [ofValue?, form]
    exact normalised
  refine ⟨rfl, fun finite => ?_, fun infinite => ?_⟩
  · rw [made, if_pos (allFinite_iff.mpr finite)]
  · rw [made, if_neg (mt allFinite_iff.mp infinite)]

/-- The matrix with a canonical row as its only row describes the vector with this row. -/
theorem sparse_reaccepted {dimension : Nat} {row : Row Float} (canonical : row.IsCanonical)
    (inRange : ∀ entry ∈ row, entry.1 < dimension) :
    ∃ shown, Reaccepted (.sparse dimension row) shown := by
  have inside : ∀ entry ∈ rowEntries row, entry.row < 1 ∧ entry.column < dimension := by
    intro entry member
    obtain ⟨naming, namingMem, rfl⟩ := List.mem_map.mp member
    exact ⟨Nat.zero_lt_one, inRange naming namingMem⟩
  let shown : Matrix Float := ⟨1, dimension, .compressedRows, rowEntries row, inside⟩
  have namings_eq : FeatureForm.namings (.matrix shown) = row := by
    rw [FeatureForm.namings, if_pos rfl]
    simp [shown, rowEntries, Function.comp_def]
  have made : ofValue? (.matrix shown) =
      if row.allFinite = true then .ok (.sparse dimension row) else .error .notFinite := by
    have isVector : FeatureForm.IsVector dimension (.matrix shown) :=
      @FeatureForm.IsVector.row _ shown rfl
    have examined_eq : FeatureForm.examined (.matrix shown) = row := namings_eq
    have vector_eq : FeatureForm.vector dimension (.matrix shown) = .sparse dimension row := by
      rw [FeatureForm.vector, namings_eq, canonical.canonical_eq]
    have normalised := ofForm?_eq isVector
    rw [examined_eq, vector_eq] at normalised
    exact normalised
  refine ⟨.matrix shown, ?_, fun finite => ?_, fun infinite => ?_⟩
  · rw [toValue?, Matrix.ofEntries?, dif_pos inside]
    rfl
  · rw [made, if_pos (row_allFinite_iff.mpr finite)]
  · rw [made, if_neg (mt row_allFinite_iff.mp infinite)]

/-! ### Accepted vectors -/

/-- The row of a vector that a matrix describes. -/
structure NormalRow (content : Matrix Float) (dimension : Nat) (row : Row Float) : Prop where
  strict : row.Pairwise fun left right => left.1 < right.1
  in_range : ∀ entry ∈ row, entry.1 < dimension
  /-- What is given for one column is added up in the order in which it is given. -/
  sum_iff : ∀ column total, (column, total) ∈ row ↔
    Row.sumFrom? (Row.valuesAt (FeatureForm.namings (.matrix content)) column) = some total
  given_finite : content.storage = .compressedRows →
    ∀ entry ∈ content.entries, entry.value.isFinite = true
  triplets_finite : content.storage = .triplets → ∀ entry ∈ row, entry.2.isFinite = true
  /-- What is given only once is finite. -/
  single_finite : ∀ entry ∈ row,
    (Row.valuesAt (FeatureForm.namings (.matrix content)) entry.1).length = 1 →
      entry.2.isFinite = true

/-- What is known of an accepted vector. -/
structure Accepted (value : Value) (vector : FeatureVector Float) : Prop where
  dense_finite : ∀ components, vector = .dense components →
    ∀ component ∈ components, component.isFinite = true
  sparse_normal : ∀ dimension row, vector = .sparse dimension row →
    ∃ content, value = .matrix content ∧ NormalRow content dimension row
  again : ∃ shown, Reaccepted vector shown

/-- Every value that is stored is given for some position. -/
theorem exists_mem_namings {content : Matrix Float} {entry : Entry Float}
    (member : entry ∈ content.entries) :
    ∃ position, (position, entry.value) ∈ FeatureForm.namings (.matrix content) := by
  rw [FeatureForm.namings]
  split
  next => exact ⟨_, List.mem_map_of_mem member⟩
  next => exact ⟨_, List.mem_map_of_mem member⟩

theorem normalRow {content : Matrix Float} {dimension : Nat}
    (isVector : FeatureForm.IsVector dimension (.matrix content))
    (finite : (FeatureForm.examined (.matrix content)).allFinite = true) :
    NormalRow content dimension (Row.canonical (FeatureForm.namings (.matrix content))) := by
  have triplets_finite (triplets : content.storage = .triplets) :
      ∀ entry ∈ Row.canonical (FeatureForm.namings (.matrix content)),
        entry.2.isFinite = true := by
    rw [FeatureForm.examined, triplets] at finite
    exact row_allFinite_iff.mp finite
  have namings_finite (stored : content.storage = .compressedRows) :
      ∀ naming ∈ FeatureForm.namings (.matrix content), naming.2.isFinite = true := by
    rw [FeatureForm.examined, stored] at finite
    exact row_allFinite_iff.mp finite
  constructor
  case strict => exact Row.canonical_isCanonical _
  case in_range =>
    rintro ⟨column, total⟩ member
    obtain ⟨given, naming⟩ := Row.exists_of_mem_canonical member
    exact isVector.inside (column, given) naming
  case sum_iff => exact fun _ _ => Row.mem_canonical_iff
  case given_finite =>
    intro stored entry member
    obtain ⟨position, naming⟩ := exists_mem_namings member
    exact namings_finite stored (position, entry.value) naming
  case triplets_finite => exact triplets_finite
  case single_finite =>
    rintro ⟨column, total⟩ member single
    cases stored : content.storage with
    | triplets => exact triplets_finite stored _ member
    | compressedRows =>
        obtain ⟨given, only⟩ := List.length_eq_one_iff.mp single
        have naming : (column, given) ∈ FeatureForm.namings (.matrix content) :=
          Row.mem_of_mem_valuesAt (only ▸ List.mem_singleton_self given)
        have summed := Row.mem_canonical_iff.mp member
        rw [only] at summed
        have same : given = total := Option.some.inj summed
        exact same ▸ namings_finite stored (column, given) naming

/-- A value with the form of a matrix is one. -/
theorem eq_matrix_of_ofValue? {value : Value} {content : Matrix Float}
    (found : FeatureForm.ofValue? value = .ok (.matrix content)) : value = .matrix content := by
  unfold FeatureForm.ofValue? at found
  split at found
  next => cases found; rfl
  next => split at found <;> cases found

/-- **What is accepted is canonical**, and finite where its values are given once or are
examined after they have been added up. -/
theorem accepted_canonical {value : Value} {vector : FeatureVector Float}
    (accepted : ofValue? value = .ok vector) : Accepted value vector := by
  obtain ⟨form, found, accepted⟩ := of_bind accepted
  obtain ⟨dimension, isVector, finite, rfl⟩ := ofForm?_eq_ok_iff.mp accepted
  cases form with
  | array content =>
      rw [FeatureForm.allFinite_array] at finite
      constructor
      case dense_finite =>
        rintro components ⟨⟩
        exact allFinite_iff.mp finite
      case sparse_normal => exact fun _ _ impossible => nomatch impossible
      case again => exact ⟨_, dense_reaccepted content.entries⟩
  | matrix content =>
      have normal := normalRow isVector finite
      constructor
      case dense_finite => exact fun _ impossible => nomatch impossible
      case sparse_normal =>
        rintro _ _ ⟨⟩
        exact ⟨content, eq_matrix_of_ofValue? found, normal⟩
      case again => exact sparse_reaccepted normal.strict normal.in_range

/-- A row that names its last column twice, before and after another one. -/
def repeating : Matrix Float where
  rows := 1
  columns := 3
  storage := .compressedRows
  entries := [⟨0, 2, 0.5⟩, ⟨0, 0, 2⟩, ⟨0, 2, 0.25⟩]
  inside := by simp

theorem accepted_canonical_repeating :
    ofValue? (.matrix repeating) = .ok (.sparse 3 [(0, 2), (2, 0.75)]) ∧
      Accepted (.matrix repeating) (.sparse 3 [(0, 2), (2, 0.75)]) := by
  have sum : (0.5 : Float) + 0.25 = 0.75 := by decide
  have canonical : Row.canonical [(2, (0.5 : Float)), (0, 2), (2, 0.25)] = [(0, 2), (2, 0.75)] := by
    simp [Row.canonical, List.mergeSort, List.MergeSort.Internal.splitInTwo, Row.mergeNeighbours,
      Row.gather, sum]
  have accepted : ofValue? (.matrix repeating) = .ok (.sparse 3 [(0, 2), (2, 0.75)]) := by
    rw [← canonical]
    rfl
  exact ⟨accepted, accepted_canonical accepted⟩

/-- The double nearest to `1e308`, more than half of the largest one. -/
def huge : Float := .ofBits 0x7FE1CCF385EBC8A0

/-- A row that names one column twice, each time with a finite value. -/
def overflowing : Matrix Float where
  rows := 1
  columns := 3
  storage := .compressedRows
  entries := [⟨0, 1, huge⟩, ⟨0, 1, huge⟩]
  inside := by simp

/-- An accepted vector can be infinite, and is not accepted again then. -/
theorem infinite_accepted :
    ofValue? (.matrix overflowing) = .ok (.sparse 3 [(1, huge + huge)]) ∧
      (huge + huge).isFinite = false ∧
      ∃ shown, toValue? (.sparse 3 [(1, huge + huge)]) = some shown ∧
        ofValue? shown = .error .notFinite := by
  have infinite : (huge + huge).isFinite = false := by decide
  have canonical : Row.canonical [(1, huge), (1, huge)] = [(1, huge + huge)] := by
    simp [Row.canonical, List.mergeSort, List.MergeSort.Internal.splitInTwo, Row.mergeNeighbours,
      Row.gather]
  have accepted : ofValue? (.matrix overflowing) = .ok (.sparse 3 [(1, huge + huge)]) := by
    rw [← canonical]
    rfl
  have inRange : ∀ entry ∈ [(1, huge + huge)], entry.1 < 3 := by simp
  obtain ⟨shown, again⟩ := sparse_reaccepted (List.pairwise_singleton _ _) inRange
  refine ⟨accepted, infinite, shown, again.shows, again.refused fun finite => ?_⟩
  have stored : (huge + huge).isFinite = true := finite (1, huge + huge) List.mem_cons_self
  rw [infinite] at stored
  cases stored

end FeatureVector

end

/-!
## Components that a form gives

A component is the sum of all values that a form gives for its position.  With exact arithmetic it
does not matter for an inner product whether these values have been added up before, in which order
they are given, or whether zeros are named.  The vector made of a form therefore has the components
that the form gives, whatever kind of form it is.
-/

section

open Linear Sparse

namespace Linear

/-- An inner product goes through the positions. -/
theorem dot_map_range (value : Nat → ℚ) (weights : List ℚ) :
    dot ((List.range weights.length).map value) weights =
      ∑ position ∈ Finset.range weights.length, entry weights position * value position := by
  induction weights generalizing value with
  | nil => simp
  | cons weight weights ih =>
      rw [List.length_cons, List.range_succ_eq_map, List.map_cons, List.map_map, dot_cons_cons, ih,
        Finset.sum_range_succ', entry_cons_zero, mul_comm, Rat.add_comm]
      rfl

end Linear

/-! ### Inner products with rows -/

namespace Sparse.Row

variable {weights : List ℚ} {row : Row ℚ} {dimension : Nat}

theorem dot_perm {other : Row ℚ} (perm : row.Perm other) (weights : List ℚ) :
    row.dot weights = other.dot weights := by
  rw [Row.dot, Row.dot, sum_eq, sum_eq]
  exact (perm.map _).sum_eq

theorem dot_gather (weights : List ℚ) (column : Nat) (total : ℚ) (row : Row ℚ) :
    (gather column total row).dot weights = total * entry weights column + row.dot weights := by
  induction row generalizing column total with
  | nil => simp [gather]
  | cons first row ih =>
      obtain ⟨next, value⟩ := first
      rw [gather]
      split
      next same =>
        rw [ih, dot_cons, same]
        ring
      next => rw [dot_cons, ih, dot_cons]

/-- Adding up what is given for one column changes no inner product. -/
@[simp] theorem dot_canonical (weights : List ℚ) (row : Row ℚ) :
    row.canonical.dot weights = row.dot weights := by
  rw [← dot_perm (sorted_perm row), canonical_eq_merge]
  cases sorted row with
  | nil => rfl
  | cons first rest =>
      obtain ⟨column, value⟩ := first
      rw [mergeNeighbours, dot_gather, dot_cons]

/-- Leaving out zeros changes no inner product. -/
@[simp] theorem dot_filter_nonzero (weights : List ℚ) (row : Row ℚ) :
    Row.dot weights (row.filter fun naming => !Scalar.same naming.2 0) = row.dot weights := by
  induction row with
  | nil => rfl
  | cons first row ih =>
      obtain ⟨column, value⟩ := first
      by_cases zero : value = 0
      · simp [zero, ih]
      · simp [zero, ih]

/-- An inner product goes through the columns. -/
theorem dot_eq_sum (inside : ∀ naming ∈ row, naming.1 < dimension) (weights : List ℚ) :
    row.dot weights =
      ∑ column ∈ Finset.range dimension, entry weights column * (valuesAt row column).sum := by
  induction row with
  | nil => simp [valuesAt]
  | cons first row ih =>
      obtain ⟨named, value⟩ := first
      obtain ⟨inBounds, later⟩ := List.forall_mem_cons.mp inside
      have split_sum (column : Nat) :
          entry weights column * (valuesAt ((named, value) :: row) column).sum =
            (if named = column then value * entry weights named else 0) +
              entry weights column * (valuesAt row column).sum := by
        by_cases same : named = column
        · subst same
          rw [valuesAt_cons_self, List.sum_cons, if_pos rfl]
          ring
        · rw [valuesAt_cons_of_ne same, if_neg same, zero_add]
      rw [dot_cons, ih later, Finset.sum_congr rfl fun column _ => split_sum column,
        Finset.sum_add_distrib, Finset.sum_ite_eq, if_pos (Finset.mem_range.mpr inBounds)]

end Sparse.Row

/-! ### Components -/

namespace FeatureForm

variable {form : FeatureForm ℚ} {dimension : Nat} {weights : List ℚ}

/-- The sum of all values that are given for a position. -/
def component (form : FeatureForm ℚ) (position : Nat) : ℚ :=
  (Row.valuesAt form.namings position).sum

/-- The inner product of weights with the components that are given. -/
def product (dimension : Nat) (weights : List ℚ) (form : FeatureForm ℚ) : ℚ :=
  ∑ position ∈ Finset.range dimension, entry weights position * form.component position

/-- An array names what is not zero, and zeros. -/
@[simp] theorem dot_namings_array (content : Tensor ℚ) (weights : List ℚ) :
    Row.dot weights (namings (.array content)) = Linear.dot content.entries weights := by
  rw [← Row.dot_ofComponents, ← Row.dot_filter_nonzero, namings, Row.ofComponents, List.filter_map]
  rfl

@[simp] theorem dot_vector (isVector : form.IsVector dimension) (weights : List ℚ) :
    (form.vector dimension).dot weights = form.product dimension weights := by
  refine Eq.trans ?_ (Row.dot_eq_sum isVector.inside weights)
  cases form with
  | array content => exact (dot_comm _ _).trans (dot_namings_array content weights).symm
  | matrix content => exact Row.dot_canonical weights _

@[simp] theorem dimension_vector (isVector : form.IsVector dimension) :
    (form.vector dimension).dimension = dimension := by
  cases isVector <;> rfl

/-- Exact numbers are finite, so that every form of a vector is accepted. -/
theorem ofForm?_vector (isVector : form.IsVector dimension) :
    FeatureVector.ofForm? form = .ok (form.vector dimension) := by
  have finite : form.examined.allFinite = true := by simp [Row.allFinite]
  rw [FeatureVector.ofForm?_eq isVector, if_pos finite]

/-- All components that are given. -/
def contents (dimension : Nat) (form : FeatureForm ℚ) : List ℚ :=
  (List.range dimension).map form.component

theorem product_eq_dot (form : FeatureForm ℚ) (weights : List ℚ) :
    form.product weights.length weights = Linear.dot (form.contents weights.length) weights :=
  (dot_map_range form.component weights).symm

/-- A vector has the components that its form gives. -/
@[simp] theorem components_vector (isVector : form.IsVector dimension) :
    (form.vector dimension).components = form.contents dimension := by
  have length_eq : (form.vector dimension).components.length = dimension := by
    rw [FeatureVector.length_components, dimension_vector isVector]
  apply ext_dot
  · rw [length_eq, contents, List.length_map, List.length_range]
  · intro weights equal
    rw [length_eq] at equal
    subst equal
    rw [FeatureVector.dot_components _ (dimension_vector isVector).symm, dot_vector isVector,
      product_eq_dot]

end FeatureForm

end

end HingeRank
