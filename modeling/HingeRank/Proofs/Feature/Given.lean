import Mathlib
import HingeRank.Feature
import HingeRank.Proofs.Exact.Sequence

/-!
# From forms to vectors

Rows become canonical, and forms become vectors.
-/

namespace HingeRank

/-!
## Canonical rows

A canonical row names its columns in strictly ascending order.  For every column that a row names,
its canonical form has the sum of the values given for it, added up in the order in which they were
given, whatever the arithmetic.  What is canonical already stays as it is.
-/

namespace Sparse.Row

open Scalar

variable {K : Type} {row rest : Row K} {column other : Nat} {value total : K}

/-! ### Values given for a column -/

/-- The values that a row names for a column, in their order. -/
def valuesAt (row : Row K) (column : Nat) : List K :=
  (row.filter fun entry => entry.1 = column).map (·.2)

@[simp] theorem valuesAt_cons_self (column : Nat) (value : K) (row : Row K) :
    valuesAt ((column, value) :: row) column = value :: valuesAt row column := by
  simp [valuesAt]

theorem valuesAt_cons_of_ne (different : column ≠ other) (value : K) (row : Row K) :
    valuesAt ((column, value) :: row) other = valuesAt row other := by
  simp [valuesAt, different]

theorem valuesAt_eq_nil (unnamed : ∀ entry ∈ row, entry.1 ≠ column) : valuesAt row column = [] := by
  rw [valuesAt, List.map_eq_nil_iff, List.filter_eq_nil_iff]
  simpa using unnamed

theorem mem_of_mem_valuesAt (member : value ∈ valuesAt row column) : (column, value) ∈ row := by
  obtain ⟨⟨named, given⟩, kept, rfl⟩ := List.mem_map.mp member
  obtain ⟨entryMem, same⟩ := List.mem_filter.mp kept
  cases of_decide_eq_true same
  exact entryMem

/-! ### Sorted columns -/

/-- Columns in ascending order, possibly repeated. -/
def Ascending (row : Row K) : Prop := row.Pairwise fun left right => left.1 ≤ right.1

/-- Columns in strictly ascending order. -/
def IsCanonical (row : Row K) : Prop := row.Pairwise fun left right => left.1 < right.1

/-- Only the columns matter. -/
theorem Ascending.replace (ascending : Ascending ((column, total) :: rest)) (value : K) :
    Ascending ((column, value) :: rest) :=
  List.pairwise_cons.mpr (List.pairwise_cons.mp ascending)

/-- The row with its namings sorted by their columns. -/
def sorted (row : Row K) : Row K := row.mergeSort fun left right => left.1 ≤ right.1

theorem decide_le_trans (first second third : Nat × K) (before : decide (first.1 ≤ second.1) = true)
    (after : decide (second.1 ≤ third.1) = true) : decide (first.1 ≤ third.1) = true :=
  decide_eq_true ((of_decide_eq_true before).trans (of_decide_eq_true after))

theorem decide_le_total (first second : Nat × K) :
    (decide (first.1 ≤ second.1) || decide (second.1 ≤ first.1)) = true := by
  simpa using le_total first.1 second.1

theorem sorted_perm (row : Row K) : (sorted row).Perm row := List.mergeSort_perm _ _

theorem sorted_ascending (row : Row K) : Ascending (sorted row) :=
  (List.pairwise_mergeSort decide_le_trans decide_le_total row).imp of_decide_eq_true

/-- Sorting is stable: the values given for a column keep their order. -/
@[simp] theorem valuesAt_sorted (row : Row K) (column : Nat) :
    valuesAt (sorted row) column = valuesAt row column := by
  let namings := row.filter fun entry => entry.1 = column
  have level : namings.Pairwise fun left right => decide (left.1 ≤ right.1) = true := by
    refine List.pairwise_of_forall_mem_list fun first firstMem second secondMem => ?_
    have firstColumn := of_decide_eq_true (List.mem_filter.mp firstMem).2
    have secondColumn := of_decide_eq_true (List.mem_filter.mp secondMem).2
    exact decide_eq_true (firstColumn.trans secondColumn.symm).le
  have kept : namings.Sublist (sorted row) :=
    List.sublist_mergeSort decide_le_trans decide_le_total level List.filter_sublist
  have within : namings.Sublist ((sorted row).filter fun entry => entry.1 = column) := by
    have filtered := kept.filter fun entry => entry.1 = column
    simpa only [namings, List.filter_filter, Bool.and_self] using filtered
  have length_eq := ((sorted_perm row).filter fun entry => entry.1 = column).length_eq
  exact congrArg (List.map (·.2)) (within.eq_of_length length_eq.symm).symm

variable [Scalar K]

/-- The first of some values with all others added to it, from left to right. -/
def sumFrom? : List K → Option K
  | [] => none
  | first :: others => some (others.foldl (· + ·) first)

/-! ### Merging neighbours -/

theorem le_of_mem_gather (ascending : Ascending ((column, total) :: rest)) :
    ∀ entry ∈ gather column total rest, column ≤ entry.1 := by
  induction rest generalizing column total with
  | nil => simp [gather]
  | cons first rest ih =>
      obtain ⟨next, value⟩ := first
      obtain ⟨lower, later : Ascending _⟩ := List.pairwise_cons.mp ascending
      have step : column ≤ next := lower (next, value) List.mem_cons_self
      rw [gather]
      split
      next same =>
        subst same
        exact ih (later.replace _)
      next =>
        refine List.forall_mem_cons.mpr ⟨le_rfl, fun entry member => ?_⟩
        exact step.trans (ih later entry member)

theorem gather_isCanonical (ascending : Ascending ((column, total) :: rest)) :
    IsCanonical (gather column total rest) := by
  induction rest generalizing column total with
  | nil => exact List.pairwise_singleton _ _
  | cons first rest ih =>
      obtain ⟨next, value⟩ := first
      obtain ⟨lower, later : Ascending _⟩ := List.pairwise_cons.mp ascending
      have step : column ≤ next := lower (next, value) List.mem_cons_self
      rw [gather]
      split
      next same =>
        subst same
        exact ih (later.replace _)
      next different =>
        refine List.pairwise_cons.mpr ⟨fun entry member => ?_, ih later⟩
        have strict : column < next := lt_of_le_of_ne step (Ne.symm different)
        exact strict.trans_le (le_of_mem_gather later entry member)

/-- What is gathered: the total at its own column, and at each later column the sum of the values
there. -/
theorem mem_gather_iff (ascending : Ascending ((column, total) :: rest)) :
    (other, value) ∈ gather column total rest ↔
      sumFrom? (valuesAt ((column, total) :: rest) other) = some value := by
  induction rest generalizing column total with
  | nil =>
      by_cases same : column = other
      · subst same
        simp [gather, sumFrom?, valuesAt, eq_comm]
      · simp [gather, sumFrom?, valuesAt, same, Ne.symm same]
  | cons first rest ih =>
      obtain ⟨next, given⟩ := first
      obtain ⟨lower, later : Ascending _⟩ := List.pairwise_cons.mp ascending
      have step : column ≤ next := lower (next, given) List.mem_cons_self
      rw [gather]
      split
      next same =>
        subst same
        rw [ih (later.replace _)]
        by_cases same : next = other
        · subst same
          simp [sumFrom?]
        · simp [valuesAt_cons_of_ne same]
      next different =>
        have strict : column < next := lt_of_le_of_ne step (Ne.symm different)
        rw [List.mem_cons, ih later]
        by_cases same : column = other
        · subst same
          have unnamed : valuesAt ((next, given) :: rest) column = [] := by
            refine valuesAt_eq_nil (List.forall_mem_cons.mpr ⟨different, fun entry member => ?_⟩)
            exact (strict.trans_le ((List.pairwise_cons.mp later).1 entry member)).ne'
          rw [valuesAt_cons_self, unnamed]
          simp [sumFrom?, eq_comm]
        · rw [valuesAt_cons_of_ne same]
          simp [Ne.symm same]

/-- Where no column is repeated there is nothing to add up. -/
theorem gather_of_isCanonical (canonical : IsCanonical ((column, total) :: rest)) :
    gather column total rest = (column, total) :: rest := by
  induction rest generalizing column total with
  | nil => rfl
  | cons first rest ih =>
      obtain ⟨next, given⟩ := first
      obtain ⟨lower, later⟩ := List.pairwise_cons.mp canonical
      have strict : column < next := lower (next, given) List.mem_cons_self
      rw [gather, if_neg strict.ne', ih later]

/-! ### Canonical forms -/

theorem canonical_eq_merge (row : Row K) : canonical row = mergeNeighbours (sorted row) := rfl

theorem canonical_isCanonical (row : Row K) : IsCanonical (canonical row) := by
  have ascending := sorted_ascending row
  rw [canonical_eq_merge]
  cases found : sorted row with
  | nil => exact List.Pairwise.nil
  | cons first rest =>
      rw [found] at ascending
      exact gather_isCanonical ascending

/-- The canonical form has for each column the sum of the values given for it. -/
@[simp] theorem mem_canonical_iff :
    (column, value) ∈ canonical row ↔ sumFrom? (valuesAt row column) = some value := by
  have ascending := sorted_ascending row
  rw [canonical_eq_merge, ← valuesAt_sorted]
  cases found : sorted row with
  | nil => exact ⟨nofun, nofun⟩
  | cons first rest =>
      rw [found] at ascending
      exact mem_gather_iff ascending

/-- Only what is named has a place in the canonical form. -/
theorem exists_of_mem_canonical (member : (column, value) ∈ canonical row) :
    ∃ given, (column, given) ∈ row := by
  have summed := mem_canonical_iff.mp member
  cases found : valuesAt row column with
  | nil =>
      rw [found] at summed
      cases summed
  | cons given others => exact ⟨given, mem_of_mem_valuesAt (found ▸ List.mem_cons_self)⟩

theorem IsCanonical.canonical_eq (isCanonical : IsCanonical row) : canonical row = row := by
  have unchanged : sorted row = row := by
    refine List.mergeSort_of_pairwise (isCanonical.imp fun before => ?_)
    exact decide_eq_true before.le
  rw [canonical_eq_merge, unchanged]
  cases row with
  | nil => rfl
  | cons first rest => exact gather_of_isCanonical isCanonical

end Sparse.Row

/-!
## What a form gives for a feature vector

A form names positions and gives values for them.  An array names every position once.  A sparse
matrix with one row names columns and one with one column names rows, in any order and repeatedly.
A form is a vector by its shape alone, and it is accepted if the values that are examined are
finite.
-/

section

open Sparse

variable {K : Type}

namespace FeatureForm

/-- The positions that a form names, with the values given for them, in their order. -/
def namings : FeatureForm K → Row K
  | array content => content.entries.zipIdx.map fun (value, position) => (position, value)
  | matrix content =>
      if content.rows = 1 then content.entries.map fun entry => (entry.column, entry.value)
      else content.entries.map fun entry => (entry.row, entry.value)

/-- The form of a vector of a certain dimension. -/
inductive IsVector : Nat → FeatureForm K → Prop
  | list {content : Tensor K} {length : Nat} (shape : content.shape = [length]) :
      IsVector content.entries.length (.array content)
  | singleRow {content : Tensor K} {length : Nat} (shape : content.shape = [1, length]) :
      IsVector content.entries.length (.array content)
  | row {content : Matrix K} (one : content.rows = 1) : IsVector content.columns (.matrix content)
  | column {content : Matrix K} (one : content.columns = 1) :
      IsVector content.rows (.matrix content)

variable {form : FeatureForm K} {dimension : Nat}

/-- Only positions below the dimension are named. -/
theorem IsVector.inside (isVector : form.IsVector dimension) :
    ∀ naming ∈ form.namings, naming.1 < dimension := by
  intro naming member
  cases isVector with
  | list | singleRow =>
      obtain ⟨⟨value, position⟩, indexed, rfl⟩ := List.mem_map.mp member
      exact (List.mem_zipIdx indexed).2.1.trans_eq (Nat.zero_add _)
  | @row content one =>
      rw [namings, if_pos one] at member
      obtain ⟨entry, entryMem, rfl⟩ := List.mem_map.mp member
      exact (content.inside entry entryMem).2
  | @column content one =>
      rw [namings] at member
      split at member
      next single =>
        obtain ⟨entry, entryMem, rfl⟩ := List.mem_map.mp member
        rw [single]
        exact (content.inside entry entryMem).2.trans_eq one
      next =>
        obtain ⟨entry, entryMem, rfl⟩ := List.mem_map.mp member
        exact (content.inside entry entryMem).1

variable [Scalar K]

/-- The values that are examined: those that are given, or sums of them if triplets are. -/
def examined : FeatureForm K → Row K
  | array content => namings (array content)
  | matrix content =>
      match content.storage with
      | .triplets => (namings (matrix content)).canonical
      | .compressedRows => namings (matrix content)

/-- The vector that a form describes if it describes one. -/
def vector (dimension : Nat) : FeatureForm K → FeatureVector K
  | array content => .dense content.entries
  | matrix content => .sparse dimension (namings (matrix content)).canonical

@[simp] theorem allFinite_array (content : Tensor K) :
    (examined (.array content)).allFinite = Linear.allFinite content.entries := by
  have values := List.zipIdx_map_fst 0 content.entries
  rw [examined, namings, Row.allFinite, Linear.allFinite, List.all_map]
  conv_rhs => rw [← values, List.all_map]
  rfl

end FeatureForm

namespace FeatureVector

variable {vector : FeatureVector K} {dimension : Nat} {line : Row K}

/-- The line that a matrix stands for is what it names. -/
theorem lineOf?_eq_ok_iff {content : Matrix K} : lineOf? content = .ok (dimension, line) ↔
    FeatureForm.IsVector dimension (.matrix content) ∧
      line = FeatureForm.namings (.matrix content) := by
  rw [lineOf?, FeatureForm.namings]
  constructor
  · intro found
    split at found
    next one =>
      cases found
      exact ⟨.row one, (if_pos one).symm⟩
    next several =>
      split at found
      next one =>
        cases found
        exact ⟨.column one, (if_neg several).symm⟩
      next => cases found
  · rintro ⟨isVector, rfl⟩
    cases isVector with
    | row one => rw [if_pos one, if_pos one]
    | column one =>
        by_cases single : content.rows = 1
        · rw [if_pos single, if_pos single, one, single]
        · rw [if_neg single, if_pos one, if_neg single]

variable [Scalar K] {form : FeatureForm K}

/-- What has the form of a vector is refused only for what is not finite. -/
theorem ofForm?_eq (isVector : form.IsVector dimension) :
    ofForm? form =
      if form.examined.allFinite = true then .ok (form.vector dimension)
      else .error .notFinite := by
  cases form with
  | matrix content =>
      rw [ofForm?, ofMatrix?, lineOf?_eq_ok_iff.mpr ⟨isVector, rfl⟩]
      rfl
  | array content =>
      rw [ofForm?, FeatureForm.allFinite_array]
      cases isVector with
      | list shape | singleRow shape =>
          simp only [ofTensor?, shape]
          rfl

/-- An array is flattened if it has a single row. -/
theorem isVector_of_ofTensor? {content : Tensor K} (accepted : ofTensor? content = .ok vector) :
    ∃ dimension, FeatureForm.IsVector dimension (.array content) := by
  simp only [ofTensor?] at accepted
  split at accepted
  next length flat =>
    split at flat
    next row => exact ⟨_, .singleRow row⟩
    next => exact ⟨_, .list flat⟩
  next => cases accepted

theorem isVector_of_ofForm? (accepted : ofForm? form = .ok vector) :
    ∃ dimension, form.IsVector dimension := by
  cases form with
  | array content => exact isVector_of_ofTensor? accepted
  | matrix content =>
      obtain ⟨⟨dimension, line⟩, found, -⟩ := of_bind accepted
      exact ⟨dimension, (lineOf?_eq_ok_iff.mp found).1⟩

/-- A form is accepted exactly if it is a vector and what is examined is finite. -/
theorem ofForm?_eq_ok_iff : ofForm? form = .ok vector ↔
    ∃ dimension, form.IsVector dimension ∧ form.examined.allFinite = true ∧
      vector = form.vector dimension := by
  constructor
  · intro accepted
    obtain ⟨dimension, isVector⟩ := isVector_of_ofForm? accepted
    rw [ofForm?_eq isVector] at accepted
    split at accepted
    next finite => exact ⟨dimension, isVector, finite, (Except.ok.inj accepted).symm⟩
    next => cases accepted
  · rintro ⟨dimension, isVector, finite, rfl⟩
    rw [ofForm?_eq isVector, if_pos finite]

end FeatureVector

end

end HingeRank
