import Mathlib
import HingeRank.Dataset
import HingeRank.Proofs.Feature.Accepted

/-!
# Refused vectors

Nested lists as arrays, and values that are no feature vectors.
-/

namespace HingeRank

/-!
## Nested lists as arrays

Nested lists have a shape if, on every level, lists of one length stand side by side.  What they
hold at the innermost level is turned into doubles from the first to the last, so that an array is
refused because of the first of these that is none.
-/

namespace Value

variable {value : Value} {items : List Value} {depth : Nat} {shape extents : List Nat}

/-- The items of a list or of a tuple. -/
def elements? : Value → Option (List Value)
  | list items | tuple items => some items
  | _ => none

/-- Nested lists have a shape.  Values that are no lists have the empty one, and a list without
items has a single extent. -/
def HasShape : List Nat → Value → Prop
  | [], value => value.elements? = none
  | extent :: extents, value => ∃ items, value.elements? = some items ∧ items.length = extent ∧
      (∀ item ∈ items, HasShape extents item) ∧ (items = [] → extents = [])

/-! ### One level -/

theorem shape?_of_single (single : value.elements? = none) : value.shape? depth = .ok [] := by
  cases value <;> first | rfl | cases single

theorem shape?_zero (nested : value.elements? = some items) :
    value.shape? 0 = .error .badValue := by
  cases value <;> first | rfl | cases nested

theorem shape?_succ (nested : value.elements? = some items) :
    value.shape? (depth + 1) = do return items.length :: (← commonShape? depth items) := by
  cases value <;> cases nested <;> rfl

theorem leaves_of_single (single : value.elements? = none) : value.leaves = [value] := by
  cases value <;> first | rfl | cases single

theorem leavesOfAll_eq (items : List Value) : leavesOfAll items = items.flatMap leaves := by
  induction items with
  | nil => rfl
  | cons item rest ih => rw [leavesOfAll, ih, List.flatMap_cons]

theorem leaves_of_elements (nested : value.elements? = some items) :
    value.leaves = items.flatMap leaves := by
  rw [← leavesOfAll_eq]
  cases value <;> cases nested <;> rfl

/-! ### Shapes -/

/-- Values have a common shape if each of them has it; none at all have the empty shape only. -/
theorem commonShape?_eq_ok_iff : commonShape? depth items = .ok extents ↔
    (∀ item ∈ items, item.shape? depth = .ok extents) ∧ (items = [] → extents = []) := by
  induction items with
  | nil => simp [commonShape?, eq_comm]
  | cons first rest ih =>
      cases rest with
      | nil => simp [commonShape?]
      | cons second rest =>
          simp only [reduceCtorEq, false_implies, and_true] at ih ⊢
          rw [List.forall_mem_cons, ← ih, commonShape?]
          · constructor
            · intro common
              obtain ⟨own, made, common⟩ := of_bind common
              obtain ⟨others, madeOthers, common⟩ := of_bind common
              split at common
              next same =>
                cases common
                exact ⟨made, same ▸ madeOthers⟩
              next => cases common
            · rintro ⟨made, madeOthers⟩
              rw [made, madeOthers]
              exact if_pos rfl
          · simp

/-- The shape of a list is its length before the common shape of its items. -/
theorem shape?_succ_eq_ok_iff (nested : value.elements? = some items) :
    value.shape? (depth + 1) = .ok shape ↔
      ∃ extents, commonShape? depth items = .ok extents ∧ items.length :: extents = shape := by
  rw [shape?_succ nested]
  constructor
  · intro found
    obtain ⟨extents, common, found⟩ := of_bind found
    exact ⟨extents, common, Except.ok.inj found⟩
  · rintro ⟨extents, common, rfl⟩
    rw [common]
    rfl

/-- The shape that is found is the one that nested lists have, unless there are too many levels. -/
theorem shape?_eq_ok_iff : value.shape? depth = .ok shape ↔
    HasShape shape value ∧ shape.length ≤ depth := by
  induction shape generalizing value depth with
  | nil =>
      cases nested : value.elements? with
      | none => simp [HasShape, nested, shape?_of_single]
      | some items =>
          cases depth with
          | zero => simp [HasShape, nested, shape?_zero nested]
          | succ depth => simp [HasShape, nested, shape?_succ_eq_ok_iff nested]
  | cons extent extents ih =>
      cases nested : value.elements? with
      | none => simp [HasShape, nested, shape?_of_single]
      | some items =>
          cases depth with
          | zero => simp [shape?_zero nested]
          | succ depth =>
              rw [shape?_succ_eq_ok_iff nested]
              constructor
              · rintro ⟨_, common, found⟩
                obtain ⟨rfl, rfl⟩ := List.cons.inj found
                obtain ⟨each, bare⟩ := commonShape?_eq_ok_iff.mp common
                have has := fun item member => (ih.mp (each item member)).1
                refine ⟨⟨items, nested, rfl, has, bare⟩, Nat.succ_le_succ ?_⟩
                -- The first item tells how many levels there are, and without one there are none.
                cases items with
                | nil => simp [bare rfl]
                | cons first rest => exact (ih.mp (each first List.mem_cons_self)).2
              · rintro ⟨⟨others, elements, rfl, each, bare⟩, shallow⟩
                cases nested.symm.trans elements
                have found := fun item member =>
                  ih.mpr ⟨each item member, Nat.le_of_succ_le_succ shallow⟩
                exact ⟨extents, commonShape?_eq_ok_iff.mpr ⟨found, bare⟩, rfl⟩

theorem eq_badValue_of_commonShape? {fault : Fault}
    (each : ∀ item ∈ items, ∀ other, item.shape? depth = .error other → other = .badValue)
    (failed : commonShape? depth items = .error fault) : fault = .badValue := by
  induction items with
  | nil => cases failed
  | cons first rest ih =>
      obtain ⟨own, others⟩ := List.forall_mem_cons.mp each
      cases rest with
      | nil => exact own fault failed
      | cons second rest =>
          rw [commonShape?, bind_eq_error_iff] at failed
          · rcases failed with failed | ⟨extents, -, failed⟩
            · exact own fault failed
            · rcases bind_eq_error_iff.mp failed with failed | ⟨_, -, failed⟩
              · exact ih others failed
              · split at failed <;> cases failed
                rfl
          · simp

/-- Nested lists without a shape are refused as such. -/
theorem eq_badValue_of_shape? {fault : Fault} (failed : value.shape? depth = .error fault) :
    fault = .badValue := by
  induction depth generalizing value fault with
  | zero =>
      cases nested : value.elements? with
      | none => cases (shape?_of_single nested).symm.trans failed
      | some items =>
          cases (shape?_zero nested).symm.trans failed
          rfl
  | succ depth ih =>
      cases nested : value.elements? with
      | none => cases (shape?_of_single nested).symm.trans failed
      | some items =>
          rw [shape?_succ nested] at failed
          rcases bind_eq_error_iff.mp failed with failed | ⟨_, -, impossible⟩
          · exact eq_badValue_of_commonShape? (fun item _ other => ih) failed
          · cases impossible

/-! ### Entries -/

theorem length_leaves (has : HasShape shape value) : value.leaves.length = shape.prod := by
  induction shape generalizing value with
  | nil => rw [leaves_of_single has, List.prod_nil, List.length_singleton]
  | cons extent extents ih =>
      obtain ⟨items, nested, rfl, each, -⟩ := has
      have lengths : items.map (leaves · |>.length) = items.map fun _ => extents.prod :=
        List.map_congr_left fun item member => ih (each item member)
      rw [leaves_of_elements nested, List.length_flatMap, lengths, List.map_const',
        List.sum_replicate, List.prod_cons, smul_eq_mul]

mutual

/-- The entries are the doubles that the leaves stand for. -/
theorem entries?_eq (value : Value) : value.entries? = value.leaves.mapM entry? := by
  cases value with
  | list items => exact entriesOfAll?_eq items
  | tuple items => exact entriesOfAll?_eq items
  | _ => simp [entries?, leaves]

theorem entriesOfAll?_eq (items : List Value) :
    entriesOfAll? items = (leavesOfAll items).mapM entry? := by
  cases items with
  | nil => rfl
  | cons item rest =>
      rw [entriesOfAll?, leavesOfAll, List.mapM_append, entries?_eq item, entriesOfAll?_eq rest]

end

/-! ### Arrays -/

/-- The shapes that an array can have. -/
def IsArray (value : Value) (shape : List Nat) : Prop :=
  HasShape shape value ∧ shape.length ≤ maximalDepth

theorem toTensor?_eq_ok_iff {content : Tensor Float} : value.toTensor? = .ok content ↔
    value.IsArray content.shape ∧ value.leaves.mapM entry? = .ok content.entries := by
  rw [IsArray, ← shape?_eq_ok_iff, ← entries?_eq]
  constructor
  · intro found
    obtain ⟨shape, shaped, found⟩ := of_bind found
    obtain ⟨entries, made, found⟩ := of_bind found
    cases found
    exact ⟨shaped, made⟩
  · rintro ⟨shaped, made⟩
    rw [toTensor?, shaped, made]
    rfl

/-! ### Numbers that are too large -/

theorem toFloat?_eq_tooLarge_iff {number : Int} :
    (Number.whole number).toFloat? = .error .tooLarge ↔ Double.leastInfinite ≤ number.natAbs := by
  rw [← Double.isInf_ofInt_iff, Number.toFloat?]
  split
  next infinite => exact iff_of_true rfl infinite
  next finite => exact iff_of_false nofun finite

/-- What is written as a number is never too large. -/
theorem written_ne_tooLarge (written : Option Float) :
    written.elim (.error .badValue) .ok ≠ (.error .tooLarge : Except Fault Float) := by
  cases written <;> nofun

/-- Only whole numbers are too large for a double. -/
theorem entry?_eq_tooLarge_iff : value.entry? = .error .tooLarge ↔
    ∃ number, value = int number ∧ Double.leastInfinite ≤ number.natAbs := by
  cases value with
  | int number =>
      have converted : entry? (int number) = (Number.whole number).toFloat? := rfl
      simp [converted, toFloat?_eq_tooLarge_iff]
  | bool flag =>
      have converted : entry? (bool flag) = (Number.whole (if flag then 1 else 0)).toFloat? := rfl
      have large : 1 < Double.leastInfinite := by decide +kernel
      rw [converted, toFloat?_eq_tooLarge_iff]
      refine iff_of_false ?_ nofun
      cases flag
      · exact not_le.mpr (Nat.zero_lt_of_lt large)
      · exact not_le.mpr large
  | text | bytes => exact iff_of_false (written_ne_tooLarge _) nofun
  | _ => exact iff_of_false nofun nofun

/-- An array in which a whole number too large for a double stands before all that is no number. -/
structure Overflows (value : Value) : Prop where
  isArray : ∃ shape, value.IsArray shape
  oversized : ∃ number, Reaches entry? value.leaves (int number) ∧
    Double.leastInfinite ≤ number.natAbs

theorem toTensor?_eq_tooLarge_iff : value.toTensor? = .error .tooLarge ↔ value.Overflows := by
  constructor
  · intro failed
    rcases bind_eq_error_iff.mp failed with failed | ⟨shape, shaped, failed⟩
    · cases eq_badValue_of_shape? failed
    · rcases bind_eq_error_iff.mp failed with failed | ⟨_, -, impossible⟩
      · rw [entries?_eq, mapM_eq_error_iff] at failed
        obtain ⟨leaf, reached, failed⟩ := failed
        obtain ⟨number, rfl, beyond⟩ := entry?_eq_tooLarge_iff.mp failed
        exact ⟨⟨shape, shape?_eq_ok_iff.mp shaped⟩, number, reached, beyond⟩
      · cases impossible
  · rintro ⟨⟨shape, shaped⟩, number, reached, beyond⟩
    have failed : value.entries? = .error .tooLarge := by
      rw [entries?_eq, mapM_eq_error_iff]
      exact ⟨_, reached, entry?_eq_tooLarge_iff.mpr ⟨number, rfl, beyond⟩⟩
    rw [toTensor?, shape?_eq_ok_iff.mpr shaped, failed]
    rfl

end Value

/-!
## Values that are no feature vectors

Every value describes a feature vector or is refused as invalid, with one exception: where an array
holds a whole number too large for a double and all that stands before it is read, this is passed on
as a fault.  The same holds of queries that are made of values and of the scores of values.
-/

section

variable {α β : Type}

/-- An error that refuses what is given as invalid. -/
def Error.IsInvalid (problem : Error) : Prop := problem.isA .validation = true

/-- A computation fails only because its input is invalid, or because of a number too large for a
double, and for that reason under a certain condition. -/
structure InvalidUnless (overflows : Prop) (result : Except Error α) : Prop where
  refused : FailsOnly (fun problem => problem.IsInvalid ∨ problem = .fault .tooLarge) result
  overflow_iff : result = .error (.fault .tooLarge) ↔ overflows

/-- What follows fails only because its input is invalid. -/
theorem InvalidUnless.bind {overflows : Prop} {result : Except Error α} {next : α → Except Error β}
    (first : InvalidUnless overflows result)
    (others : ∀ value, FailsOnly Error.IsInvalid (next value)) :
    InvalidUnless overflows (result >>= next) := by
  constructor
  case refused =>
    exact first.refused.bind fun value _ => (others value).mono fun problem invalid => .inl invalid
  case overflow_iff =>
    rw [bind_eq_error_iff, first.overflow_iff]
    refine or_iff_left ?_
    rintro ⟨value, -, failed⟩
    exact absurd (others value _ failed) Bool.false_ne_true

/-- Calls in sequence fail only because one of them is invalid, or because the first one that
fails is given too large a number. -/
theorem InvalidUnless.mapM {overflows : α → Prop} {make : α → Except Error β}
    (each : ∀ item, InvalidUnless (overflows item) (make item)) (items : List α) :
    InvalidUnless (∃ item, Reaches make items item ∧ overflows item) (items.mapM make) := by
  constructor
  case refused => exact .mapM fun item _ => (each item).refused
  case overflow_iff => simp only [mapM_eq_error_iff, (each _).overflow_iff]

/-! ### Forms -/

namespace FeatureForm

variable {value : Value} {problem : Error}

/-- A value with the form of an array is one. -/
theorem toTensor?_of_ofValue? {content : Tensor Float}
    (found : ofValue? value = .ok (.array content)) : value.toTensor? = .ok content := by
  unfold ofValue? at found
  split at found
  next => cases found
  next =>
    split at found
    next made =>
      cases found
      exact made
    next => cases found
    next => cases found

/-- A value without a form is refused under its type's name, or holds too large a number. -/
theorem eq_of_ofValue? (failed : ofValue? value = .error problem) :
    problem = .notNumeric value.typeName ∨ problem = .fault .tooLarge := by
  unfold ofValue? at failed
  split at failed
  next => cases failed
  next =>
    split at failed
    next => cases failed
    next => exact .inr (Except.error.inj failed).symm
    next => exact .inl (Except.error.inj failed).symm

theorem ofValue?_eq_tooLarge_iff :
    ofValue? value = .error (.fault .tooLarge) ↔ value.Overflows := by
  rw [← Value.toTensor?_eq_tooLarge_iff]
  unfold ofValue?
  split
  next => exact iff_of_false nofun nofun
  next =>
    split
    next made => simp [made]
    next failed => simp [failed]
    next fault notTooLarge failed => simpa [failed] using notTooLarge

theorem ofValue?_invalidUnless (value : Value) :
    InvalidUnless value.Overflows (ofValue? value) := by
  refine ⟨fun problem failed => ?_, ofValue?_eq_tooLarge_iff⟩
  rcases eq_of_ofValue? failed with rfl | rfl
  · exact .inl rfl
  · exact .inr rfl

end FeatureForm

/-! ### Vectors -/

namespace FeatureVector

variable {value : Value} {vector : FeatureVector Float}

/-- A value describes a vector: the numbers of a list or of a single row, or what a sparse matrix
with one row or one column holds. -/
inductive IsDescribed : Value → FeatureVector Float → Prop
  | list {value : Value} {components : List Float} (isArray : value.HasShape [components.length])
      (read : value.leaves.mapM Value.entry? = .ok components) :
      IsDescribed value (.dense components)
  | singleRow {value : Value} {components : List Float}
      (isArray : value.HasShape [1, components.length])
      (read : value.leaves.mapM Value.entry? = .ok components) :
      IsDescribed value (.dense components)
  | row {content : Sparse.Matrix Float} (one : content.rows = 1) :
      IsDescribed (.matrix content) (FeatureForm.vector content.columns (.matrix content))
  | column {content : Sparse.Matrix Float} (one : content.columns = 1) :
      IsDescribed (.matrix content) (FeatureForm.vector content.rows (.matrix content))

theorem isDescribed_of_ofValue? (accepted : ofValue? value = .ok vector) :
    IsDescribed value vector := by
  obtain ⟨form, found, accepted⟩ := of_bind accepted
  obtain ⟨dimension, isVector, -, rfl⟩ := ofForm?_eq_ok_iff.mp accepted
  cases form with
  | matrix content =>
      rw [eq_matrix_of_ofValue? found]
      cases isVector with
      | row one => exact .row one
      | column one => exact .column one
  | array content =>
      obtain ⟨⟨isArray, -⟩, read⟩ :=
        Value.toTensor?_eq_ok_iff.mp (FeatureForm.toTensor?_of_ofValue? found)
      have count : content.entries.length = content.shape.prod :=
        (forall₂_of_mapM read).length_eq.trans (Value.length_leaves isArray)
      cases isVector with
      | @list _ length shape =>
          rw [shape] at isArray count
          have extent : content.entries.length = length := by simpa using count
          exact .list (extent ▸ isArray) read
      | @singleRow _ length shape =>
          rw [shape] at isArray count
          have extent : content.entries.length = length := by simpa using count
          exact .singleRow (extent ▸ isArray) read

/-- A form that is no vector, or not finite, is invalid. -/
theorem ofForm?_refuses (form : FeatureForm Float) :
    FailsOnly Error.IsInvalid (ofForm? form) := by
  intro problem failed
  cases form with
  | array content =>
      simp only [ofForm?, ofTensor?] at failed
      split at failed
      next =>
        split at failed <;> cases failed
        rfl
      next =>
        cases failed
        rfl
  | matrix content =>
      rcases bind_eq_error_iff.mp failed with failed | ⟨line, -, failed⟩
      · unfold lineOf? at failed
        split at failed
        next => cases failed
        next =>
          split at failed <;> cases failed
          rfl
      · dsimp only at failed
        split_ifs at failed <;> cases failed
        rfl

theorem ofValue?_invalidUnless (value : Value) : InvalidUnless value.Overflows (ofValue? value) :=
  (FeatureForm.ofValue?_invalidUnless value).bind ofForm?_refuses

end FeatureVector

/-! ### Queries -/

namespace Query

variable {relevant nonrelevant : Value} {items others : List Value} {query : Query Float}

theorem ofValues?_eq (found : relevant.items? = .ok items)
    (foundOthers : nonrelevant.items? = .ok others) :
    ofValues? relevant nonrelevant = do
      return ⟨← items.mapM FeatureVector.ofValue?, ← others.mapM FeatureVector.ofValue?⟩ := by
  rw [ofValues?, vectorsOf?, vectorsOf?, found, foundOthers]
  rfl

/-- The vectors of a query are made as if all of them stood in one list. -/
theorem ofValues?_eq_error_iff {problem : Error} (found : relevant.items? = .ok items)
    (foundOthers : nonrelevant.items? = .ok others) :
    ofValues? relevant nonrelevant = .error problem ↔
      (items ++ others).mapM FeatureVector.ofValue? = .error problem := by
  rw [ofValues?_eq found foundOthers, List.mapM_append]
  simp only [bind_eq_error_iff, pure_eq_ok, reduceCtorEq, and_false, exists_false, or_false]

theorem ofValues?_invalidUnless (found : relevant.items? = .ok items)
    (foundOthers : nonrelevant.items? = .ok others) :
    InvalidUnless
      (∃ item, Reaches FeatureVector.ofValue? (items ++ others) item ∧ item.Overflows)
      (ofValues? relevant nonrelevant) := by
  have together := InvalidUnless.mapM FeatureVector.ofValue?_invalidUnless (items ++ others)
  constructor
  case refused =>
    exact fun problem failed =>
      together.refused problem ((ofValues?_eq_error_iff found foundOthers).mp failed)
  case overflow_iff =>
    rw [ofValues?_eq_error_iff found foundOthers]
    exact together.overflow_iff

theorem forall₂_isDescribed {vectors : List (FeatureVector Float)}
    (made : items.mapM FeatureVector.ofValue? = .ok vectors) :
    items.Forall₂ FeatureVector.IsDescribed vectors :=
  ((forall₂_of_mapM made).imp fun _ _ => FeatureVector.isDescribed_of_ofValue?).flip

theorem isDescribed_of_ofValues? (found : relevant.items? = .ok items)
    (foundOthers : nonrelevant.items? = .ok others)
    (made : ofValues? relevant nonrelevant = .ok query) :
    items.Forall₂ FeatureVector.IsDescribed query.relevant ∧
      others.Forall₂ FeatureVector.IsDescribed query.nonrelevant := by
  rw [ofValues?_eq found foundOthers] at made
  obtain ⟨first, madeFirst, made⟩ := of_bind made
  obtain ⟨rest, madeRest, made⟩ := of_bind made
  cases made
  exact ⟨forall₂_isDescribed madeFirst, forall₂_isDescribed madeRest⟩

end Query

/-! ### Scores -/

/-- A vector of another dimension than the weights is invalid. -/
theorem Model.score?_refuses (model : Model Float) (vector : FeatureVector Float) :
    FailsOnly Error.IsInvalid (model.score? vector) := by
  refine .bind ?_ fun _ _ => .ok _
  unfold FeatureVector.checkDimension
  split
  · exact .ok _
  · exact .error rfl

/-! ### All values -/

/-- What comes of a value that is taken for a vector, by itself or in order to be scored. -/
structure FeatureVector.Normalisation (value : Value) : Prop where
  described : ∀ vector, ofValue? value = .ok vector → IsDescribed value vector
  invalidUnless : InvalidUnless value.Overflows (ofValue? value)
  scored : ∀ model : Model Float, InvalidUnless value.Overflows (ofValue? value >>= model.score?)

/-- What comes of values that are taken for the vectors of a query. -/
structure Query.Normalisation (relevant nonrelevant : Value) (items others : List Value) :
    Prop where
  described : ∀ query, ofValues? relevant nonrelevant = .ok query →
    items.Forall₂ FeatureVector.IsDescribed query.relevant ∧
      others.Forall₂ FeatureVector.IsDescribed query.nonrelevant
  invalidUnless : InvalidUnless
    (∃ item, Reaches FeatureVector.ofValue? (items ++ others) item ∧ item.Overflows)
    (ofValues? relevant nonrelevant)

/-- **Refusal**: what is no vector is invalid, whatever it is and wherever it is given, unless a
number is too large for a double. -/
theorem FeatureVector.malformed_refused (value relevant nonrelevant : Value) :
    Normalisation value ∧
      ∀ items others, relevant.items? = .ok items → nonrelevant.items? = .ok others →
        Query.Normalisation relevant nonrelevant items others := by
  constructor
  · constructor
    case described => exact fun vector => isDescribed_of_ofValue?
    case invalidUnless => exact ofValue?_invalidUnless value
    case scored => exact fun model => (ofValue?_invalidUnless value).bind model.score?_refuses
  · intro items others found foundOthers
    constructor
    case described => exact fun query => Query.isDescribed_of_ofValues? found foundOthers
    case invalidUnless => exact Query.ofValues?_invalidUnless found foundOthers

/-- A list with a whole number of 401 digits is neither a vector nor invalid, nor are queries and
scores of it. -/
theorem FeatureVector.tooLarge_not_refused :
    FeatureVector.ofValue? (.list [.int (10 ^ 400)]) = .error (.fault .tooLarge) ∧
      Query.ofValues? (.list [.list [.int (10 ^ 400)]]) (.list []) = .error (.fault .tooLarge) ∧
      (FeatureVector.ofValue? (.list [.int (10 ^ 400)]) >>= Model.score? ⟨[1]⟩) =
        .error (.fault .tooLarge) ∧
      ∀ category, (Error.fault .tooLarge).isA category = false := by
  have overflows : Value.Overflows (.list [.int (10 ^ 400)]) := by
    refine ⟨⟨[1], ?_, by decide⟩, 10 ^ 400, ⟨[], [], rfl, nofun⟩, by decide +kernel⟩
    exact ⟨[.int (10 ^ 400)], rfl, rfl, List.forall_mem_singleton.mpr rfl, nofun⟩
  have failed := (ofValue?_invalidUnless _).overflow_iff.mpr overflows
  refine ⟨failed, ?_, ?_, fun _ => rfl⟩
  · rw [Query.ofValues?_eq_error_iff rfl rfl, mapM_eq_error_iff]
    exact ⟨_, ⟨[], [], rfl, nofun⟩, failed⟩
  · rw [failed]
    rfl

/-- What stands before a number that is too large is looked at before it. -/
example : FeatureVector.ofValue? (.list [.mapping [], .int (10 ^ 400)]) =
    .error (.notNumeric "list") := rfl

end

end HingeRank
