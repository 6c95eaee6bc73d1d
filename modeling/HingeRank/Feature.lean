import HingeRank.Value.Conversion

/-!
# Feature vectors

Forms in which feature vectors are given, the vectors themselves, stacks of them, and the
linear models that score them.
-/

namespace HingeRank

/-!
## Forms in which a feature vector is given

A feature vector is given as an array of numbers or as a sparse matrix.  Which
arrays and matrices are vectors is decided where vectors are built.
-/

/-- Something that may describe a feature vector. -/
inductive FeatureForm (K : Type) where
  | array (content : Tensor K)
  | matrix (content : Sparse.Matrix K)

namespace FeatureForm

/-- The form that a value describes.  A value that is no array of numbers is
refused under its type's name; a whole number too large for a double stays a
fault. -/
def ofValue? : Value → Except Error (FeatureForm Float)
  | .matrix content => .ok (.matrix content)
  | value =>
      match value.toTensor? with
      | .ok content => .ok (.array content)
      | .error .tooLarge => .error (.fault .tooLarge)
      | .error _ => .error (.notNumeric value.typeName)

end FeatureForm

/-!
## Feature vectors

A feature vector is dense or sparse.  Arrays with one extent, arrays with a
single row, and sparse matrices with a single row or a single column are
vectors.  Every entry that is given must be finite.

A matrix stored row by row is examined entry by entry as it was given, before
entries of one column are added up; triplets are added up first.
-/

section

open Scalar

/-- A feature vector: all components, or the named ones in ascending order. -/
inductive FeatureVector (K : Type) where
  | dense (components : List K)
  | sparse (dimension : Nat) (row : Sparse.Row K)

namespace FeatureVector

variable {K : Type}

def dimension : FeatureVector K → Nat
  | dense components => components.length
  | sparse dimension _ => dimension

def isSparse : FeatureVector K → Bool
  | dense _ => false
  | sparse .. => true

/-- Refuse a vector of another dimension. -/
def checkDimension (vector : FeatureVector K) (expected : Nat) (place : String) :
    Except Error Unit :=
  if vector.dimension = expected then .ok ()
  else .error (.dimensionMismatch (.int expected) vector.dimension place)

/-- Refuse a vector whose dimension does not equal a value.  The place is named if it
counts as true. -/
def checkDimensionEquals (vector : FeatureVector K) (expected place : Value) :
    Except Error Unit := do
  if ← (Value.isNumber? vector.dimension expected).mapError .fault then return
  let isNamed ← place.isTrue?.mapError .fault
  throw (.dimensionMismatch expected vector.dimension (if isNamed then place.toPoints else ""))

/-- The row that a matrix with one row or one column stands for, entries in the
order given. -/
def lineOf? (matrix : Sparse.Matrix K) : Except Error (Nat × Sparse.Row K) :=
  if matrix.rows = 1 then
    .ok (matrix.columns, matrix.entries.map fun entry => (entry.column, entry.value))
  else if matrix.columns = 1 then
    .ok (matrix.rows, matrix.entries.map fun entry => (entry.row, entry.value))
  else
    .error (.notOneRow matrix.rows matrix.columns)

variable [Scalar K]

/-- The vector that a sparse matrix describes. -/
def ofMatrix? (matrix : Sparse.Matrix K) : Except Error (FeatureVector K) := do
  let (dimension, line) ← lineOf? matrix
  let examined :=
    match matrix.storage with
    | .triplets => line.canonical
    | .compressedRows => line
  if examined.allFinite then return .sparse dimension line.canonical
  else throw .notFinite

/-- The vector that an array describes. -/
def ofTensor? (tensor : Tensor K) : Except Error (FeatureVector K) :=
  let shape :=
    match tensor.shape with
    | [1, length] => [length]
    | shape => shape
  match shape with
  | [_] =>
      if Linear.allFinite tensor.entries then .ok (.dense tensor.entries)
      else .error .notFinite
  | shape => .error (.notOneDimensional shape)

/-- The vector that a form describes. -/
def ofForm? : FeatureForm K → Except Error (FeatureVector K)
  | .array tensor => ofTensor? tensor
  | .matrix matrix => ofMatrix? matrix

/-- The vector that a value describes. -/
def ofValue? (value : Value) : Except Error (FeatureVector Float) := do
  ofForm? (← FeatureForm.ofValue? value)

/-- The inner product with a weight vector. -/
def dot (weights : List K) : FeatureVector K → K
  | dense components => Linear.dot weights components
  | sparse _ row => row.dot weights

/-- The inner product with an array.  An array with several extents has products too,
but they are not a single number. -/
def dot? (weights : Tensor K) : FeatureVector K → Except Fault K
  | dense components => weights.inner? (.vector components)
  | sparse dimension row =>
      match weights.shape with
      | [length] => if length = dimension then .ok (row.dot weights.entries) else .error .badValue
      | [length, _] => if length = dimension then .error .wrongType else .error .badValue
      | _ => .error .badValue

/-- The named components in ascending order; a dense vector's zeros are not named. -/
def toRow : FeatureVector K → Sparse.Row K
  | dense components => .ofComponents components
  | sparse _ row => row

end FeatureVector

end

/-!
## Stacks of feature vectors

Vectors of one dimension are stacked into the rows of a matrix, so that one pass
scores all of them.  The matrix is sparse as soon as one of the vectors is.
-/

/-- The rows of stacked vectors, all of the same width. -/
inductive FeatureStack (K : Type) where
  | dense (width : Nat) (rows : List (List K))
  | sparse (width : Nat) (rows : List (Sparse.Row K))

namespace FeatureStack

variable {K : Type} [Scalar K]

def width : FeatureStack K → Nat
  | dense width _ => width
  | sparse width _ => width

def height : FeatureStack K → Nat
  | dense _ rows => rows.length
  | sparse _ rows => rows.length

/-- The rows of dense vectors; sparse ones have none. -/
def denseRows (vectors : List (FeatureVector K)) : List (List K) :=
  vectors.filterMap fun
    | .dense components => some components
    | .sparse .. => none

/-- Stack vectors in their order.  There must be at least one, and all of them
must have the dimension of the first. -/
def ofVectors? (vectors : List (FeatureVector K)) : Except Error (FeatureStack K) :=
  match vectors with
  | [] => .error .nothingToStack
  | first :: rest =>
      if rest.all (·.dimension == first.dimension) then
        if vectors.any (·.isSparse) then
          .ok (sparse first.dimension (vectors.map (·.toRow)))
        else
          .ok (dense first.dimension (denseRows vectors))
      else
        .error (.fault .badValue)

/-- The inner product of every row with the weights. -/
def scores (weights : List K) : FeatureStack K → List K
  | dense _ rows => Linear.apply rows weights
  | sparse _ rows => rows.map (·.dot weights)

/-- The sum of the rows, each taken with its coefficient. -/
def weightedSum (coefficients : List K) : FeatureStack K → List K
  | dense width rows => Linear.combine width coefficients rows
  | sparse width rows =>
      (coefficients.zip rows).foldl (fun total (coefficient, row) => row.addTo total coefficient)
        (Linear.zeros width)

def isSparse : FeatureStack K → Bool
  | dense .. => false
  | sparse .. => true

/-- The columns of the matrices that an operand consists of.  A vector is a single
column, and an array with more than two extents is a list of matrices, which only
dense rows can be multiplied with.  Columns must have the given length. -/
def operandColumns? (stack : FeatureStack K) (extent : Nat) (operand : Tensor K) :
    Except Fault (List (List (List K))) :=
  match operand.shape.reverse with
  | [length] => if length = extent then .ok [[operand.entries]] else .error .badValue
  | count :: length :: outer =>
      if length = extent && (outer.isEmpty || !stack.isSparse) then
        let matrices := outer.foldl (· * ·) 1
        .ok ((Tensor.pieces (length * count) matrices operand.entries).map fun entries =>
          (List.range count).map (Linear.column (Tensor.pieces count length entries)))
      else .error .badValue
  | [] => .error .badValue

/-- Lay columns side by side and read them row by row. -/
def interleave (height : Nat) (columns : List (List K)) : List K :=
  (List.range height).flatMap fun position => columns.map (Linear.entry · position)

/-- The scores for a weight vector, or for several that stand side by side. -/
def scores? (stack : FeatureStack K) (weights : Tensor K) : Except Fault (List K) := do
  let matrices ← stack.operandColumns? stack.width weights
  return matrices.flatMap fun columns => interleave stack.height (columns.map stack.scores)

/-- The weighted sums for one coefficient vector, or for several side by side. -/
def weightedSum? (stack : FeatureStack K) (coefficients : Tensor K) : Except Fault (List K) := do
  let matrices ← stack.operandColumns? stack.height coefficients
  return matrices.flatMap fun columns => interleave stack.width (columns.map stack.weightedSum)

end FeatureStack

/-!
## Trained models

A model scores a feature vector by its inner product with fixed weights.  A
vector is ranked before another one exactly when its score is higher.
-/

/-- A linear scoring function. -/
structure Model (K : Type) where
  weights : List K

namespace Model

variable {K : Type}

def dimension (model : Model K) : Nat := model.weights.length

/-- A one-line description. -/
def describe (model : Model K) : String :=
  "TrainedModel(dimension=" ++ toString model.dimension ++ ")"

variable [Scalar K]

/-- The score of a vector; one of another dimension is refused. -/
def score? (model : Model K) (vector : FeatureVector K) : Except Error K := do
  vector.checkDimension model.dimension "scored vector"
  return vector.dot model.weights

/-- The model whose weights a value lists, in nested lists of any depth. -/
def ofValue? (weights : Value) : Except Fault (Model Float) := do
  return ⟨(← weights.toTensor?).entries⟩

end Model

end HingeRank
