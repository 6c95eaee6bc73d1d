import HingeRank.Error

/-!
# Arrays

Arrays of any number of extents, and arithmetic on them.
-/

namespace HingeRank

/-!
## Rectangular arrays of any depth

An array has a shape, the list of its extents from the outermost in, and its
entries in the order in which they are written.  A number has the empty shape.
-/

/-- An array with its entries in row-major order. -/
structure Tensor (K : Type) where
  shape : List Nat
  entries : List K
  deriving Repr

namespace Tensor

variable {K : Type}

/-- Cut a list into the given number of pieces of equal length. -/
def pieces (length : Nat) : (count : Nat) → List K → List (List K)
  | 0, _ => []
  | count + 1, entries => entries.take length :: pieces length count (entries.drop length)

def scalar (x : K) : Tensor K := ⟨[], [x]⟩

def vector (entries : List K) : Tensor K := ⟨[entries.length], entries⟩

/-- The entries of an array with exactly one extent. -/
def vector? (tensor : Tensor K) : Option (List K) :=
  match tensor.shape with
  | [_] => some tensor.entries
  | _ => none

/-- The rows of an array with exactly two extents, and the length of a row. -/
def rows? (tensor : Tensor K) : Option (Nat × List (List K)) :=
  match tensor.shape with
  | [count, length] => some (length, pieces length count tensor.entries)
  | _ => none

end Tensor

/-!
## Arithmetic with arrays

Arrays are combined place by place.  Their shapes are aligned at the innermost
extents; where one of them has an extent of one, or no extent at all, its entry
there serves all places of the other.  Products of matrices treat the two innermost
extents as rows and columns and all others place by place.
-/

namespace Tensor

variable {K : Type}

/-- The number of entries of an array with this shape. -/
def sizeOf (shape : List Nat) : Nat := shape.foldl (· * ·) 1

/-- All places in an array with this shape, in row-major order. -/
def places : List Nat → List (List Nat)
  | [] => [[]]
  | extent :: rest =>
      (List.range extent).flatMap fun position => (places rest).map (position :: ·)

/-- The entry at a place.  Positions are aligned at the innermost extent. -/
def entryAt? (array : Tensor K) (place : List Nat) : Option K :=
  let place := place.drop (place.length - array.shape.length)
  let position := (array.shape.zip place).foldl
    (fun position (extent, index) => position * extent + if extent = 1 then 0 else index) 0
  array.entries[position]?

/-- The shape that serves two shapes, both with the innermost extent first. -/
def alignReversed? : List Nat → List Nat → Option (List Nat)
  | [], right => some right
  | left, [] => some left
  | first :: left, second :: right =>
      if first = second ∨ second = 1 then (alignReversed? left right).map (first :: ·)
      else if first = 1 then (alignReversed? left right).map (second :: ·)
      else none

/-- The shape that serves two shapes. -/
def align? (left right : List Nat) : Option (List Nat) :=
  (alignReversed? left.reverse right.reverse).map (·.reverse)

/-- No array has more entries than this. -/
def greatestSize : Nat := Nat.pow 2 60 - 1

/-- The array of a shape with a given entry at every place. -/
def build (shape : List Nat) (valueAt : List Nat → Option K) : Tensor K :=
  ⟨shape, (places shape).filterMap valueAt⟩

def map {L : Type} (change : K → L) (array : Tensor K) : Tensor L :=
  ⟨array.shape, array.entries.map change⟩

/-- Combine two arrays place by place. -/
def zipWith? {L M : Type} (combine : K → L → M) (left : Tensor K) (right : Tensor L) :
    Except Fault (Tensor M) :=
  match align? left.shape right.shape with
  | none => .error .badValue
  | some shape => .ok (build shape fun place => do
      return combine (← left.entryAt? place) (← right.entryAt? place))

/-- Change an array in its place by another one, which must not extend it. -/
def update? {L : Type} (combine : K → L → K) (array : Tensor K) (other : Tensor L) :
    Except Fault (Tensor K) := do
  let changed ← zipWith? combine array other
  if changed.shape = array.shape then return changed else throw .badValue

/-- The part at a position of the outermost extent. -/
def item? (array : Tensor K) (position : Nat) : Except Fault (Tensor K) :=
  match array.shape with
  | [] => .error .badPosition
  | extent :: rest =>
      let size := sizeOf rest
      if position < extent then .ok ⟨rest, (array.entries.drop (position * size)).take size⟩
      else .error .badPosition

/-- Replace the part at a position of the outermost extent. -/
def setItem (array : Tensor K) (position : Nat) (item : Tensor K) : Tensor K :=
  let size := item.entries.length
  { array with
    entries := array.entries.take (position * size) ++ item.entries ++
      array.entries.drop ((position + 1) * size) }

/-- The entries at a position of the second extent. -/
def column? (array : Tensor K) (position : Nat) : Except Fault (Tensor K) :=
  match array.shape with
  | height :: width :: rest => do
      if width ≤ position then throw .badPosition
      let items ← (List.range height).mapM fun row => do (← array.item? row).item? position
      return ⟨height :: rest, items.flatMap (·.entries)⟩
  | _ => .error .badPosition

/-- The array with its extents in reverse order. -/
def transpose (array : Tensor K) : Tensor K :=
  build array.shape.reverse fun place => array.entryAt? place.reverse

/-- The only entry of an array without extents. -/
def number? (array : Tensor K) : Except Fault K :=
  match array.shape, array.entries with
  | [], [single] => .ok single
  | _, _ => .error .wrongType

/-- Whether the only entry of an array is true. -/
def holds? (array : Tensor Bool) : Except Fault Bool :=
  match array.entries with
  | [single] => .ok single
  | _ => .error .badValue

variable [Scalar K]

/-- The product of two matrices, or of the matrices in two arrays.  A vector is a
single row on the left and a single column on the right. -/
def product? (left right : Tensor K) : Except Fault (Tensor K) := do
  let (leftOuter, height, depth) ←
    match left.shape.reverse with
    | [] => throw .badValue
    | [depth] => pure ([], none, depth)
    | depth :: height :: outer => pure (outer.reverse, some height, depth)
  let (rightOuter, length, width) ←
    match right.shape.reverse with
    | [] => throw .badValue
    | [length] => pure ([], length, none)
    | width :: length :: outer => pure (outer.reverse, length, some width)
  if depth ≠ length then throw .badValue
  let some outer := align? leftOuter rightOuter | throw .badValue
  let left := { left with shape := leftOuter ++ [height.getD 1, depth] }
  let right := { right with shape := rightOuter ++ [length, width.getD 1] }
  let product := build (outer ++ [height.getD 1, width.getD 1]) fun place => do
    let around := place.take outer.length
    let row ← place[outer.length]?
    let column ← place[outer.length + 1]?
    let factors := (List.range depth).map fun position => do
      return (← left.entryAt? (around ++ [row, position])) *
        (← right.entryAt? (around ++ [position, column]))
    return Linear.sum (← factors.mapM id)
  return { product with shape := outer ++ height.toList ++ width.toList }

/-- The inner product of two arrays, if it is a single number. -/
def inner? (left right : Tensor K) : Except Fault K :=
  match left.shape.reverse, right.shape.reverse with
  | [], [] => .ok (Linear.dot left.entries right.entries)
  | [], _ => .error .wrongType
  | _, [] => .error .wrongType
  | [length], [extent] =>
      if length = extent then .ok (Linear.dot left.entries right.entries) else .error .badValue
  | length :: _, [extent] => if length = extent then .error .wrongType else .error .badValue
  | length :: _, _ :: extent :: _ =>
      if length = extent then .error .wrongType else .error .badValue

end Tensor

end HingeRank
