import HingeRank.Value.Conversion

/-!
# Planes in arrays

The planes of a run stand in tables that grow and are compacted.  They can also be kept in
such tables by hand.
-/

namespace HingeRank

/-!
## The arena of cutting planes

A cutting plane is an affine lower bound of a risk.  The arena keeps the
gradients and offsets of the planes in force, all inner products of gradients,
the multiplier that the last solution gave to every plane, and the number of
consecutive solutions that have not used it.

All of this lives in tables with room to spare, which double when they are full.
Rows from `size` on are leftovers without meaning.  The first row is the zero
plane, which bounds every nonnegative risk and is never dropped.
-/

section

open Scalar

/-- Tables of cutting planes, of which the first `size` rows are in force. -/
structure PlaneArena (K : Type) where
  dimension : Nat
  size : Nat
  gradientTable : List (List K)
  offsetTable : List K
  gramTable : List (List K)
  dualTable : List K
  /-- Consecutive solutions that have not used the plane. -/
  idleTable : List Nat

namespace PlaneArena

variable {K : Type} [Scalar K]

/-- The room reserved unless stated otherwise. -/
def defaultCapacity : Nat := 16

/-- Multipliers up to this value count as unused. -/
def activeThreshold : K := ratio 1 (Nat.pow 10 12)

/-- The arena that holds the zero plane alone.  There is room for two planes at
least. -/
def initial (dimension capacity : Nat) : PlaneArena K :=
  let capacity := max 2 capacity
  { dimension
    size := 1
    gradientTable := List.replicate capacity (Linear.zeros dimension)
    offsetTable := Linear.zeros capacity
    gramTable := List.replicate capacity (Linear.zeros capacity)
    dualTable := Linear.zeros capacity
    idleTable := List.replicate capacity 0 }

def capacity (arena : PlaneArena K) : Nat := arena.offsetTable.length

/-- Gradients of the planes in force. -/
def gradients (arena : PlaneArena K) : List (List K) := arena.gradientTable.take arena.size

/-- Offsets of the planes in force. -/
def offsets (arena : PlaneArena K) : List K := arena.offsetTable.take arena.size

/-- Inner products of the gradients in force. -/
def gram (arena : PlaneArena K) : List (List K) :=
  (arena.gramTable.take arena.size).map (·.take arena.size)

/-- The latest multipliers of the planes in force. -/
def dual (arena : PlaneArena K) : List K := arena.dualTable.take arena.size

/-- How long each plane in force has not been used. -/
def idle (arena : PlaneArena K) : List Nat := arena.idleTable.take arena.size

/-- Double the room. -/
def grow (arena : PlaneArena K) : PlaneArena K :=
  let room := arena.capacity
  { arena with
    gradientTable := arena.gradientTable ++ List.replicate room (Linear.zeros arena.dimension)
    offsetTable := arena.offsetTable ++ Linear.zeros room
    gramTable := arena.gramTable.map (· ++ Linear.zeros room) ++
      List.replicate room (Linear.zeros (2 * room))
    dualTable := arena.dualTable ++ Linear.zeros room
    idleTable := arena.idleTable ++ List.replicate room 0 }

/-- Write a new last row and column of inner products. -/
def extendGram (table : List (List K)) (size : Nat) (products : List K) (square : K) :
    List (List K) :=
  let crossed := table.zipIdx.map fun (row, position) =>
    if position < size then row.set size (Linear.entry products position) else row
  crossed.modify size fun row => products ++ (square :: row.drop (size + 1))

/-- Append a plane whose gradient has the arena's dimension. -/
def push (arena : PlaneArena K) (gradient : List K) (offset : K) : PlaneArena K :=
  let arena := if arena.size = arena.capacity then arena.grow else arena
  let size := arena.size
  { arena with
    size := size + 1
    gradientTable := arena.gradientTable.set size gradient
    offsetTable := arena.offsetTable.set size offset
    gramTable := extendGram arena.gramTable size (Linear.apply arena.gradients gradient)
      (Linear.dot gradient gradient)
    dualTable := arena.dualTable.set size 0
    idleTable := arena.idleTable.set size 0 }

/-- Append a plane and return its slot; a gradient of another shape is refused. -/
def add? (arena : PlaneArena K) (gradient : Tensor K) (offset : K) :
    Except Error (Nat × PlaneArena K) :=
  if gradient.shape = [arena.dimension] then
    .ok (arena.size, arena.push gradient.entries offset)
  else
    .error (.dimensionMismatch (.int arena.dimension) gradient.entries.length "cutting plane")

/-- Store one multiplier for every plane in force, and count anew how long each
has not been used. -/
def recordDual (arena : PlaneArena K) (multipliers : List K) : PlaneArena K :=
  let idle := List.zipWith
    (fun multiplier idle => if activeThreshold < multiplier then 0 else idle + 1)
    multipliers arena.idle
  { arena with
    dualTable := multipliers ++ arena.dualTable.drop arena.size
    idleTable := idle ++ arena.idleTable.drop arena.size }

/-- The multipliers that an array means for a number of planes: one for each, or
a single one for all.  Outer extents of one are ignored. -/
def multipliersOf? (size : Nat) (array : Tensor K) : Except Fault (List K) :=
  match array.shape.dropWhile (· == 1), array.entries with
  | [], [single] => .ok (List.replicate size single)
  | [length], entries => if length = size then .ok entries else .error .badValue
  | _, _ => .error .badValue

/-- Store the multipliers that an array means for the planes in force. -/
def recordDual? (arena : PlaneArena K) (array : Tensor K) : Except Fault (PlaneArena K) := do
  return arena.recordDual (← multipliersOf? arena.size array)

/-- The slots that stay: the first one, and those used less than `threshold`
solutions ago. -/
def survivors (arena : PlaneArena K) (threshold : Nat) : List Nat :=
  (List.range arena.size).filter fun slot =>
    slot == 0 || arena.idle.getD slot 0 < threshold

/-- Move the chosen rows to the front; the rows behind them stay as they were. -/
def compact {α : Type} (fallback : α) (slots : List Nat) (table : List α) : List α :=
  slots.map (table.getD · fallback) ++ table.drop slots.length

/-- Move the chosen rows and columns of inner products to the front. -/
def compactGram (slots : List Nat) (table : List (List K)) : List (List K) :=
  List.zipWith
      (fun slot old => slots.map (Linear.entry (Linear.row table slot)) ++ old.drop slots.length)
      slots table ++
    table.drop slots.length

/-- Drop the planes that `threshold` consecutive solutions have not used, and
return how many those were. -/
def trim (arena : PlaneArena K) (threshold : Nat) : Nat × PlaneArena K :=
  let slots := arena.survivors threshold
  let removed := arena.size - slots.length
  if removed = 0 then (0, arena)
  else
    (removed,
      { arena with
        size := slots.length
        gradientTable := compact [] slots arena.gradientTable
        offsetTable := compact 0 slots arena.offsetTable
        gramTable := compactGram slots arena.gramTable
        dualTable := compact 0 slots arena.dualTable
        idleTable := compact 0 slots arena.idleTable })

end PlaneArena

end

/-!
## Arenas driven by values

Rooms, offsets, multipliers and thresholds are given as values.
-/

namespace PlaneArena

/-- More room than this is only made when it is needed, since it never shows. -/
def largestStart : Nat := 64

/-- The room that is asked for.  A room that is no whole number is too small to matter
or cannot be had. -/
def room? : Value → Except Fault Nat
  | .null => .ok defaultCapacity
  | given => do
      match ← given.comparand? with
      | .whole count => return max 2 count.toNat
      | .real count => if 2 < count then throw .wrongType else return 2

/-- The arena with the zero plane for a dimension and a room as they were given.  The
tables must not exceed all bounds. -/
def ofValues? (dimension capacity : Value) : Except Fault (PlaneArena Float) := do
  let room ← room? capacity
  if Tensor.greatestSize < room then throw .badValue
  let .int dimension := dimension | throw .wrongType
  if dimension < 0 ∨ Tensor.greatestSize < dimension * room ∨ Tensor.greatestSize < room * room then
    throw .badValue
  return .initial dimension.toNat (min room largestStart)

/-- The offset of a plane as it was given. -/
def offset? : Value → Except Fault Float
  | .list _ => .error .badValue
  | given => given.entry?

/-- Append a plane and return its slot. -/
def addValue? (arena : PlaneArena Float) (gradient : Tensor Float) (offset : Value) :
    Except Error (Nat × PlaneArena Float) := do
  if gradient.shape = [arena.dimension] then
    arena.add? gradient (← (offset? offset).mapError .fault)
  else arena.add? gradient 0

/-- Store the same multipliers several times. -/
def recordDualTimes? (arena : PlaneArena Float) (array : Tensor Float) :
    (times : Nat) → Except Fault (PlaneArena Float)
  | 0 => .ok arena
  | times + 1 => do recordDualTimes? (← arena.recordDual? array) array times

/-- No plane is unused for this many solutions. -/
def endlessThreshold : Nat := Nat.pow 2 64

/-- Drop the planes not used for as many solutions as a threshold says. -/
def trimValue? (arena : PlaneArena Float) (threshold : Value) :
    Except Fault (Nat × PlaneArena Float) := do
  return arena.trim ((← threshold.number?).countsBelow endlessThreshold)

end PlaneArena

end HingeRank
