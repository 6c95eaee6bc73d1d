import HingeRank.Dataset

/-!
# Positions in a dataset

Positions count from the front, starting at zero, or from the back when they
are negative.  A slice runs from a start to a stop, which it leaves out, in steps
that are not zero; bounds beyond an end are moved to that end.
-/

namespace HingeRank

/-- Bounds and step of a slice; missing ones are chosen by the direction. -/
structure Slice where
  start : Option Int
  stop : Option Int
  step : Int
  deriving DecidableEq, Repr

namespace Slice

/-- Count a negative bound from the back and keep the result between two ends. -/
def clampBound (length : Nat) (least greatest bound : Int) : Int :=
  let counted := if bound < 0 then bound + length else bound
  max least (min greatest counted)

/-- The positions that a slice with a nonzero step takes, in its order. -/
def positions (slice : Slice) (length : Nat) : List Nat :=
  if 0 < slice.step then
    let start := slice.start.elim 0 (clampBound length 0 length)
    let stop := slice.stop.elim (length : Int) (clampBound length 0 length)
    let count := (stop - start + slice.step - 1) / slice.step
    (List.range count.toNat).map fun (taken : Nat) => (start + slice.step * taken).toNat
  else
    let start := slice.start.elim ((length : Int) - 1) (clampBound length (-1) (length - 1))
    let stop := slice.stop.elim (-1) (clampBound length (-1) (length - 1))
    let count := (start - stop - slice.step - 1) / (-slice.step)
    (List.range count.toNat).map fun (taken : Nat) => (start + slice.step * taken).toNat

end Slice

namespace Value

/-- The position that a value denotes. -/
def position? : Value → Except Fault Int
  | bool flag => .ok (if flag then 1 else 0)
  | int number => .ok number
  | _ => .error .wrongType

/-- A bound of a slice, absent when the value is. -/
def bound? : Value → Except Fault (Option Int)
  | null => .ok none
  | value => do return some (← value.position?)

end Value

namespace Slice

/-- The slice with the given bounds and step. -/
def ofValues? (start stop step : Value) : Except Fault Slice := do
  let step := (← step.bound?).getD 1
  if step = 0 then throw .badValue
  return ⟨← start.bound?, ← stop.bound?, step⟩

end Slice

/-- The place in a list of this length that a position denotes. -/
def place? (length : Nat) (position : Int) : Option Nat :=
  let place := if position < 0 then position + length else position
  if 0 ≤ place ∧ place < length then some place.toNat else none

namespace Dataset

variable {K : Type}

/-- The place that a value denotes as a position in a dataset. -/
def place? (dataset : Dataset K) (position : Value) : Except Fault Nat := do
  (HingeRank.place? dataset.size (← position.position?)).elim (.error .badPosition) .ok

/-- The query at a position. -/
def get? (dataset : Dataset K) (position : Value) : Except Fault (Query K) := do
  (dataset.queries[← dataset.place? position]?).elim (.error .badPosition) .ok

/-- The queries that a slice takes, as a dataset of their own. -/
def slice? (dataset : Dataset K) (slice : Slice) : Except Error (Dataset K) :=
  ofQueries? ((slice.positions dataset.size).filterMap (dataset.queries[·]?))

/-- Where a search begins: a negative start counts from the back, at most to the
front. -/
def searchStart (length : Nat) : Number → Number
  | .whole start => .whole (if start < 0 then max (start + length) 0 else start)
  | .real start =>
      let counted := Float.ofNat length + start
      if start < 0 then if counted < 0 then .whole 0 else .real counted else .real start

/-- Whether a position lies before the stop of a search; a negative stop counts
from the back. -/
def isBeforeStop (length : Nat) (stop position : Number) : Bool :=
  match stop, position with
  | .whole stop, .whole position => position < if stop < 0 then stop + length else stop
  | .whole stop, .real position =>
      position < Float.ofInt (if stop < 0 then stop + length else stop)
  | .real stop, position =>
      position.toFloat < if stop < 0 then stop + Float.ofNat length else stop

/-- Find the query that stands at `position` again, searching from a start to a
stop.  Every query differs from every other one, even from an equal one.  A start that
is no whole number is no position, which shows only before the stop.  A query found at
the start is found at the start as it was given. -/
def index? (dataset : Dataset K) (position start stop : Value) : Except Fault Value := do
  let place ← dataset.place? position
  let begin := searchStart dataset.size (← start.number?)
  let before : Number → Bool ←
    match stop with
    | .null => pure fun _ => true
    | value => do pure (isBeforeStop dataset.size (← value.number?))
  match begin with
  | .whole first =>
      if !(first ≤ place && before (.whole place)) then throw .badValue
      return if start matches .bool _ && first == place then start else .int place
  | .real _ => if before begin then throw .wrongType else throw .badValue

end Dataset

end HingeRank
