import HingeRank.Tensor

/-!
# What values can be taken for

A value is taken for a number, for an array of doubles, for a key, for something to show, or
for true or false.  Each of these succeeds for some values and names the fault of the others.
-/

namespace HingeRank

/-!
## Values as numbers

Truth values, whole numbers of any size and doubles are numbers.  They are
compared exactly; turning one into a double rounds to the nearest and refuses
whole numbers beyond the largest double.
-/

/-- A number as it was given: whole numbers stay whole. -/
inductive Number where
  | whole (value : Int)
  | real (value : Float)

namespace Number

/-- Strictly below a whole bound that doubles represent exactly. -/
def below (number : Number) (bound : Int) : Bool :=
  match number with
  | whole value => value < bound
  | real value => value < Float.ofInt bound

/-- Strictly above a whole bound that doubles represent exactly. -/
def above (number : Number) (bound : Int) : Bool :=
  match number with
  | whole value => bound < value
  | real value => Float.ofInt bound < value

/-- The nearest double, infinite beyond the largest one. -/
def toFloat : Number → Float
  | whole value => Float.ofInt value
  | real value => value

/-- The nearest double of a whole number within range, or the double itself. -/
def toFloat? (number : Number) : Except Fault Float :=
  match number with
  | whole value =>
      let nearest := Float.ofInt value
      if nearest.isInf then .error .tooLarge else .ok nearest
  | real value => .ok value

/-- The product of two numbers; whole numbers stay whole. -/
def times? (left right : Number) : Except Fault Number :=
  match left, right with
  | whole left, whole right => .ok (.whole (left * right))
  | left, right => do return .real ((← left.toFloat?) * (← right.toFloat?))

/-- How many counts from zero on lie strictly below the number; no count lies
below what is no number.  `unbounded` stands for a number that no count reaches. -/
def countsBelow (unbounded : Nat) : Number → Nat
  | whole value => value.toNat
  | real value =>
      if 0 < value then
        if value < Float.ofNat (Nat.pow 2 63) then value.ceil.toUInt64.toNat else unbounded
      else 0

/-- The first count that reaches the number; no count reaches what is no number. -/
def firstReaching (unbounded : Nat) (number : Number) : Nat :=
  match number with
  | real value => if value.isNaN then unbounded else number.countsBelow unbounded
  | number => number.countsBelow unbounded

end Number

namespace Value

/-- The number a value stands for, if it is one. -/
def number? : Value → Except Fault Number
  | bool flag => .ok (.whole (if flag then 1 else 0))
  | int number => .ok (.whole number)
  | float number => .ok (.real number)
  | _ => .error .wrongType

/-- The number that a value is compared as.  A matrix with one entry is compared by it;
a matrix with more or less than one cannot be compared. -/
def comparand? : Value → Except Fault Number
  | matrix content =>
      if content.rows = 1 ∧ content.columns = 1 then
        .ok (.real (content.entries.foldl (fun total entry => total + entry.value) 0))
      else .error .badValue
  | value => value.number?

/-- The double nearest to a number, or written by a text. -/
def toFloat? : Value → Except Fault Float
  | text content => (Decimal.readFloat? content).elim (.error .badValue) .ok
  | points _ => .error .badValue
  | bytes content =>
      let chars := String.ofList (content.map fun byte =>
        if byte < 128 then Char.ofNat byte.toNat else '?')
      (Decimal.readFloat? chars).elim (.error .badValue) .ok
  | value => do (← value.number?).toFloat?

end Value

/-!
## Values as arrays of doubles

Nested lists of equal shape form an array, and tuples count as lists.  The shape is
settled first: lists of different lengths side by side, or more than sixty-four
levels, are refused before any entry is looked at.  Then the entries become doubles
from the first to the last, the absent value standing for no number.
-/

/-- Arrays have at most this many extents. -/
def maximalDepth : Nat := 64

namespace Value

mutual

/-- The common shape of nested lists, down to the given depth. -/
def shape? (depth : Nat) : Value → Except Fault (List Nat)
  | list items | tuple items =>
      match depth with
      | 0 => .error .badValue
      | depth + 1 => do return items.length :: (← commonShape? depth items)
  | _ => .ok []

/-- The one shape that all values have; no values have the empty shape. -/
def commonShape? (depth : Nat) : List Value → Except Fault (List Nat)
  | [] => .ok []
  | [item] => shape? depth item
  | item :: rest => do
      let first ← shape? depth item
      let others ← commonShape? depth rest
      if first = others then return first else .error .badValue

end

mutual

/-- The values inside nested lists that are no lists, from the first to the last. -/
def leaves : Value → List Value
  | list items | tuple items => leavesOfAll items
  | value => [value]

/-- The leaves of several values, one after the other. -/
def leavesOfAll : List Value → List Value
  | [] => []
  | item :: rest => leaves item ++ leavesOfAll rest

end

/-- The double at a place of an array. -/
def entry? : Value → Except Fault Float
  | null => .ok (0.0 / 0.0)
  | matrix _ => .error .badValue
  | value => value.toFloat?

mutual

/-- The entries of nested lists from the first to the last. -/
def entries? : Value → Except Fault (List Float)
  | list items | tuple items => entriesOfAll? items
  | value => do return [← value.entry?]

/-- The entries of several values, one after the other. -/
def entriesOfAll? : List Value → Except Fault (List Float)
  | [] => .ok []
  | item :: rest => do return (← entries? item) ++ (← entriesOfAll? rest)

end

/-- The array of doubles that a value describes. -/
def toTensor? (value : Value) : Except Fault (Tensor Float) := do
  let shape ← value.shape? maximalDepth
  return ⟨shape, ← value.entries?⟩

end Value

/-!
## Keys of mappings

Two keys are the same if they are equal numbers, equal texts and so on.  Writing
to a key that is there replaces its value and keeps its place and its form.
-/

namespace Number

/-- The whole number that a double is exactly. -/
def wholeOf? (x : Float) : Option Int := do
  let exact ← Decimal.Dyadic.ofFloat? x
  let (numerator, denominator) := exact.fraction
  if numerator % denominator = 0 then
    let size : Int := numerator / denominator
    return if exact.negative then -size else size
  else failure

/-- The whole number that a number is exactly. -/
def whole? : Number → Option Int
  | whole value => some value
  | real value => wholeOf? value

/-- Exactly equal numbers.  What is no number is taken to be the same as itself. -/
def same : Number → Number → Bool
  | whole left, whole right => left == right
  | whole left, real right => wholeOf? right == some left
  | real left, whole right => wholeOf? left == some right
  | real left, real right => left == right || (left.isNaN && right.isNaN)

end Number

namespace Value

/-- The same key of a mapping. -/
def sameKey : Value → Value → Bool
  | null, null => true
  | text left, text right => left == right
  | points left, points right => left == right
  | bytes left, bytes right => left == right
  | date left, date right => left == right
  | moment left, moment right => left.same right
  | left, right =>
      match left.number?, right.number? with
      | .ok left, .ok right => left.same right
      | _, _ => false

/-- Whether a number equals a value. -/
def isNumber? (number : Int) : Value → Except Fault Bool
  | matrix content => do return (Number.whole number).same (← (matrix content).comparand?)
  | value => .ok ((int number).sameKey value)

/-- Write something to a key, given which keys are the same. -/
def insertEntry {κ ν : Type} (same : κ → κ → Bool) (entries : List (κ × ν)) (key : κ) (item : ν) :
    List (κ × ν) :=
  if entries.any fun (known, _) => same known key then
    entries.map fun (known, old) => if same known key then (known, item) else (known, old)
  else entries ++ [(key, item)]

end Value

/-!
## Values that can be shown

Whole numbers with very many digits are not shown, and what has no end cannot be
written out.
-/

namespace Value

/-- Refuse a number that is too long to be shown. -/
def checkShowable : Value → Except Fault Unit
  | int number => if number.natAbs < Nat.pow 10 Text.longestWhole then .ok () else .error .badValue
  | _ => .ok ()

mutual

/-- Refuse a value that cannot be written out with all its parts. -/
def checkWritable : Value → Except Fault Unit
  | list items => checkAllWritable items
  | mapping entries => checkEntriesWritable entries
  | endless _ => .error .tooDeep
  | value => value.checkShowable

/-- Refuse several values if one of them cannot be written out. -/
def checkAllWritable : List Value → Except Fault Unit
  | [] => .ok ()
  | item :: rest => do
      checkWritable item
      checkAllWritable rest

/-- Refuse keys that cannot be shown and values that cannot be written out. -/
def checkEntriesWritable : List (Value × Value) → Except Fault Unit
  | [] => .ok ()
  | (key, value) :: rest => do
      checkShowable key
      checkWritable value
      checkEntriesWritable rest

end

end Value

/-!
## Values as truth values

Every value counts as true or as false where only that is asked of it, except for
a matrix with several entries or with none.
-/

namespace Value

/-- Empty values, zeros and the absent value count as false. -/
def isTrue : Value → Bool
  | null => false
  | bool flag => flag
  | int number => number != 0
  | float number => number != 0
  | text content => !content.isEmpty
  | bytes content => !content.isEmpty
  | list items => !items.isEmpty
  | tuple items => !items.isEmpty
  | set members => !members.isEmpty
  | mapping entries => !entries.isEmpty
  | matrix content => !content.entries.isEmpty
  | date _ | moment _ | points _ | endless _ => true

/-- Whether a value counts as true.  A matrix with more or less than one entry does
not count as either. -/
def isTrue? (value : Value) : Except Fault Bool :=
  match value with
  | matrix content =>
      if content.rows = 1 ∧ content.columns = 1 then .ok value.isTrue else .error .badValue
  | value => .ok value.isTrue

end Value

end HingeRank
