/-!
# Scalars and vectors of them

All algorithms are written over one kind of numbers.  This module has what they need of
numbers, of lists of numbers as vectors, and of the choice of an entry.
-/

namespace HingeRank

/-!
## Numbers the library computes with

Every numeric algorithm of the library is written once, over a type `K` with the
operations below, in the order in which its arithmetic is carried out.  Two
readings matter: `Float`, on which programs run, and `Rat`, in which the same
definitions compute exactly.

The operations carry no laws.  A double may be infinite or may be no number at
all, so the predicates here say what the algorithms need to know about such
values by comparisons alone; over `Rat` each of them is a plain fact.
-/

/-- Arithmetic with decidable comparisons, and nothing assumed about it. -/
class Scalar (K : Type) extends
    Add K, Sub K, Mul K, Div K, Neg K, Zero K, One K, NatCast K, LT K, LE K where
  decidableLt : DecidableLT K
  decidableLe : DecidableLE K

attribute [reducible, instance] Scalar.decidableLt Scalar.decidableLe

instance floatNatCast : NatCast Float := ⟨Float.ofNat⟩

instance : Scalar Float where
  zero := 0
  one := 1
  decidableLt := inferInstance
  decidableLe := inferInstance

instance : Scalar Rat where
  zero := 0
  one := 1
  decidableLt := inferInstance
  decidableLe := inferInstance

namespace Scalar

variable {K : Type} [Scalar K]

/-- Exactly the values that are numbers compare with themselves. -/
def isNumber (x : K) : Bool := x ≤ x

/-- A finite value cancels itself; an infinite one leaves no number. -/
def isFinite (x : K) : Bool := x - x ≤ 0

/-- The value lies below every sufficiently large one. -/
def belowInfinity (x : K) : Bool := isFinite x || x < 0

/-- Numerical equality: zeros of both signs agree, and what is no number equals
nothing. -/
def same (x y : K) : Bool := x ≤ y && y ≤ x

/-- One half. -/
def half : K := 1 / (1 + 1)

/-- The smaller value, the first when neither is smaller. -/
def lesser (x y : K) : K := if y < x then y else x

/-- The larger value, the first when neither is larger. -/
def greater (x y : K) : K := if x < y then y else x

/-- Negative values are raised to zero; what is no number stays. -/
def positivePart (x : K) : K := if x ≤ 0 then 0 else x

/-- The fraction `numerator / denominator` of two counts. -/
def ratio (numerator denominator : Nat) : K := (numerator : K) / (denominator : K)

end Scalar

/-!
## Vectors and rows of vectors

A vector is the list of its components and a matrix is the list of its rows.
Sums run from left to right starting at zero.  Where two lengths differ the
longer vector is cut; callers that must not lose components compare lengths
first.
-/

namespace Linear

open Scalar

variable {K : Type} [Scalar K]

/-- The sum of the components. -/
def sum (values : List K) : K := values.foldl (· + ·) 0

/-- The inner product. -/
def dot (left right : List K) : K := sum (List.zipWith (· * ·) left right)

/-- Half the squared length. -/
def halfNorm (vector : List K) : K := half * dot vector vector

def add (left right : List K) : List K := List.zipWith (· + ·) left right

def sub (left right : List K) : List K := List.zipWith (· - ·) left right

def scale (factor : K) (vector : List K) : List K := vector.map (factor * ·)

def neg (vector : List K) : List K := vector.map (- ·)

def zeros (dimension : Nat) : List K := List.replicate dimension 0

/-- The component at a position, zero beyond the end. -/
def entry (vector : List K) (position : Nat) : K := vector.getD position 0

/-- The row at a position, empty beyond the end. -/
def row (rows : List (List K)) (position : Nat) : List K := rows.getD position []

/-- The column at a position. -/
def column (rows : List (List K)) (position : Nat) : List K := rows.map (entry · position)

/-- Every row against one vector. -/
def apply (rows : List (List K)) (vector : List K) : List K := rows.map (dot · vector)

/-- The combination of rows with one coefficient each, in a space of the given
dimension. -/
def combine (dimension : Nat) (coefficients : List K) (rows : List (List K)) : List K :=
  (List.zipWith scale coefficients rows).foldl add (zeros dimension)

/-- All inner products of the rows with one another. -/
def gram (rows : List (List K)) : List (List K) :=
  rows.map fun left => rows.map fun right => dot left right

/-- All components are finite. -/
def allFinite (vector : List K) : Bool := vector.all isFinite

end Linear

/-!
## The first best entry of a list

Choosing a coordinate means choosing the first entry that no other entry beats.
A value that is no number beats every number, both where the largest and where
the smallest entry is wanted, so that it comes to light at once.
-/

namespace Selection

open Scalar

variable {K : Type} [Scalar K]

/-- Carry the best entry so far, and its position, through the rest of a list
whose first entry stands at `position`. -/
def bestFrom {α : Type} (beats : α → α → Bool) (position : Nat) (held : Nat × α) :
    List α → Nat × α
  | [] => held
  | entry :: rest =>
      bestFrom beats (position + 1) (if beats entry held.2 then (position, entry) else held) rest

/-- The first entry that is not beaten, with its position. -/
def best? {α : Type} (beats : α → α → Bool) : List α → Option (Nat × α)
  | [] => none
  | entry :: rest => some (bestFrom beats 1 (0, entry) rest)

/-- The left value is larger, or is the first to be no number. -/
def isLarger (left right : K) : Bool :=
  isNumber right && (!isNumber left || right < left)

/-- The left value is smaller, or is the first to be no number. -/
def isSmaller (left right : K) : Bool :=
  isNumber right && (!isNumber left || left < right)

/-- Position of the first largest entry. -/
def largest (values : List K) : Nat :=
  (best? isLarger values).elim 0 (·.1)

/-- The largest entry of a nonempty list. -/
def maximum? (values : List K) : Option K :=
  (best? isLarger values).map (·.2)

/-- An entry that a disabled one, counted as infinite, does not beat. -/
def canWin (value : K) : Bool := !isNumber value || belowInfinity value

/-- An enabled entry beats a disabled one unless it is infinite itself. -/
def isSmallerEnabled : Option K → Option K → Bool
  | some left, some right => isSmaller left right
  | some _, none => true
  | none, _ => false

/-- Position of the first smallest entry among the enabled ones; the first
position when no enabled entry lies below infinity. -/
def smallestEnabled (enabled : K → Bool) (marks values : List K) : Nat :=
  let candidates := List.zipWith
    (fun mark value => if enabled mark && canWin value then some value else none) marks values
  (best? isSmallerEnabled candidates).elim 0 (·.1)

end Selection

end HingeRank
