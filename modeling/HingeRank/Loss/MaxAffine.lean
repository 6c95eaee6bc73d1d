import HingeRank.Tensor

/-!
# Oracles

What the optimizer asks of a loss, and the maximum of affine functions as a loss.
-/

namespace HingeRank

/-!
## Loss oracles

The optimizer knows a loss only through an oracle, which answers at a weight
vector with the risk there and a subgradient.  An oracle may keep a state, such
as the number of evaluations made; asking changes it also when the oracle
refuses.
-/

/-- Risk and subgradient at a weight vector.  The subgradient's shape is the
oracle's own affair until it is used. -/
structure LossAnswer (K : Type) where
  risk : K
  subgradient : Tensor K

/-- A loss over weight vectors of one dimension, with a state `σ`. -/
structure LossOracle (K σ : Type) where
  dimension : Nat
  evaluate : List K → σ → Except Error (LossAnswer K) × σ

/-!
## Maxima of affine functions

The largest of several affine functions and zero is convex and nonnegative.  A
subgradient is the gradient of the first function that attains it, and zero
where no function is positive.
-/

/-- Slopes and intercepts of affine functions. -/
structure MaxAffineLoss (K : Type) where
  dimension : Nat
  pieces : List (List K × K)

namespace MaxAffineLoss

variable {K : Type} [Scalar K]

/-- The value at a weight vector and the slope of the first piece that attains it. -/
def risk (loss : MaxAffineLoss K) (weights : List K) : K × List K :=
  loss.pieces.foldl (fun (best, gradient) (slope, intercept) =>
    let value := intercept + Linear.dot slope weights
    if best < value then (value, slope) else (best, gradient))
    (0, Linear.zeros loss.dimension)

/-- The loss as an oracle whose state is the number of evaluations made. -/
def oracle (loss : MaxAffineLoss K) : LossOracle K Nat where
  dimension := loss.dimension
  evaluate weights evaluations :=
    let (risk, gradient) := loss.risk weights
    (.ok ⟨risk, .vector gradient⟩, evaluations + 1)

end MaxAffineLoss

end HingeRank
