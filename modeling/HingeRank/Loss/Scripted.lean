import HingeRank.Loss.MaxAffine

/-!
# Scripted losses

A scripted loss answers from a list, one answer after the other, and repeats the
last one for ever.  It need not be the loss of anything, which shows what the
optimizer guarantees on its own.
-/

namespace HingeRank

/-- Answers to give in order. -/
structure ScriptedLoss (K : Type) where
  dimension : Nat
  answers : List (LossAnswer K)

namespace ScriptedLoss

variable {K : Type}

/-- The answer to the evaluation with this number, counted from zero. -/
def answer? (script : ScriptedLoss K) (number : Nat) : Option (LossAnswer K) :=
  script.answers[min number (script.answers.length - 1)]?

/-- The script as an oracle whose state is the number of evaluations made. -/
def oracle (script : ScriptedLoss K) : LossOracle K Nat where
  dimension := script.dimension
  evaluate _ number :=
    ((script.answer? number).elim (.error (.fault .badPosition)) .ok, number + 1)

end ScriptedLoss

end HingeRank
