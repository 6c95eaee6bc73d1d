import HingeRank.Value.Conversion

/-!
# Errors built from values

An error of a category may be built by hand from any values.  A mismatch of
dimensions takes the two dimensions and may name a place; all other errors show
what they are given.
-/

namespace HingeRank

/-- An error built by hand. -/
structure Notice where
  category : Category
  message : Text.Points
  /-- The dimensions and the place of a mismatch. -/
  details : List (String × Value)

namespace Notice

/-- The text of several values together. -/
def textOf : List Value → Text.Points
  | [] => ""
  | [single] => single.toPoints
  | values => (Value.tuple values).toText

/-- The notice of a dimension mismatch; a place that counts as false is not named. -/
def mismatch? (expected actual place : Value) : Except Fault Notice := do
  let shownPlace := if ← place.isTrue? then place.toPoints else ""
  return { category := .dimensionMismatch
           message := mismatchText expected.toPoints actual.toPoints shownPlace
           details := [("expected", expected), ("actual", actual), ("where", place)] }

/-- The error of a category with the given values. -/
def build? (category : Category) (values : List Value) : Except Fault Notice :=
  match category, values with
  | .dimensionMismatch, [expected, actual] => mismatch? expected actual (.text "")
  | .dimensionMismatch, [expected, actual, place] => mismatch? expected actual place
  | .dimensionMismatch, _ => .error .wrongType
  | category, values => .ok ⟨category, textOf values, []⟩

end Notice

end HingeRank
