import HingeRank.Value

/-!
# Reasons to refuse

An `Error` names what was wrong; its message is derived from it.  Errors of the
library itself belong to a category, and the categories form a tree, so that a
caller may treat a whole branch alike.  The remaining errors are faults of a
single elementary operation and have no message.
-/

namespace HingeRank

/-- Failures of elementary operations on values. -/
inductive Fault where
  /-- The operation is not defined for values of this type. -/
  | wrongType
  /-- The type fits and the value does not. -/
  | badValue
  /-- A whole number beyond the largest double. -/
  | tooLarge
  /-- A position outside a sequence. -/
  | badPosition
  | divisionByZero
  /-- The object has no such part, or the part cannot be changed. -/
  | missingPart
  /-- A table has no entry for the word. -/
  | missingEntry
  /-- Bytes that are no text. -/
  | badEncoding
  /-- Something is nested too deeply, or does not end at all. -/
  | tooDeep
  deriving DecidableEq, Repr

/-- The branches of the library's own errors. -/
inductive Category where
  | general
  | configuration
  | validation
  | rankingProblem
  | dimensionMismatch
  | optimization
  deriving DecidableEq, Repr

namespace Category

/-- All categories, each after those from which it branches off. -/
def all : List Category :=
  [general, configuration, validation, rankingProblem, dimensionMismatch, optimization]

/-- The category and all above it, from the narrowest to the widest. -/
def lineage : Category → List Category
  | general => [general]
  | configuration => [configuration, general]
  | validation => [validation, general]
  | optimization => [optimization, general]
  | rankingProblem => [rankingProblem, validation, general]
  | dimensionMismatch => [dimensionMismatch, validation, general]

end Category

/-- What a numeric setting has to satisfy. -/
inductive Requirement where
  | positive
  | atLeast (least : Nat)
  deriving DecidableEq, Repr

namespace Requirement

def text : Requirement → String
  | positive => "> 0"
  | atLeast least => ">= " ++ toString least

end Requirement

/-- The two groups of settings. -/
inductive Section where
  | trainer
  | optimizer
  deriving DecidableEq, Repr

namespace Section

/-- The full name of a group's record in messages. -/
def recordName : Section → String
  | trainer => "rank_svm.trainer.RankTrainerConfig"
  | optimizer => "rank_svm.optimizer.OptimizerConfig"

/-- The short name of a group's record in messages. -/
def shortName : Section → String
  | trainer => "RankTrainerConfig"
  | optimizer => "OptimizerConfig"

end Section

/-- The activities that need at least one pair of vectors to order. -/
inductive Purpose where
  | lossEvaluation
  | training
  | evaluation
  | crossValidation
  deriving DecidableEq, Repr

namespace Purpose

/-- The complaint about samples without a pair. -/
def noPairsText : Purpose → String
  | lossEvaluation => "Dataset has no query with both relevant and nonrelevant vectors"
  | training => "Training requires at least one query with both relevant and nonrelevant vectors"
  | evaluation => "Evaluation requires at least one (relevant, nonrelevant) pair"
  | crossValidation => "Cross-validation requires at least one (relevant, nonrelevant) pair"

end Purpose

/-- Everything that can be wrong. -/
inductive Error where
  | settingOutOfRange (setting : String) (requirement : Requirement) (given : Value)
  /-- The number of folds is less than two or more than the number of queries. -/
  | foldsOutOfRange (queries : Nat) (given : Value)
  /-- Leaving out this fold leaves no pair to train on. -/
  | foldWithoutPairs (fold : Nat)
  /-- Settings of the optimizer that the trainer decides. -/
  | misplacedSettings (settings : List String)
  | unknownSetting (group : Section) (setting : Text.Points)
  /-- The name belongs to the record of settings itself. -/
  | takenSetting (group : Section) (setting : String)
  | groupNotMapping (group : Section) (typeName : String)
  | settingNameNotText
  | unreadableFile
  | fileNotMapping (path : String)
  /-- The value is not made of numbers in a rectangle. -/
  | notNumeric (typeName : String)
  | notOneRow (rows columns : Nat)
  | notOneDimensional (shape : List Nat)
  | notFinite
  | nothingToStack
  | notAQuery (position : Nat) (typeName : String)
  | notADataset (typeName : String)
  | noPairs (purpose : Purpose)
  /-- A dimension is not the expected one; the place is named unless it is empty. -/
  | dimensionMismatch (expected : Value) (actual : Nat) (place : Text.Points)
  /-- The subproblem had no finite solution. -/
  | weightsNotFinite
  | fault (kind : Fault)

/-- A shape as it stands in messages, such as (2, 1) or (3,). -/
def shapeText : List Nat → String
  | [] => "()"
  | [extent] => "(" ++ toString extent ++ ",)"
  | shape => "(" ++ ", ".intercalate (shape.map toString) ++ ")"

/-- The complaint about a dimension; the place is named unless it is empty. -/
def mismatchText (expected actual place : Text.Points) : Text.Points :=
  let text : Text.Points := "Expected dimension " ++ expected ++ ", got " ++ actual
  if place.isEmpty then text else text ++ " (" ++ place ++ ")"

namespace Error

def message : Error → Text.Points
  | settingOutOfRange setting requirement given =>
      setting ++ " must be " ++ requirement.text ++ ", got " ++ given.toText
  | foldsOutOfRange queries given =>
      "folds must be between 2 and " ++ toString queries ++ ", got " ++ given.toText
  | foldWithoutPairs fold =>
      "Training split of fold " ++ toString fold ++
        " has no (relevant, nonrelevant) pair; use fewer folds or reorder the queries"
  | misplacedSettings settings =>
      "Set " ++ ", ".intercalate settings ++
        " in the trainer section, not the optimizer section"
  | unknownSetting group setting =>
      "Unknown configuration key: " ++ group.shortName ++
        ".__init__() got an unexpected keyword argument '" ++ setting ++ "'"
  | takenSetting group setting =>
      "Unknown configuration key: " ++ group.shortName ++
        ".__init__() got multiple values for argument '" ++ setting ++ "'"
  | groupNotMapping group typeName =>
      "Unknown configuration key: " ++ group.recordName ++
        "() argument after ** must be a mapping, not " ++ typeName
  | settingNameNotText => "Unknown configuration key: keywords must be strings"
  | unreadableFile => "Cannot read configuration file"
  | fileNotMapping path => "Configuration file " ++ path ++ " must contain a mapping"
  | notNumeric typeName => "Cannot interpret " ++ typeName ++ " as a feature vector"
  | notOneRow rows columns =>
      "Sparse feature vector must have one row, got shape (" ++ toString rows ++ ", " ++
        toString columns ++ ")"
  | notOneDimensional shape =>
      "Feature vector must be 1-D, got shape " ++ shapeText shape
  | notFinite => "Feature vector contains non-finite values"
  | nothingToStack => "Cannot stack an empty list of feature vectors"
  | notAQuery position typeName =>
      "Dataset entry " ++ toString position ++ " is a " ++ typeName ++ ", expected RankingQuery"
  | notADataset typeName => "Cannot build a ranking dataset from " ++ typeName
  | noPairs purpose => purpose.noPairsText
  | dimensionMismatch expected actual place =>
      mismatchText expected.toPoints (toString actual) place
  | weightsNotFinite => "QP produced non-finite weights"
  | fault _ => ""

/-- The narrowest category of an error; faults have none. -/
def category? : Error → Option Category
  | settingOutOfRange .. | foldsOutOfRange .. | foldWithoutPairs _ | misplacedSettings _
  | unknownSetting .. | takenSetting .. | groupNotMapping .. | settingNameNotText | unreadableFile
  | fileNotMapping _ => some .configuration
  | notNumeric _ | notOneRow .. | notOneDimensional _ | notFinite | nothingToStack
  | notAQuery .. | notADataset _ => some .validation
  | noPairs _ => some .rankingProblem
  | dimensionMismatch .. => some .dimensionMismatch
  | weightsNotFinite => some .optimization
  | fault _ => none

/-- The error belongs to a category or to one that branches off from it. -/
def isA (error : Error) (category : Category) : Bool :=
  error.category?.any fun narrowest => narrowest.lineage.contains category

end Error

end HingeRank
