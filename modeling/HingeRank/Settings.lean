import HingeRank.Optimizer

/-!
# Settings

Checked settings of training and of the optimizer, and the records that share them with
callers.
-/

namespace HingeRank

/-!
## Configuration of training

Training has settings of its own and passes most of them on to the optimizer,
whose remaining settings come from overrides.
-/

/-- What governs training. -/
structure TrainerConfig (K : Type) where
  /-- How much the risk weighs against the length of the weights. -/
  tradeoff : K
  epsilon : K
  maxIterations : Nat
  nonnegativeWeights : Bool
  verbose : Bool
  /-- The number of workers among which the loss is divided. -/
  workers : Number
  maxSeconds : Option K
  obstacles : Obstacles := .none

namespace TrainerConfig

variable {K : Type}

/-- The optimizer's configuration: the trainer decides about accuracy, limits, the
sign of weights and progress; the rest comes from the overrides. -/
def optimizer (config : TrainerConfig K) (overrides : OptimizerConfig K) : OptimizerConfig K :=
  { overrides with
    epsilon := config.epsilon
    maxIterations := config.maxIterations
    nonnegative := config.nonnegativeWeights
    verbose := config.verbose
    maxSeconds := config.maxSeconds
    obstacles := config.obstacles }

end TrainerConfig

/-!
## Checking single settings

A setting is kept as it was given and only has to satisfy a numeric requirement.
Values that are no numbers cannot be compared.  What is no number in the numeric
sense fails to be positive but passes for being large enough.
-/

namespace Settings

/-- Refuse a setting that does not satisfy its requirement. -/
def check (setting : String) (requirement : Requirement) (given : Value) : Except Error Unit := do
  let number ← given.comparand?.mapError .fault
  let satisfied :=
    match requirement with
    | .positive => number.above 0
    | .atLeast least => !number.below least
  if !satisfied then
    given.checkShowable.mapError .fault
    throw (.settingOutOfRange setting requirement given)

/-- Refuse a time limit that is neither absent nor positive. -/
def checkTimeLimit (given : Value) : Except Error Unit :=
  match given with
  | .null => .ok ()
  | given => check "max_seconds" .positive given

/-- The number in a setting as a double; other values never pass the checks. -/
def toFloat (given : Value) : Float :=
  match given.number? with
  | .ok number => number.toFloat
  | .error _ => 0.0 / 0.0

/-- The fault in place of a result. -/
def faultOf {α : Type} : Except Fault α → Option Fault
  | .ok _ => none
  | .error fault => some fault

/-- Counts are limited by this number where a setting sets no limit. -/
def unlimited : Nat := Nat.pow 2 64

/-- The first count that reaches a setting. -/
def firstReaching (given : Value) : Nat :=
  match given.number? with
  | .ok number => number.firstReaching unlimited
  | .error _ => 0

/-- The number of counts below a setting. -/
def countsBelow (given : Value) : Nat :=
  match given.number? with
  | .ok number => number.countsBelow unlimited
  | .error _ => 0

/-- A time limit in seconds. -/
def timeLimit (given : Value) : Option Float :=
  match given with
  | .null => none
  | given => some (toFloat given)

/-- A record of settings that can be written by name. -/
structure Layout (α : Type) where
  group : Section
  fresh : α
  write? : String → Value → α → Option α

namespace Layout

variable {α : Type}

/-- The name of the record itself, which no setting can have. -/
def ownName : String := "self"

/-- Write named settings in their order, refusing the first unknown name. -/
def writeAll (layout : Layout α) : List (Value × Value) → α → Except Error α
  | [], record => .ok record
  | (name, value) :: rest, record =>
      match layout.write? name.toText value record with
      | some record => writeAll layout rest record
      | none =>
          if name.toText == ownName then .error (.takenSetting layout.group ownName)
          else .error (.unknownSetting layout.group name.toPoints)

/-- The record with the given settings and defaults for all others.  Names that
are no texts are refused before any unknown name is. -/
def ofEntries? (layout : Layout α) (entries : List (Value × Value)) : Except Error α :=
  if entries.all fun (name, _) => name matches .text _ | .points _ then
    layout.writeAll entries layout.fresh
  else .error .settingNameNotText

end Layout

end Settings

/-!
## Settings of the optimizer

The settings as users give them, under the names that users write.
-/

/-- Settings of the optimizer as they were given. -/
structure OptimizerSettings where
  epsilon : Value
  maxIterations : Value
  nonnegative : Value
  qpEpsilon : Value
  qpMaxIterations : Value
  inactivePlaneThreshold : Value
  maxSeconds : Value
  verbose : Value

namespace OptimizerSettings

/-- The settings in force unless others are given. -/
def default : OptimizerSettings where
  epsilon := .float 0.001
  maxIterations := .int 10000
  nonnegative := .bool false
  qpEpsilon := .float 0.1
  qpMaxIterations := .int 50000
  inactivePlaneThreshold := .int 20
  maxSeconds := .null
  verbose := .bool false

/-- All settings with their names. -/
def entries (settings : OptimizerSettings) : List (String × Value) :=
  [("epsilon", settings.epsilon),
   ("max_iterations", settings.maxIterations),
   ("nonnegative", settings.nonnegative),
   ("qp_epsilon", settings.qpEpsilon),
   ("qp_max_iterations", settings.qpMaxIterations),
   ("inactive_plane_threshold", settings.inactivePlaneThreshold),
   ("max_seconds", settings.maxSeconds),
   ("verbose", settings.verbose)]

/-- Replace the setting with the given name, if there is one. -/
def write? (name : String) (value : Value) (settings : OptimizerSettings) :
    Option OptimizerSettings :=
  match name with
  | "epsilon" => some { settings with epsilon := value }
  | "max_iterations" => some { settings with maxIterations := value }
  | "nonnegative" => some { settings with nonnegative := value }
  | "qp_epsilon" => some { settings with qpEpsilon := value }
  | "qp_max_iterations" => some { settings with qpMaxIterations := value }
  | "inactive_plane_threshold" => some { settings with inactivePlaneThreshold := value }
  | "max_seconds" => some { settings with maxSeconds := value }
  | "verbose" => some { settings with verbose := value }
  | _ => none

def layout : Settings.Layout OptimizerSettings := ⟨.optimizer, default, write?⟩

/-- Refuse settings out of range, the first one in order. -/
def validate (settings : OptimizerSettings) : Except Error Unit := do
  Settings.check "epsilon" .positive settings.epsilon
  Settings.check "max_iterations" (.atLeast 0) settings.maxIterations
  Settings.check "qp_epsilon" .positive settings.qpEpsilon
  Settings.check "qp_max_iterations" (.atLeast 1) settings.qpMaxIterations
  Settings.check "inactive_plane_threshold" (.atLeast 1) settings.inactivePlaneThreshold
  Settings.checkTimeLimit settings.maxSeconds

/-- The accepted gap, as exact as the settings are. -/
def acceptedGap? (settings : OptimizerSettings) (tradeoff : Value) : Except Fault Number := do
  (← tradeoff.number?).times? (← settings.epsilon.number?)

/-- The tolerance of subproblems, as exact as the settings are. -/
def tolerance? (settings : OptimizerSettings) (tradeoff : Value) : Except Fault Number := do
  let share ← (← settings.qpEpsilon.number?).times? (← settings.epsilon.number?)
  share.times? (← tradeoff.number?)

/-- What valid settings keep from being computed. -/
def obstacles (settings : OptimizerSettings) (tradeoff : Value) : Obstacles where
  objective := Settings.faultOf (tradeoff.number? >>= Number.toFloat?)
  progress := Settings.faultOf settings.verbose.isTrue?
  acceptance := Settings.faultOf (settings.acceptedGap? tradeoff)
  subproblem := Settings.faultOf do
    let tolerance ← settings.tolerance? tradeoff
    let _ ← settings.nonnegative.isTrue?
    tolerance.toFloat?
  warning := Settings.faultOf (settings.acceptedGap? tradeoff >>= Number.toFloat?)

/-- The configuration that valid settings describe, in the service of a tradeoff. -/
def resolve (settings : OptimizerSettings) (tradeoff : Value) : OptimizerConfig Float where
  epsilon := Settings.toFloat settings.epsilon
  maxIterations := Settings.firstReaching settings.maxIterations
  nonnegative := settings.nonnegative.isTrue
  qpEpsilon := Settings.toFloat settings.qpEpsilon
  qpMaxIterations := Settings.countsBelow settings.qpMaxIterations
  inactivePlaneThreshold := Settings.countsBelow settings.inactivePlaneThreshold
  maxSeconds := Settings.timeLimit settings.maxSeconds
  verbose := settings.verbose.isTrue
  obstacles := settings.obstacles tradeoff

end OptimizerSettings

/-!
## Settings of the trainer

The settings as users give them, under the names that users write.  Some of the
optimizer's settings are the trainer's to decide.
-/

/-- Settings of the trainer as they were given. -/
structure TrainerSettings where
  tradeoff : Value
  epsilon : Value
  maxIterations : Value
  nonnegativeWeights : Value
  verbose : Value
  workers : Value
  maxSeconds : Value

namespace TrainerSettings

/-- The settings in force unless others are given. -/
def default : TrainerSettings where
  tradeoff := .float 1.0
  epsilon := .float 0.001
  maxIterations := .int 10000
  nonnegativeWeights := .bool false
  verbose := .bool false
  workers := .int 1
  maxSeconds := .null

/-- All settings with their names. -/
def entries (settings : TrainerSettings) : List (String × Value) :=
  [("C", settings.tradeoff),
   ("epsilon", settings.epsilon),
   ("max_iterations", settings.maxIterations),
   ("nonnegative_weights", settings.nonnegativeWeights),
   ("verbose", settings.verbose),
   ("num_threads", settings.workers),
   ("max_seconds", settings.maxSeconds)]

/-- Replace the setting with the given name, if there is one. -/
def write? (name : String) (value : Value) (settings : TrainerSettings) :
    Option TrainerSettings :=
  match name with
  | "C" => some { settings with tradeoff := value }
  | "epsilon" => some { settings with epsilon := value }
  | "max_iterations" => some { settings with maxIterations := value }
  | "nonnegative_weights" => some { settings with nonnegativeWeights := value }
  | "verbose" => some { settings with verbose := value }
  | "num_threads" => some { settings with workers := value }
  | "max_seconds" => some { settings with maxSeconds := value }
  | _ => none

def layout : Settings.Layout TrainerSettings := ⟨.trainer, default, write?⟩

def checkTradeoff (given : Value) : Except Error Unit := Settings.check "C" .positive given

def checkEpsilon (given : Value) : Except Error Unit := Settings.check "epsilon" .positive given

def checkMaxIterations (given : Value) : Except Error Unit :=
  Settings.check "max_iterations" (.atLeast 0) given

def checkWorkers (given : Value) : Except Error Unit :=
  Settings.check "num_threads" (.atLeast 1) given

/-- Refuse settings out of range, the first one in order. -/
def validate (settings : TrainerSettings) : Except Error Unit := do
  checkTradeoff settings.tradeoff
  checkEpsilon settings.epsilon
  checkMaxIterations settings.maxIterations
  checkWorkers settings.workers
  Settings.checkTimeLimit settings.maxSeconds

/-- The optimizer's settings: five of them are the trainer's to decide. -/
def optimizer (settings : TrainerSettings) (overrides : OptimizerSettings) : OptimizerSettings :=
  { overrides with
    epsilon := settings.epsilon
    maxIterations := settings.maxIterations
    nonnegative := settings.nonnegativeWeights
    verbose := settings.verbose
    maxSeconds := settings.maxSeconds }

/-- The configuration that valid settings describe, given those of the optimizer. -/
def resolve (settings : TrainerSettings) (overrides : OptimizerSettings) :
    TrainerConfig Float where
  tradeoff := Settings.toFloat settings.tradeoff
  epsilon := Settings.toFloat settings.epsilon
  maxIterations := Settings.firstReaching settings.maxIterations
  nonnegativeWeights := settings.nonnegativeWeights.isTrue
  verbose := settings.verbose.isTrue
  workers := settings.workers.comparand?.toOption.getD (.whole 1)
  maxSeconds := Settings.timeLimit settings.maxSeconds
  obstacles := (settings.optimizer overrides).obstacles settings.tradeoff

end TrainerSettings

/-!
## Shared records

A record of settings can be changed by everyone who knows its place.  One of the
records is in use; callers know the places of the records that they handed in or
were given.  A record that is copied gets a place of its own.
-/

/-- All records of one kind by their places, of which one is in use. -/
structure Records (α : Type) where
  contents : List α
  /-- The place of the record in use. -/
  own : Nat
  own_lt : own < contents.length
  /-- The places that callers know, in the order in which they came to know them. -/
  known : List Nat

namespace Records

variable {α : Type}

/-- The record in use. -/
def current (records : Records α) : α := records.contents.get ⟨records.own, records.own_lt⟩

/-- The record that a caller holds under a number. -/
def held? (records : Records α) (handle : Nat) : Option α :=
  records.known[handle]?.bind fun place => records.contents[place]?

/-- The number under which the record that a caller came to know last is held. -/
def latest (records : Records α) : Nat := records.known.length - 1

/-- Records of callers, and a copy of some record in use. -/
def ofCopy (given : List α) (record : α) : Records α where
  contents := given ++ [record]
  own := given.length
  own_lt := by simp
  known := List.range given.length

/-- Change the record in use. -/
def update (change : α → α) (records : Records α) : Records α where
  contents := records.contents.modify records.own change
  own := records.own
  own_lt := by simp [records.own_lt]
  known := records.known

/-- Change a record that a caller holds. -/
def updateHeld (handle : Nat) (change : α → α) (records : Records α) : Records α :=
  match records.known[handle]? with
  | none => records
  | some place =>
      { contents := records.contents.modify place change
        own := records.own
        own_lt := by simp [records.own_lt]
        known := records.known }

/-- Put a copy of a record to use. -/
def adopt (record : α) (records : Records α) : Records α where
  contents := records.contents ++ [record]
  own := records.contents.length
  own_lt := by simp
  known := records.known

/-- Let callers hold a new record. -/
def lend (record : α) (records : Records α) : Records α where
  contents := records.contents ++ [record]
  own := records.own
  own_lt := by
    have := records.own_lt
    simp; omega
  known := records.known ++ [records.contents.length]

end Records

end HingeRank
