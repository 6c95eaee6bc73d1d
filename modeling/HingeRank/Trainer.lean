import HingeRank.Evaluation
import HingeRank.Settings

/-!
# Training and trainers

One training on a dataset, the lines of text that tell of it, the trainer that makes it with
settings of its own, and the calls that change these settings.
-/

namespace HingeRank

/-!
## Training

Training minimises half the squared length of the weights plus a multiple of the
ranking risk of the samples.  The model has the weights with the best objective
that the optimizer found.
-/

section

variable {K : Type} [Scalar K]

/-- A model together with the report of the run that produced it. -/
structure TrainingResult (K : Type) where
  model : Model K
  report : OptimizationResult K

/-- The end of a training, with what it left behind. -/
structure TrainingOutcome (K : Type) where
  result : Except Error (TrainingResult K)
  readings : Nat
  events : List (OptimizerEvent K)

namespace TrainerConfig

/-- Train on a dataset that asks for some ordering. -/
def train (config : TrainerConfig K) (overrides : OptimizerConfig K) (dataset : Dataset K)
    (clock : Nat → K) (readings : Nat) : TrainingOutcome K :=
  match RankingLoss.ofDataset? dataset RankingLoss.defaultMargin config.workers with
  | .error problem => ⟨.error problem, readings, []⟩
  | .ok loss =>
      let outcome :=
        (config.optimizer overrides).optimize loss.oracle config.tradeoff clock readings 0
      { result := outcome.result.map fun report => ⟨⟨report.weights⟩, report⟩
        readings := outcome.readings
        events := outcome.events }

end TrainerConfig

end

/-!
## Reports of what happened

Events of training, of the optimizer and of cross-validation are told as lines of
text on one channel each.  A listener chooses how urgent an event must be.
-/

/-- Where an event is told. -/
inductive Channel where
  | trainer
  | optimizer
  | evaluation
  deriving DecidableEq, Repr

namespace Channel

/-- A channel's name. -/
def name : Channel → String
  | trainer => "rank_svm.trainer"
  | optimizer => "rank_svm.optimizer"
  | evaluation => "rank_svm.evaluation"

end Channel

/-- Something that happened. -/
inductive Event where
  /-- Training begins, with two settings as they were given. -/
  | trainingStarted (queries pairs : Nat) (dimension : Option Nat) (tradeoff epsilon : Value)
  | optimizer (event : OptimizerEvent Float)
  | trainingFinished (iterations : Nat) (reason : StopReason) (best : Option (Evaluated Float))
  | foldJudged (report : FoldReport)

/-- A line of a report. -/
structure ReportLine where
  channel : Channel
  urgency : Urgency
  text : String
  deriving DecidableEq, Repr

namespace Urgency

/-- The name of an urgency. -/
def name : Urgency → String
  | detail => "DEBUG"
  | progress => "INFO"
  | concern => "WARNING"

/-- The urgency with a name. -/
def ofName? (name : String) : Option Urgency :=
  [detail, progress, concern].find? (·.name == name)

/-- A listener for one urgency hears all that is at least as urgent. -/
def reaches (urgency threshold : Urgency) : Bool :=
  match threshold, urgency with
  | detail, _ => true
  | progress, detail => false
  | progress, _ => true
  | concern, concern => true
  | concern, _ => false

end Urgency

namespace Report

/-- The gap between the best objective and a bound; an unknown objective is infinite. -/
def gapText (best : Option Float) (bound : Float) : String :=
  Decimal.briefText (best.getD (1.0 / 0.0) - bound)

/-- A number; without an evaluation it is no number. -/
def knownText (value : Option Float) : String := Decimal.briefText (value.getD (0.0 / 0.0))

def optimizerText : OptimizerEvent Float → String
  | .evaluated iteration objective risk best bound planes _ =>
      "iteration " ++ toString iteration ++ ": objective=" ++ Decimal.briefText objective ++
        " risk=" ++ Decimal.briefText risk ++ " gap=" ++ gapText best bound ++
        " planes=" ++ toString planes
  | .trimmed removed remaining =>
      "Trimmed " ++ toString removed ++ " inactive cutting planes, " ++ toString remaining ++
        " remain"
  | .stopped iterations reason best bound accepted =>
      "Stopped after " ++ toString iterations ++ " iterations (" ++ reason.text ++
        ") with gap " ++ gapText best bound ++ " > " ++ Decimal.briefText accepted

/-- The line that tells an event. -/
def line : Event → ReportLine
  | .trainingStarted queries pairs dimension tradeoff epsilon =>
      ⟨.trainer, .progress,
        "Training ranking SVM on " ++ toString queries ++ " queries, " ++ toString pairs ++
          " pairs, dimension " ++ dimension.elim "None" toString ++ ", C=" ++ tradeoff.toText ++
          ", epsilon=" ++ epsilon.toText⟩
  | .optimizer event => ⟨.optimizer, event.urgency, optimizerText event⟩
  | .trainingFinished iterations reason best =>
      ⟨.trainer, .progress,
        "Finished after " ++ toString iterations ++ " iterations (" ++ reason.text ++
          "), objective=" ++ knownText (best.map (·.objective)) ++
          ", risk=" ++ knownText (best.map (·.risk))⟩
  | .foldJudged report =>
      ⟨.evaluation, .detail,
        "fold " ++ toString report.fold ++ ": " ++ toString report.correctPairs ++ "/" ++
          toString report.totalPairs ++ " pairs correct"⟩

/-- The lines of all events that are urgent enough. -/
def lines (threshold : Urgency) (events : List Event) : List ReportLine :=
  (events.map line).filter (·.urgency.reaches threshold)

end Report

/-!
## The trainer

A trainer keeps its settings and those of its optimizer as they were given.
Training works on the settings at that time and changes none.
-/

/-- Settings for training. -/
structure Trainer where
  settings : TrainerSettings
  overrides : OptimizerSettings

/-- What training leaves behind: readings of the clock and events, oldest first. -/
structure Journal where
  readings : Nat
  events : List Event

namespace Journal

def empty : Journal := ⟨0, []⟩

def note (event : Event) (journal : Journal) : Journal :=
  { journal with events := journal.events ++ [event] }

/-- Note an event only if it is wanted. -/
def noteIf (wanted : Bool) (event : Event) (journal : Journal) : Journal :=
  if wanted then journal.note event else journal

end Journal

namespace Trainer

/-- The optimizer's settings in the next training. -/
def optimizer (trainer : Trainer) : OptimizerSettings :=
  trainer.settings.optimizer trainer.overrides

/-- The configuration of the next training.  The optimizer examines its own settings,
the loss the number of workers, and the run the tradeoff. -/
def config? (trainer : Trainer) : Except Error (TrainerConfig Float) := do
  trainer.optimizer.validate
  TrainerSettings.checkWorkers trainer.settings.workers
  TrainerSettings.checkTradeoff trainer.settings.tradeoff
  return trainer.settings.resolve trainer.overrides

/-- Train on a dataset. -/
def trainOn (trainer : Trainer) (clock : Nat → Float) (dataset : Dataset Float)
    (journal : Journal) : Except Error (TrainingResult Float) × Journal :=
  match trainer.settings.verbose.isTrue?, dataset.isRankingProblem with
  | _, false => (.error (.noPairs .training), journal)
  | .error fault, true => (.error (.fault fault), journal)
  | .ok verbose, true =>
      let journal := journal.noteIf verbose (.trainingStarted dataset.size dataset.pairCount
        dataset.dimension trainer.settings.tradeoff trainer.settings.epsilon)
      match trainer.config? with
      | .error problem => (.error problem, journal)
      | .ok config =>
          let overrides := trainer.overrides.resolve trainer.settings.tradeoff
          let outcome := config.train overrides dataset clock journal.readings
          let journal := { journal with
            readings := outcome.readings
            events := journal.events ++ outcome.events.map .optimizer }
          match outcome.result with
          | .error problem => (.error problem, journal)
          | .ok result =>
              (.ok result, journal.noteIf verbose (.trainingFinished result.report.iterations
                result.report.stopReason result.report.best))

/-- Train on samples. -/
def train (trainer : Trainer) (clock : Nat → Float) (samples : Samples Float)
    (journal : Journal) : Except Error (TrainingResult Float) × Journal :=
  match samples.toDataset? with
  | .error problem => (.error problem, journal)
  | .ok dataset => trainer.trainOn clock dataset journal

/-- Cross-validate the trainer on samples. -/
def crossValidate (trainer : Trainer) (clock : Nat → Float) (samples : Samples Float)
    (folds : Value) (journal : Journal) : Except Error (RankingAccuracy Float) × Journal :=
  CrossValidation.ofSamples
    (fun dataset journal =>
      let (result, journal) := trainer.trainOn clock dataset journal
      (result.map (·.model), journal))
    (fun report journal => journal.note (.foldJudged report))
    samples folds journal

end Trainer

/-!
## A trainer and its callers

A trainer works on records of its own, which are copies of those that it is given.
Callers may change the records that they hold at any time.  Each of the trainer's
settings is checked by the call that supplies it.

A call that fails keeps what it did up to then.
-/

/-- A trainer's records among all that its callers hold, and what its trainings left
behind. -/
structure TrainerSession where
  settings : Records TrainerSettings
  overrides : Records OptimizerSettings
  journal : Journal

namespace TrainerSession

/-- The trainer as it is now. -/
def trainer (session : TrainerSession) : Trainer :=
  ⟨session.settings.current, session.overrides.current⟩

/-- A copy of the settings that a caller gives, or of those in force otherwise; the
tradeoff may be given on its own. -/
def copySettings (tradeoff : Option Value) (settings : Option TrainerSettings) :
    Records TrainerSettings :=
  let copied := .ofCopy settings.toList (settings.getD .default)
  match tradeoff with
  | some tradeoff => copied.update fun settings => { settings with tradeoff }
  | none => copied

/-- A trainer with copies of the records that callers give.  Its own settings are checked,
those of the optimizer are not. -/
def create? (tradeoff : Option Value) (settings : Option TrainerSettings)
    (overrides : Option OptimizerSettings) : Except Error TrainerSession := do
  let own := copySettings tradeoff settings
  own.current.validate
  return ⟨own, .ofCopy overrides.toList (overrides.getD .default), .empty⟩

/-- A call to a trainer or to the records around it. -/
abbrev Call (α : Type) := ExceptT Error (StateM TrainerSession) α

/-- Change the trainer's settings in their place. -/
def revise (change : TrainerSettings → TrainerSettings) : Call Unit :=
  modify fun session => { session with settings := session.settings.update change }

/-- Replace one of the trainer's settings, once the new value has been checked. -/
def assign (check : Value → Except Error Unit)
    (write : Value → TrainerSettings → TrainerSettings) (given : Value) : Call Unit := do
  check given
  revise (write given)

def setTradeoff : Value → Call Unit :=
  assign TrainerSettings.checkTradeoff fun tradeoff settings => { settings with tradeoff }

def setEpsilon : Value → Call Unit :=
  assign TrainerSettings.checkEpsilon fun epsilon settings => { settings with epsilon }

def setMaxIterations : Value → Call Unit :=
  assign TrainerSettings.checkMaxIterations fun maxIterations settings =>
    { settings with maxIterations }

def setWorkers : Value → Call Unit :=
  assign TrainerSettings.checkWorkers fun workers settings => { settings with workers }

/-- A value decides whether weights may be negative by counting as true or not. -/
def setNonnegativeWeights (given : Value) : Call Unit := do
  let flag ← (given.isTrue?.mapError .fault : Except Error Bool)
  revise ({ · with nonnegativeWeights := .bool flag })

def setVerbose (verbose : Bool) : Call Unit := revise ({ · with verbose := .bool verbose })

/-- Replace the optimizer's settings by a copy of a record that the caller holds.  All
of them are checked. -/
def setOptimizer (handle : Nat) : Call Unit := do
  let some candidate := (← get).overrides.held? handle | throw (.fault .badPosition)
  candidate.validate
  modify fun session => { session with overrides := session.overrides.adopt candidate }

/-- The optimizer's settings in the next training, as a new record. -/
def getOptimizer : Call OptimizerSettings := do
  let resolved := (← get).trainer.optimizer
  modify fun session => { session with overrides := session.overrides.lend resolved }
  return resolved

/-- Train on samples. -/
def train (clock : Nat → Float) (samples : Samples Float) : Call (TrainingResult Float) := do
  let session ← get
  let (result, journal) := session.trainer.train clock samples session.journal
  set { session with journal }
  result

/-- A new record of the optimizer's settings in the hands of a caller. -/
def makeOptimizer (settings : OptimizerSettings) : Call Unit :=
  modify fun session => { session with overrides := session.overrides.lend settings }

/-- Change the setting with a certain name in a record that a caller holds. -/
def changeSettings (handle : Nat) (name : String) (given : Value) : Call Unit :=
  modify fun session => { session with
    settings := session.settings.updateHeld handle fun settings =>
      (settings.write? name given).getD settings }

/-- Change the setting with a certain name in a record that a caller holds. -/
def changeOptimizer (handle : Nat) (name : String) (given : Value) : Call Unit :=
  modify fun session => { session with
    overrides := session.overrides.updateHeld handle fun settings =>
      (settings.write? name given).getD settings }

end TrainerSession

/-- What callers do with a trainer and with the records that they hold. -/
inductive TrainerCall where
  | setTradeoff (given : Value)
  | setEpsilon (given : Value)
  | setMaxIterations (given : Value)
  | setWorkers (given : Value)
  | setNonnegativeWeights (given : Value)
  | setVerbose (verbose : Bool)
  | setOptimizer (handle : Nat)
  | getOptimizer
  | train (samples : Samples Float)
  | makeOptimizer (settings : OptimizerSettings)
  | changeSettings (handle : Nat) (name : String) (given : Value)
  | changeOptimizer (handle : Nat) (name : String) (given : Value)

/-- What a call answers. -/
inductive TrainerAnswer where
  | done
  | optimizer (settings : OptimizerSettings)
  | trained (result : TrainingResult Float)

namespace TrainerSession

/-- Carry out a call. -/
def perform (clock : Nat → Float) : TrainerCall → Call TrainerAnswer
  | .setTradeoff given => do setTradeoff given; return .done
  | .setEpsilon given => do setEpsilon given; return .done
  | .setMaxIterations given => do setMaxIterations given; return .done
  | .setWorkers given => do setWorkers given; return .done
  | .setNonnegativeWeights given => do setNonnegativeWeights given; return .done
  | .setVerbose verbose => do setVerbose verbose; return .done
  | .setOptimizer handle => do setOptimizer handle; return .done
  | .getOptimizer => return .optimizer (← getOptimizer)
  | .train samples => return .trained (← train clock samples)
  | .makeOptimizer settings => do makeOptimizer settings; return .done
  | .changeSettings handle name given => do changeSettings handle name given; return .done
  | .changeOptimizer handle name given => do changeOptimizer handle name given; return .done

end TrainerSession

end HingeRank
