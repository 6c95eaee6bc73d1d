import HingeRank.Proofs.Exact.Sequence
import HingeRank.Proofs.Trainer.Calls

/-!
# What governs a trainer

What a training uses, and which calls decide about it.
-/

namespace HingeRank

/-!
## What a training of a trainer uses

A training on samples depends on the optimizer's settings only as the trainer merges
them with its own.
-/

/-- The optimizer's configuration in a training is the one that the merged settings
describe. -/
theorem TrainerSettings.resolve_optimizer (settings : TrainerSettings)
    (overrides : OptimizerSettings) :
    (settings.resolve overrides).optimizer (overrides.resolve settings.tradeoff) =
      (settings.optimizer overrides).resolve settings.tradeoff := rfl

/-- Examine settings of the optimizer, and run it with them on a dataset. -/
def OptimizerSettings.trainOn? (settings : OptimizerSettings) (tradeoff workers : Value)
    (clock : Nat → Float) (readings : Nat) (dataset : Dataset Float) :
    Except Error (TrainingResult Float) := do
  settings.validate
  TrainerSettings.checkWorkers workers
  TrainerSettings.checkTradeoff tradeoff
  let loss ← RankingLoss.ofDataset? dataset RankingLoss.defaultMargin
    (workers.comparand?.toOption.getD (.whole 1))
  let report ← ((settings.resolve tradeoff).optimize loss.oracle (Settings.toFloat tradeoff)
    clock readings 0).result
  return ⟨⟨report.weights⟩, report⟩

/-- Training with a configuration answers what the run of the optimizer on the loss of
the dataset answers. -/
theorem TrainerConfig.result_train {K : Type} [Scalar K] (config : TrainerConfig K)
    (overrides : OptimizerConfig K) (dataset : Dataset K) (clock : Nat → K) (readings : Nat) :
    (config.train overrides dataset clock readings).result = do
      let loss ← RankingLoss.ofDataset? dataset RankingLoss.defaultMargin config.workers
      let report ← ((config.optimizer overrides).optimize loss.oracle config.tradeoff
        clock readings 0).result
      return ⟨⟨report.weights⟩, report⟩ := by
  unfold TrainerConfig.train
  cases RankingLoss.ofDataset? dataset RankingLoss.defaultMargin config.workers with
  | error problem => rfl
  | ok loss =>
      simp only [ok_bind]
      cases ((config.optimizer overrides).optimize loss.oracle config.tradeoff
        clock readings 0).result <;> rfl

/-- Taking note of an event does not read the clock. -/
@[simp] theorem Journal.readings_noteIf (wanted : Bool) (event : Event) (journal : Journal) :
    (journal.noteIf wanted event).readings = journal.readings := by
  cases wanted <;> rfl

namespace Trainer

variable (trainer : Trainer) (clock : Nat → Float) (journal : Journal)

/-- A training on a dataset that asks for some ordering, with a flag that decides whether
it is told about, examines the merged settings and runs the optimizer with them. -/
theorem trainOn_result {dataset : Dataset Float} {verbose : Bool}
    (ranking : dataset.isRankingProblem = true)
    (decided : trainer.settings.verbose.isTrue? = .ok verbose) :
    (trainer.trainOn clock dataset journal).1 =
      trainer.optimizer.trainOn? trainer.settings.tradeoff trainer.settings.workers clock
        journal.readings dataset := by
  have trained := (trainer.settings.resolve trainer.overrides).result_train
    (trainer.overrides.resolve trainer.settings.tradeoff) dataset clock journal.readings
  rw [TrainerSettings.resolve_optimizer] at trained
  simp only [trainOn, decided, ranking, config?, OptimizerSettings.trainOn?]
  cases trainer.optimizer.validate with
  | error problem => rfl
  | ok =>
  cases TrainerSettings.checkWorkers trainer.settings.workers with
  | error problem => rfl
  | ok =>
  cases TrainerSettings.checkTradeoff trainer.settings.tradeoff with
  | error problem => rfl
  | ok =>
  refine Eq.trans ?_ trained
  simp only [ok_bind, pure_eq_ok, Journal.readings_noteIf]
  cases ((trainer.settings.resolve trainer.overrides).train
    (trainer.overrides.resolve trainer.settings.tradeoff) dataset clock
    journal.readings).result <;> rfl

/-- What a training answers: the samples are examined first, then the flag that decides
who is told, then the settings. -/
theorem train_result (samples : Samples Float) :
    (trainer.train clock samples journal).1 = (do
      let dataset ← samples.toRankingProblem? .training
      let _ ← trainer.settings.verbose.isTrue?.mapError .fault
      trainer.optimizer.trainOn? trainer.settings.tradeoff trainer.settings.workers clock
        journal.readings dataset) := by
  unfold train Samples.toRankingProblem?
  cases samples.toDataset? with
  | error problem => rfl
  | ok dataset =>
  simp only [ok_bind]
  cases ranking : dataset.isRankingProblem with
  | false =>
      simp only [trainOn, ranking]
      cases trainer.settings.verbose.isTrue? <;> rfl
  | true =>
  cases decided : trainer.settings.verbose.isTrue? with
  | error fault =>
      simp only [trainOn, ranking, decided]
      rfl
  | ok verbose => exact trainer.trainOn_result clock journal ranking decided

end Trainer

/-!
## The last accepted call decides

After any calls, each of the trainer's settings has the value of the last accepted call
that writes it, and the optimizer's settings are those of the last record that was
accepted.  Callers' later changes of that record, refused calls and trainings are
without effect.
-/

/-! ### The last of several values -/

/-- What the last of several items gives, or else some other value. -/
def lastGiven {α β : Type} (give : α → Option β) (items : List α) (other : β) : β :=
  (items.reverse.findSome? give).getD other

@[simp] theorem lastGiven_nil {α β : Type} (give : α → Option β) (other : β) :
    lastGiven give [] other = other := rfl

namespace TrainerSession

/-- An accepted call, with the session in which it was made. -/
abbrev Accepted := TrainerCall × TrainerSession

/-- The session after calls in their order. -/
def after (session : TrainerSession) (clock : Nat → Float) (calls : List TrainerCall) :
    TrainerSession :=
  calls.foldl (fun session call => ((perform clock call).run session).2) session

/-- Those of the calls that succeed. -/
def accepted (session : TrainerSession) (clock : Nat → Float) :
    List TrainerCall → List Accepted
  | [] => []
  | call :: rest =>
      match (perform clock call).run session with
      | (.ok _, next) => (call, session) :: next.accepted clock rest
      | (.error _, next) => next.accepted clock rest

variable {clock : Nat → Float} {start : TrainerSession}

end TrainerSession

/-! ### The first trainer -/

/-- The trainer that the arguments of a constructor call describe. -/
def Trainer.described (tradeoff : Option Value) (settings : Option TrainerSettings)
    (overrides : Option OptimizerSettings) : Trainer where
  settings :=
    { settings.getD .default with
      tradeoff := tradeoff.getD (settings.getD .default).tradeoff }
  overrides := overrides.getD .default

/-- The optimizer's settings in force: five are the trainer's to decide, whatever the
optimizer's own record says of them. -/
def Trainer.inForce (trainer : Trainer) : OptimizerSettings where
  epsilon := trainer.settings.epsilon
  maxIterations := trainer.settings.maxIterations
  nonnegative := trainer.settings.nonnegativeWeights
  qpEpsilon := trainer.overrides.qpEpsilon
  qpMaxIterations := trainer.overrides.qpMaxIterations
  inactivePlaneThreshold := trainer.overrides.inactivePlaneThreshold
  maxSeconds := trainer.settings.maxSeconds
  verbose := trainer.settings.verbose

namespace TrainerSession

variable {tradeoff : Option Value} {settings : Option TrainerSettings}
  {overrides : Option OptimizerSettings} {start : TrainerSession}

theorem copySettings_apart : (copySettings tradeoff settings).Apart := by
  have copied := Records.ofCopy_apart settings.toList (settings.getD .default)
  cases tradeoff with
  | none => exact copied
  | some tradeoff => exact copied.update _

theorem current_copySettings (overrides : Option OptimizerSettings) :
    (copySettings tradeoff settings).current =
      (Trainer.described tradeoff settings overrides).settings := by
  cases tradeoff <;> simp [copySettings, Trainer.described]

/-- A new trainer is the one described, its own settings are valid, and its records are
nobody else's. -/
theorem of_create? (created : create? tradeoff settings overrides = .ok start) :
    start.Apart ∧ start.trainer = .described tradeoff settings overrides ∧
      start.trainer.settings.validate = .ok () := by
  unfold create? at created
  cases valid : (copySettings tradeoff settings).current.validate with
  | error problem => simp [valid] at created
  | ok =>
      simp only [valid] at created
      cases created
      refine ⟨⟨copySettings_apart, Records.ofCopy_apart _ _⟩, ?_, valid⟩
      simp only [trainer, Records.current_ofCopy]
      rw [current_copySettings overrides]
      rfl

/-! ### What governs a trainer -/

section Example

end Example

end TrainerSession

end HingeRank
