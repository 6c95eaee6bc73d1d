import Mathlib.Data.List.Basic
import HingeRank.Trainer

/-!
# Calls to a trainer

Records in use and records of callers, and what one call does to them.
-/

namespace HingeRank

/-!
## Records in use and records of callers

The record in use lies apart from all records that callers know: it is a copy from
the start, what replaces it is a copy, and what callers are given is new.  Nothing that
callers do to the records that they hold therefore reaches it.
-/

namespace Records

variable {α : Type} {records : Records α}

/-- Callers know places of records, and none of them is that of the record in use. -/
structure Apart (records : Records α) : Prop where
  ne_own : ∀ place ∈ records.known, place ≠ records.own
  lt_length : ∀ place ∈ records.known, place < records.contents.length

/-! ### Copies -/

theorem ofCopy_apart (given : List α) (record : α) : (ofCopy given record).Apart where
  ne_own := fun place member => by
    have := List.mem_range.mp member
    simp only [ofCopy]
    omega
  lt_length := fun place member => by
    have := List.mem_range.mp member
    simp only [ofCopy, List.length_append, List.length_singleton]
    omega

@[simp] theorem current_ofCopy (given : List α) (record : α) :
    (ofCopy given record).current = record := by
  simp [current, ofCopy]

/-! ### Changes of the record in use -/

theorem Apart.update (apart : records.Apart) (change : α → α) : (records.update change).Apart where
  ne_own := apart.ne_own
  lt_length := fun place member => by simpa [Records.update] using apart.lt_length place member

@[simp] theorem current_update (records : Records α) (change : α → α) :
    (records.update change).current = change records.current := by
  simp [current, Records.update]

theorem Apart.adopt (apart : records.Apart) (record : α) : (records.adopt record).Apart where
  ne_own := fun place member => Nat.ne_of_lt (apart.lt_length place member)
  lt_length := fun place member => by
    have := apart.lt_length place member
    simp only [Records.adopt, List.length_append, List.length_singleton]
    omega

@[simp] theorem current_adopt (records : Records α) (record : α) :
    (records.adopt record).current = record := by
  simp [current, Records.adopt]

/-! ### What callers do -/

theorem Apart.updateHeld (apart : records.Apart) (handle : Nat) (change : α → α) :
    (records.updateHeld handle change).Apart := by
  unfold Records.updateHeld
  split
  · exact apart
  · exact ⟨apart.ne_own, fun place member => by simpa using apart.lt_length place member⟩

theorem Apart.lend (apart : records.Apart) (record : α) : (records.lend record).Apart where
  ne_own := fun place member => by
    rcases List.mem_append.mp member with known | new
    · exact apart.ne_own place known
    · have := records.own_lt
      have := List.mem_singleton.mp new
      simp only [Records.lend]
      omega
  lt_length := fun place member => by
    simp only [Records.lend, List.length_append, List.length_singleton]
    rcases List.mem_append.mp member with known | new
    · have := apart.lt_length place known
      omega
    · have := List.mem_singleton.mp new
      omega

end Records

/-!
## Calls to a trainer

One call either fails and leaves the trainer as it is, or what it supplies is examined
and it does to the trainer's settings what it was made for and nothing else.  Whatever
happens, the records that callers hold stay apart from those of the trainer.
-/

/-- The settings that the trainer decides. -/
inductive TrainerSetting where
  | tradeoff
  | epsilon
  | maxIterations
  | nonnegativeWeights
  | verbose
  | workers
  | maxSeconds
  deriving DecidableEq

namespace TrainerSetting

/-- The value of a setting. -/
def of (settings : TrainerSettings) : TrainerSetting → Value
  | tradeoff => settings.tradeoff
  | epsilon => settings.epsilon
  | maxIterations => settings.maxIterations
  | nonnegativeWeights => settings.nonnegativeWeights
  | verbose => settings.verbose
  | workers => settings.workers
  | maxSeconds => settings.maxSeconds

/-- What is asked of a setting; the two flags may be anything. -/
def check : TrainerSetting → Value → Except Error Unit
  | tradeoff => TrainerSettings.checkTradeoff
  | epsilon => TrainerSettings.checkEpsilon
  | maxIterations => TrainerSettings.checkMaxIterations
  | nonnegativeWeights | verbose => fun _ => .ok ()
  | workers => TrainerSettings.checkWorkers
  | maxSeconds => Settings.checkTimeLimit

/-- Settings that agree one by one are the same. -/
theorem settings_ext {left right : TrainerSettings}
    (agree : ∀ setting : TrainerSetting, setting.of left = setting.of right) : left = right := by
  cases left
  cases right
  simp only [TrainerSettings.mk.injEq]
  exact ⟨agree tradeoff, agree epsilon, agree maxIterations, agree nonnegativeWeights,
    agree verbose, agree workers, agree maxSeconds⟩

end TrainerSetting

namespace TrainerCall

/-- The setting of the trainer that a call supplies, if it does, with its new value. -/
def supplies : TrainerCall → Option (TrainerSetting × Value)
  | setTradeoff given => some (.tradeoff, given)
  | setEpsilon given => some (.epsilon, given)
  | setMaxIterations given => some (.maxIterations, given)
  | setWorkers given => some (.workers, given)
  | setNonnegativeWeights given => some (.nonnegativeWeights, .bool given.isTrue)
  | setVerbose verbose => some (.verbose, .bool verbose)
  | _ => none

/-- The value that a call is to give to a setting of the trainer, if it supplies it. -/
def writes (call : TrainerCall) (setting : TrainerSetting) : Option Value :=
  call.supplies.bind fun (supplied, given) => if supplied = setting then some given else none

/-- The optimizer's settings that a call hands in, as they are when it is made. -/
def handsIn (call : TrainerCall) (session : TrainerSession) : Option OptimizerSettings :=
  match call with
  | setOptimizer handle => session.overrides.held? handle
  | _ => none

/-- Calls that are not made to change the trainer. -/
structure Quiet (call : TrainerCall) : Prop where
  supplies_eq : call.supplies = none
  ne_setOptimizer : ∀ handle, call ≠ setOptimizer handle

theorem Quiet.writes_eq {call : TrainerCall} (quiet : call.Quiet) (setting : TrainerSetting) :
    call.writes setting = none := by
  rw [writes, quiet.supplies_eq, Option.bind_none]

theorem Quiet.handsIn_eq {call : TrainerCall} (quiet : call.Quiet) (session : TrainerSession) :
    call.handsIn session = none := by
  cases call with
  | setOptimizer handle => exact absurd rfl (quiet.ne_setOptimizer handle)
  | _ => rfl

end TrainerCall

namespace TrainerSession

/-- The trainer's records lie apart from those of callers. -/
structure Apart (session : TrainerSession) : Prop where
  settings : session.settings.Apart
  overrides : session.overrides.Apart

/-- The trainer in a session after a call that did its work. -/
structure Written (session next : TrainerSession) (call : TrainerCall) : Prop where
  setting_eq : ∀ setting : TrainerSetting, setting.of next.trainer.settings =
    (call.writes setting).getD (setting.of session.trainer.settings)
  overrides_eq : next.trainer.overrides =
    (call.handsIn session).getD session.trainer.overrides

/-- What a call supplies passes its checks. -/
structure Approved (session : TrainerSession) (call : TrainerCall) : Prop where
  setting : ∀ setting value, call.supplies = some (setting, value) →
    setting.check value = .ok ()
  optimizer : ∀ handle, call = .setOptimizer handle →
    ∃ candidate, session.overrides.held? handle = some candidate ∧ candidate.validate = .ok ()

/-- What a call comes to in a session: it fails and leaves the trainer as it is, or it does
its work with what has been examined. -/
structure Follows (session : TrainerSession) (call : TrainerCall)
    (outcome : Except Error TrainerAnswer × TrainerSession) : Prop where
  apart : outcome.2.Apart
  unchanged : ∀ problem, outcome.1 = .error problem → outcome.2.trainer = session.trainer
  approved : ∀ answer, outcome.1 = .ok answer → Approved session call
  written : ∀ answer, outcome.1 = .ok answer → Written session outcome.2 call

variable {session : TrainerSession} {call : TrainerCall} {answer : TrainerAnswer}

/-- A quiet call leaves the trainer as it is, whether it succeeds or not. -/
theorem Follows.kept {outcome : Except Error TrainerAnswer × TrainerSession}
    (follows : Follows session call outcome) (quiet : call.Quiet) :
    outcome.2.trainer = session.trainer := by
  rcases outcome with ⟨result, next⟩
  cases result with
  | error problem => exact follows.unchanged problem rfl
  | ok answer =>
      have written := follows.written answer rfl
      have settings_eq : next.trainer.settings = session.trainer.settings :=
        TrainerSetting.settings_ext fun setting => by
          rw [written.setting_eq, quiet.writes_eq, Option.getD_none]
      have overrides_eq := written.overrides_eq
      rw [quiet.handsIn_eq, Option.getD_none] at overrides_eq
      exact congrArg₂ Trainer.mk settings_eq overrides_eq

end TrainerSession

end HingeRank
