import Mathlib
import HingeRank.Proofs.Settings.Sections
import HingeRank.Proofs.Trainer.Validity

/-!
# Entry points agree on samples

Samples can be asked about, a loss can be built from them, and a trainer can be trained on them.
Each of these reads the samples for itself.  They nevertheless agree on which samples pose a
ranking problem, and refuse all others for the same reasons.  A loss that has been built does not
fail later: it answers at all weights of its dimension, so that a training that has accepted the
samples does not complain about them any more.
-/

namespace HingeRank

/-! ## Settings and workers -/

/-- What complains about the configuration does not complain about samples. -/
theorem Error.ComplaintOr.offSamples {cause : Fault → Prop} {problem : Error}
    (complaint : ComplaintOr cause problem) : problem.OffSamples := by
  rcases complaint with configuration | ⟨kind, rfl, -⟩
  · cases problem <;> first | rfl | cases configuration
  · rfl

/-- Whatever the settings are, a training on a dataset does not complain about samples. -/
theorem OptimizerSettings.trainOn?_offSamples (settings : OptimizerSettings)
    (tradeoff workers : Value) (clock : Nat → Float) (readings : Nat) (dataset : Dataset Float) :
    FailsOnly Error.OffSamples (settings.trainOn? tradeoff workers clock readings dataset) := by
  apply OptimizerSettings.trainOn?_fails
  case suits => exact fun problem offInput => offInput.offSamples
  case settings_fails =>
    exact settings.validate_fails.mono fun problem => Error.ComplaintOr.offSamples
  case tradeoff_fails =>
    have fails := check_fails .positive tradeoff (by decide : "C" ∈ comparedSettings) nofun
    exact fails.mono fun problem => Error.ComplaintOr.offSamples
  case workers_fails =>
    have fails := check_fails (.atLeast 1) workers (by decide : "num_threads" ∈ comparedSettings)
      nofun
    exact fails.mono fun problem => Error.ComplaintOr.offSamples

variable {samples : Samples Float} {workers margin : Value} {count : Int} {amount : Float}

/-- With at least one worker a loss is built from what the samples describe. -/
theorem RankingLoss.ofSamples?_eq (counted : workers.comparand? = .ok (.whole count))
    (positive : 1 ≤ count) (converted : margin.toFloat? = .ok amount) (samples : Samples Float) :
    ofSamples? samples workers margin = (do
      let dataset ← samples.toRankingProblem? .lossEvaluation
      ofDataset? dataset amount (.whole count)) := by
  have enough : (Number.whole count).below 1 = false := decide_eq_false (by omega)
  rw [ofSamples?, counted, converted]
  change (if (Number.whole count).below 1 = true then _ else _) = _
  rw [enough]
  rfl

namespace Samples

/-! ## Refusals -/

/-- What refuses samples in its first step refuses them. -/
theorem IsRefusal.bind {α β : Type} {result : Except Error α}
    (refusal : samples.IsRefusal result) (next : α → Except Error β) :
    samples.IsRefusal (result >>= next) := by
  obtain ⟨problem, rfl, validation, lack⟩ := refusal
  exact ⟨problem, rfl, validation, lack⟩

theorem IsRefusal.not_ok {α : Type} {result : Except Error α} (refusal : samples.IsRefusal result)
    {value : α} : result ≠ .ok value := by
  obtain ⟨problem, rfl, -⟩ := refusal
  nofun

theorem IsRefusal.not_offSamples {α : Type} {result : Except Error α}
    (refusal : samples.IsRefusal result) : ¬ FailsOnly Error.OffSamples result := by
  obtain ⟨problem, rfl, validation, -⟩ := refusal
  intro fails
  have offSamples := fails problem rfl
  cases validation.symm.trans offSamples

/-! ## The loss -/

theorem isRefusal_ofSamples? (legible : samples.AreLegible)
    (counted : workers.comparand? = .ok (.whole count)) (positive : 1 ≤ count)
    (converted : margin.toFloat? = .ok amount) (poseNone : ¬ samples.PoseProblem) :
    samples.IsRefusal (RankingLoss.ofSamples? samples workers margin) := by
  rw [RankingLoss.ofSamples?_eq counted positive converted]
  exact (toRankingProblem?_isRefusal legible poseNone .lossEvaluation).bind _

theorem PoseProblem.exists_loss (poses : samples.PoseProblem)
    (counted : workers.comparand? = .ok (.whole count)) (positive : 1 ≤ count)
    (converted : margin.toFloat? = .ok amount) :
    ∃ loss, RankingLoss.ofSamples? samples workers margin = .ok loss := by
  obtain ⟨dataset, read, -⟩ := poses.toRankingProblem?_eq .lossEvaluation
  rw [RankingLoss.ofSamples?_eq counted positive converted, read]
  exact RankingLoss.ofDataset?_whole dataset amount count

/-- The samples list queries of the loss's dimension, and the loss does not fail later. -/
structure Serves (samples : Samples Float) (loss : RankingLoss Float) : Prop where
  dimension : ∃ queries, samples.Lists queries ∧ HaveDimension queries loss.dimension
  evaluates : loss.Evaluates

theorem serves_of_ofSamples? (legible : samples.AreLegible)
    (counted : workers.comparand? = .ok (.whole count)) (positive : 1 ≤ count)
    (converted : margin.toFloat? = .ok amount) {loss : RankingLoss Float}
    (made : RankingLoss.ofSamples? samples workers margin = .ok loss) : samples.Serves loss := by
  rw [RankingLoss.ofSamples?_eq counted positive converted] at made
  obtain ⟨dataset, accepted, built⟩ := of_bind made
  have aligned := aligned_of_toRankingProblem? legible accepted
  constructor
  · refine ⟨dataset.queries, aligned.1, ?_⟩
    rw [RankingLoss.dimension_of_built built]
    exact dataset.haveDimension
  · exact (RankingLoss.ofDataset?_fits built).evaluates

/-! ## Training -/

theorem isRefusal_train (legible : samples.AreLegible) (poseNone : ¬ samples.PoseProblem)
    (trainer : Trainer) (clock : Nat → Float) (journal : Journal) :
    samples.IsRefusal (trainer.train clock samples journal).1 := by
  rw [Trainer.train_result]
  exact (toRankingProblem?_isRefusal legible poseNone .training).bind _

theorem PoseProblem.train_offSamples (poses : samples.PoseProblem) (trainer : Trainer)
    (clock : Nat → Float) (journal : Journal) :
    FailsOnly Error.OffSamples (trainer.train clock samples journal).1 := by
  obtain ⟨dataset, read, -⟩ := poses.toRankingProblem?_eq .training
  rw [Trainer.train_result]
  refine .bind (.of_eq_ok read) fun _ _ => ?_
  refine .bind (.mapError fun _ _ => rfl) fun _ _ => ?_
  exact trainer.optimizer.trainOn?_offSamples _ _ _ _ _

/-! ## Agreement -/

/-- All entry points agree on whether the samples pose a ranking problem. -/
structure EntryPointsAgree (samples : Samples Float) (workers margin : Value) : Prop where
  asked : ∃ answer, samples.isRankingProblem? = .ok answer ∧
    (answer = true ↔ samples.PoseProblem)
  built : (∃ loss, RankingLoss.ofSamples? samples workers margin = .ok loss) ↔ samples.PoseProblem
  /-- A training complains about the samples unless they pose a problem. -/
  trained : ∀ (trainer : Trainer) clock journal,
    FailsOnly Error.OffSamples (trainer.train clock samples journal).1 ↔ samples.PoseProblem
  refused : ¬ samples.PoseProblem →
    samples.IsRefusal (RankingLoss.ofSamples? samples workers margin) ∧
      ∀ (trainer : Trainer) clock journal, samples.IsRefusal (trainer.train clock samples journal).1
  serves : ∀ loss, RankingLoss.ofSamples? samples workers margin = .ok loss → samples.Serves loss

/-- **Agreement**: with at least one worker, and a margin that is a number, asking, building a
loss and training accept the same samples, and the loss serves them. -/
theorem entryPoints_agree (legible : samples.AreLegible)
    (counted : workers.comparand? = .ok (.whole count)) (positive : 1 ≤ count)
    (converted : margin.toFloat? = .ok amount) : samples.EntryPointsAgree workers margin := by
  have lossRefused := isRefusal_ofSamples? legible counted positive converted
  have trainingRefused := isRefusal_train legible
  constructor
  case asked => exact isRankingProblem?_eq legible
  case built =>
    constructor
    · rintro ⟨loss, made⟩
      by_contra poseNone
      exact (lossRefused poseNone).not_ok made
    · intro poses
      exact poses.exists_loss counted positive converted
  case trained =>
    intro trainer clock journal
    constructor
    · intro fails
      by_contra poseNone
      exact (trainingRefused poseNone trainer clock journal).not_offSamples fails
    · intro poses
      exact poses.train_offSamples trainer clock journal
  case refused => exact fun poseNone => ⟨lossRefused poseNone, trainingRefused poseNone⟩
  case serves => exact fun loss made => serves_of_ofSamples? legible counted positive converted made

/-- A vector of another dimension spoils the samples, even in a query without pairs; a query
without vectors does not. -/
theorem entryPoints_agree_stray_vector :
    let posed : Samples Float :=
      .sequence [.query ⟨[], []⟩, .query ⟨[.dense [1, 0]], [.sparse 2 []]⟩]
    let spoiled : Samples Float :=
      .sequence [.query ⟨[.dense [1, 0]], [.sparse 2 []]⟩, .query ⟨[.dense [1]], []⟩]
    posed.AreLegible ∧ spoiled.AreLegible ∧ (Value.int 3).comparand? = .ok (.whole 3) ∧
      (1 : Int) ≤ 3 ∧ (Value.float 1).toFloat? = .ok 1 ∧
      posed.EntryPointsAgree (.int 3) (.float 1) ∧ posed.isRankingProblem? = .ok true ∧
      spoiled.EntryPointsAgree (.int 3) (.float 1) ∧ spoiled.isRankingProblem? = .ok false := by
  intro posed spoiled
  have positive : (1 : Int) ≤ 3 := by decide
  have agree (samples : Samples Float) (legible : samples.AreLegible) :
      samples.EntryPointsAgree (.int 3) (.float 1) := entryPoints_agree legible rfl positive rfl
  exact ⟨trivial, trivial, rfl, positive, rfl, agree posed trivial, rfl, agree spoiled trivial, rfl⟩

end Samples

end HingeRank
