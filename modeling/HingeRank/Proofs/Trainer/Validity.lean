import HingeRank.Proofs.Optimizer.Failures
import HingeRank.Proofs.Ranking.Fit
import HingeRank.Proofs.Trainer.LastWritten

/-!
# Valid settings and failures

What can go wrong in a training, and which settings have been examined before it.
-/

namespace HingeRank

/-!
## What can go wrong in training

Samples are refused for reasons of their own, none of which is the configuration's.  Once they
have been read as a dataset, its loss is evaluated at weights of its dimension only, and neither
configuration nor samples are to blame for what goes wrong later.
-/

section

open Error

variable {K : Type}

/-! ### Samples -/

namespace Samples

end Samples

/-! ### The loss -/

variable [Scalar K]

namespace RankingLoss

variable {loss : RankingLoss K}

/-- Queries that agree in dimension can be stacked; only the workers may be unable to divide
them. -/
theorem ofDataset?_fails (dataset : Dataset K) (margin : K) (workers : Number) :
    FailsOnly OffInput (ofDataset? dataset margin workers) := by
  obtain ⟨blocks, made, -⟩ := exists_blocks dataset
  refine .bind (.of_eq_ok made) fun _ _ => ?_
  exact .bind (.mapError fun _ _ => ⟨rfl, rfl⟩) fun _ _ => .ok _

theorem Evaluates.oracle_inShape (evaluates : loss.Evaluates) : loss.oracle.InShape := by
  intro weights evaluations weights_eq
  obtain ⟨risk, slope, -, slope_eq, answered⟩ := evaluates.answers weights evaluations weights_eq
  exact ⟨risk, slope, congrArg Prod.fst answered, slope_eq⟩

end RankingLoss

end

/-!
## Valid settings

The trainer's settings are valid after any calls, since each call examines what it
supplies.  The constructor does not examine the optimizer's settings that it is given:
as long as no others have been accepted, those that are the optimizer's own are only
found out by a training, which then fails on every dataset.
-/

namespace TrainerSession

variable {clock : Nat → Float} {start : TrainerSession} {first last : Trainer}
  {made : List Accepted}

end TrainerSession

/-! ### What training makes of them -/

/-- A training on a dataset fails as one of the checks of its settings does, or for reasons that
neither settings nor samples are to blame for. -/
theorem OptimizerSettings.trainOn?_fails {kind : Error → Prop} {settings : OptimizerSettings}
    {tradeoff workers : Value} (suits : ∀ problem : Error, problem.OffInput → kind problem)
    (settings_fails : FailsOnly kind settings.validate)
    (tradeoff_fails : FailsOnly kind (TrainerSettings.checkTradeoff tradeoff))
    (workers_fails : FailsOnly kind (TrainerSettings.checkWorkers workers)) (clock : Nat → Float)
    (readings : Nat) (dataset : Dataset Float) :
    FailsOnly kind (settings.trainOn? tradeoff workers clock readings dataset) := by
  refine .bind settings_fails fun _ _ => ?_
  refine .bind workers_fails fun _ _ => ?_
  refine .bind tradeoff_fails fun _ _ => ?_
  refine .bind ((RankingLoss.ofDataset?_fails _ _ _).mono suits) fun loss built => ?_
  have inShape := (RankingLoss.ofDataset?_fits built).evaluates.oracle_inShape
  exact .bind ((OptimizerConfig.optimize_fails _ inShape _ _ _ _).mono suits) fun report _ => .ok _

namespace TrainerSession

section Unexamined

end Unexamined

end TrainerSession

end HingeRank
