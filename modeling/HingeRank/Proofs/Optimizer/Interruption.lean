import Mathlib
import HingeRank.Proofs.Dual.Climb
import HingeRank.Proofs.Optimizer.Failures

/-!
# Failed steps

Numbers of which one is undefined, and what failed steps leave behind.
-/

namespace HingeRank

/-!
## Rational numbers and a value that is no number

Some results do not exist, such as a quotient by zero.  A value that stands for all of them is
added to the rational numbers: it compares with nothing, itself included, and whatever is computed
from it is that value again.  What becomes of an algorithm that meets such a value can then be
computed exactly.
-/

/-- A rational number, or the value that is no number. -/
inductive PartialRat where
  | number (value : ℚ)
  | undefined
  deriving DecidableEq

namespace PartialRat

/-- The result of an operation on two numbers. -/
def combine (operation : ℚ → ℚ → ℚ) : PartialRat → PartialRat → PartialRat
  | number left, number right => number (operation left right)
  | _, _ => undefined

def divide : PartialRat → PartialRat → PartialRat
  | number left, number right => if right = 0 then undefined else number (left / right)
  | _, _ => undefined

/-- Two numbers compare; what is no number does not. -/
def compares (relation : ℚ → ℚ → Bool) : PartialRat → PartialRat → Bool
  | number left, number right => relation left right
  | _, _ => false

instance : Scalar PartialRat where
  add := combine (· + ·)
  sub := combine (· - ·)
  mul := combine (· * ·)
  div := divide
  neg := combine (· - ·) (number 0)
  zero := number 0
  one := number 1
  natCast count := number count
  lt left right := compares (· < ·) left right = true
  le left right := compares (· ≤ ·) left right = true
  decidableLt _ _ := inferInstanceAs (Decidable (_ = true))
  decidableLe _ _ := inferInstanceAs (Decidable (_ = true))

end PartialRat

/-!
## What failed steps leave behind

A state is a value and outlives every step from it.  Only the planes belong to no single state:
a step extends them before it solves the subproblem.  A step that fails before that leaves the
planes as they were, so that it can be made again.  One that fails in the subproblem leaves its
new plane behind all others, with no multiplier and no record of disuse, and changes nothing else.

Where every number is finite, subproblems do not fail.  A slope that is no number stays among the
planes and spoils all later subproblems, also those of a repeated step.
-/

section

open Linear

variable {K σ : Type} [Scalar K]

/-! ### Subproblems -/

theorem Dual.Simplex.length_advance? {gram : List (List K)} {total tolerance : K}
    {state next : State K} (advanced : advance? gram total tolerance state = some next) :
    next.multipliers.length = state.multipliers.length := by
  simp only [advance?] at advanced
  split at advanced
  next => cases advanced
  next =>
    cases advanced
    exact length_move _ _ _ _

theorem Dual.Nonnegative.length_advance? {problem : Problem K} {total tolerance : K}
    {state next : State K} (advanced : problem.advance? total tolerance state = some next) :
    next.multipliers.length = state.multipliers.length := by
  simp only [Problem.advance?] at advanced
  split at advanced
  next => cases advanced
  next =>
    cases advanced
    exact length_move _ _ _ _

namespace PlaneModel

variable {model : PlaneModel K} {products : List (List K)} {options : ModelOptions K}

/-- The ascent keeps one multiplier for every plane. -/
@[simp] theorem length_climb (model : PlaneModel K) (products : List (List K))
    (options : ModelOptions K) :
    (model.climb products options).multipliers.length = model.offsets.length := by
  have started := Dual.length_feasibleStart model.offsets.length model.tradeoff options.initialDual
  cases space : options.nonnegative with
  | true =>
      have kept (state next : Dual.Nonnegative.State K)
          (length_eq : state.multipliers.length = model.offsets.length)
          (advanced : Dual.Nonnegative.Problem.advance?
            ⟨model.dimension, model.gradients, model.offsets⟩ model.tradeoff options.tolerance
            state = some next) : next.multipliers.length = model.offsets.length :=
        (Dual.Nonnegative.length_advance? advanced).trans length_eq
      simp only [climb, space, if_true, Dual.Nonnegative.Problem.solve]
      exact Dual.climb_invariant kept _ _ _ started
  | false =>
      have kept (state next : Dual.Simplex.State K)
          (length_eq : state.multipliers.length = model.offsets.length)
          (advanced : Dual.Simplex.advance? products model.tradeoff options.tolerance state =
            some next) : next.multipliers.length = model.offsets.length :=
        (Dual.Simplex.length_advance? advanced).trans length_eq
      simp only [climb, space, Bool.false_eq_true, if_false, Dual.Simplex.solve]
      exact Dual.climb_invariant kept _ _ _ started

/-- A model with planes can only fail to have finite weights. -/
theorem solve?_outcome (gradients_ne : model.gradients ≠ []) (offsets_ne : model.offsets ≠ [])
    (products : List (List K)) (options : ModelOptions K) :
    (∃ solution, model.solve? products options = .ok solution ∧
      solution.dual.length = model.offsets.length) ∨
    model.solve? products options = .error .weightsNotFinite := by
  have hasValue (weights : List K) : model.value? weights ≠ none := by
    obtain ⟨gradient, gradients, gradients_eq⟩ := List.exists_cons_of_ne_nil gradients_ne
    obtain ⟨offset, offsets, offsets_eq⟩ := List.exists_cons_of_ne_nil offsets_ne
    simp [value?, planeValues, gradients_eq, offsets_eq, Linear.apply, Linear.add,
      Selection.maximum?, Selection.best?]
  unfold solve?
  rw [if_neg (by simpa using offsets_ne)]
  dsimp only
  split
  next => exact .inr rfl
  split
  next missing => exact absurd missing (hasValue _)
  next => exact .inl ⟨_, rfl, length_climb model products options⟩

end PlaneModel

namespace PlaneArena

variable {arena : PlaneArena K} {weights : List K} {answer : LossAnswer K}

/-- What an arena accepts as the plane of an answer. -/
theorem push_of_support? {extended : PlaneArena K}
    (supported : arena.support? answer weights = .ok extended) :
    answer.subgradient.shape = [arena.dimension] ∧
      extended = arena.push answer.subgradient.entries
        (answer.risk - dot answer.subgradient.entries weights) := by
  obtain ⟨offset, offset_eq, added⟩ := of_bind supported
  have inner_eq := of_mapError offset_eq
  obtain ⟨product, product_eq, rfl⟩ : ∃ product,
      answer.subgradient.inner? (.vector weights) = .ok product ∧
        answer.risk - product = offset := by
    obtain ⟨product, product_eq, offset_eq⟩ := of_bind inner_eq
    exact ⟨product, product_eq, Except.ok.inj offset_eq⟩
  by_cases fits : answer.subgradient.shape = [arena.dimension]
  · simp only [Tensor.inner?, fits, Tensor.vector, List.reverse_singleton] at product_eq
    split at product_eq
    next =>
      cases product_eq
      simp only [add?, fits, if_true] at added
      exact ⟨fits, (Except.ok.inj added).symm⟩
    next => cases product_eq
  · simp only [add?, fits, if_false] at added
    cases added

end PlaneArena

namespace OptimizerConfig

variable (config : OptimizerConfig K)

/-- A subproblem fails where the settings cannot be computed with, or has no finite weights. -/
theorem solveModel?_outcome {arena : PlaneArena K} (roomy : arena.Roomy)
    (nonempty : 0 < arena.size) (tradeoff : K) :
    (∃ solution, config.solveModel? tradeoff arena = .ok solution ∧
      solution.dual.length = arena.size) ∨
    ∃ problem, config.solveModel? tradeoff arena = .error problem ∧
      (problem = .weightsNotFinite ∨
        ∃ fault, config.obstacles.subproblem = some fault ∧ problem = .fault fault) := by
  unfold solveModel?
  split
  next fault obstacle => exact .inr ⟨_, rfl, .inr ⟨fault, obstacle, rfl⟩⟩
  next =>
    have offsets_eq := PlaneArena.length_offsets roomy
    have gradients_ne : arena.gradients ≠ [] := by
      rw [← List.length_pos_iff, PlaneArena.length_gradients roomy]
      exact nonempty
    have offsets_ne : arena.offsets ≠ [] := by
      rw [← List.length_pos_iff, offsets_eq]
      exact nonempty
    rcases (arena.model tradeoff).solve?_outcome gradients_ne offsets_ne arena.gram
      ⟨config.nonnegative, some arena.dual, config.subproblemTolerance tradeoff,
        config.qpMaxIterations⟩ with ⟨solution, solved, dual_eq⟩ | failed
    · exact .inl ⟨solution, solved, dual_eq.trans offsets_eq⟩
    · exact .inr ⟨_, failed, .inl rfl⟩

/-! ### Steps -/

variable {config} {oracle : LossOracle K σ} {tradeoff : K} {state : OptimizerState K}
  {workspace : Workspace K σ} {answer : LossAnswer K} {extended : PlaneArena K} {problem : Error}

namespace PosesSubproblem

/-- Before its subproblem a step has added the plane of the answer to the arena. -/
theorem appends (poses : config.PosesSubproblem oracle tradeoff state workspace answer extended)
    (roomy : workspace.arena.Roomy) (nonempty : 0 < workspace.arena.size) :
    answer.subgradient.shape = [workspace.arena.dimension] ∧
      workspace.arena.Appends answer.subgradient.entries
        (answer.risk - dot answer.subgradient.entries state.weights) extended ∧
      extended.Roomy := by
  obtain ⟨fits, rfl⟩ := PlaneArena.push_of_support? poses.joined
  obtain ⟨appends, extendedRoomy⟩ := PlaneArena.push_appends roomy nonempty
    answer.subgradient.entries (answer.risk - dot answer.subgradient.entries state.weights)
  exact ⟨fits, appends, extendedRoomy⟩

theorem size_pos (poses : config.PosesSubproblem oracle tradeoff state workspace answer extended)
    (roomy : workspace.arena.Roomy) (nonempty : 0 < workspace.arena.size) : 0 < extended.size := by
  rw [(poses.appends roomy nonempty).2.1.size_eq]
  exact Nat.succ_pos _

/-- The subproblem of a step fails where its settings cannot be computed with, or without finite
weights. -/
theorem cause (poses : config.PosesSubproblem oracle tradeoff state workspace answer extended)
    (roomy : workspace.arena.Roomy) (nonempty : 0 < workspace.arena.size)
    (failed : config.solveModel? tradeoff extended = .error problem) :
    problem = .weightsNotFinite ∨
      ∃ fault, config.obstacles.subproblem = some fault ∧ problem = .fault fault := by
  obtain ⟨-, -, extendedRoomy⟩ := poses.appends roomy nonempty
  rcases config.solveModel?_outcome extendedRoomy (poses.size_pos roomy nonempty) tradeoff with
    ⟨solution, solved, -⟩ | ⟨other, otherFailed, cause⟩
  · rw [solved] at failed
    cases failed
  · rw [otherFailed] at failed
    cases failed
    exact cause

/-- A step that poses a subproblem has a slope in the shape of its planes, and fails as the
subproblem does. -/
theorem not_early (poses : config.PosesSubproblem oracle tradeoff state workspace answer extended)
    (roomy : workspace.arena.Roomy) (nonempty : 0 < workspace.arena.size)
    (failed : config.solveModel? tradeoff extended = .error problem) :
    ¬ ((∃ refusal, (oracle.evaluate state.weights workspace.oracleState).1 = .error refusal) ∨
      (∃ answer, (oracle.evaluate state.weights workspace.oracleState).1 = .ok answer ∧
        answer.subgradient.shape ≠ [workspace.arena.dimension]) ∨
      (problem ≠ .weightsNotFinite ∧ config.obstacles.subproblem = none)) := by
  rintro (⟨refusal, refused⟩ | ⟨other, replied, misfits⟩ | ⟨finite, smooth⟩)
  · cases refused.symm.trans poses.replied
  · cases replied.symm.trans poses.replied
    exact misfits (poses.appends roomy nonempty).1
  · rcases poses.cause roomy nonempty failed with infinite | ⟨fault, obstacle, -⟩
    · exact finite infinite
    · cases smooth.symm.trans obstacle

end PosesSubproblem

namespace Ends

variable {outcome : Except Error (OptimizerState K)} {after : Workspace K σ}

/-- Wherever a step ends, the tables of planes stay in shape. -/
theorem roomy (ends : config.Ends oracle tradeoff state workspace outcome after)
    (roomy : workspace.arena.Roomy) (nonempty : 0 < workspace.arena.size) :
    after.arena.Roomy ∧ 0 < after.arena.size := by
  cases ends with
  | refused | hindered | accepted | unsupported => exact ⟨roomy, nonempty⟩
  | unsolved problem answer extended poses failed =>
      obtain ⟨-, -, extendedRoomy⟩ := poses.appends roomy nonempty
      exact ⟨extendedRoomy, poses.size_pos roomy nonempty⟩
  | solved answer extended solution poses found =>
      obtain ⟨-, -, extendedRoomy⟩ := poses.appends roomy nonempty
      have extended_pos := poses.size_pos roomy nonempty
      rcases config.solveModel?_outcome extendedRoomy extended_pos tradeoff with
        ⟨other, otherFound, dual_eq⟩ | ⟨problem, failed, -⟩
      · cases otherFound.symm.trans found
        have recorded := PlaneArena.recordDual_roomy extendedRoomy dual_eq
        exact ⟨PlaneArena.trim_roomy recorded _, PlaneArena.size_trim_pos (by exact extended_pos) _⟩
      · cases failed.symm.trans found

/-- A step that fails before its subproblem has not touched the planes. -/
theorem untouched (ends : config.Ends oracle tradeoff state workspace (.error problem) after)
    (early : ¬ ∃ answer extended,
      config.PosesSubproblem oracle tradeoff state workspace answer extended) :
    after = { workspace with
      oracleState := (oracle.evaluate state.weights workspace.oracleState).2 } := by
  cases ends with
  | refused | hindered | unsupported => rfl
  | unsolved problem answer extended poses failed => exact absurd ⟨answer, extended, poses⟩ early

/-- A step that fails after it has posed a subproblem fails there, and keeps the arena that it has
extended. -/
theorem unsolved_of_poses
    (ends : config.Ends oracle tradeoff state workspace (.error problem) after)
    (poses : config.PosesSubproblem oracle tradeoff state workspace answer extended) :
    config.solveModel? tradeoff extended = .error problem ∧
      after = ⟨extended, (oracle.evaluate state.weights workspace.oracleState).2⟩ := by
  cases ends with
  | refused problem reply => cases reply.symm.trans poses.replied
  | hindered fault other replied found => cases found.symm.trans poses.unhindered
  | unsupported problem other replied refusal =>
      cases replied.symm.trans poses.replied
      cases refusal.symm.trans poses.joined
  | unsolved problem other otherExtended otherPoses failed =>
      cases otherPoses.replied.symm.trans poses.replied
      cases otherPoses.joined.symm.trans poses.joined
      exact ⟨failed, rfl⟩

end Ends

/-- The workspaces that steps lead to from a new arena, whichever states they start from and whether
or not they fail. -/
inductive Reached (config : OptimizerConfig K) (oracle : LossOracle K σ) : Workspace K σ → Prop
  | start (dimension capacity : Nat) (oracleState : σ) :
      Reached config oracle ⟨.initial dimension capacity, oracleState⟩
  | step (tradeoff : K) (state : OptimizerState K) {workspace : Workspace K σ}
      (reached : Reached config oracle workspace) :
      Reached config oracle (config.step oracle tradeoff state workspace).workspace

/-- However many steps have failed, the tables of planes are in shape. -/
theorem Reached.roomy (reached : config.Reached oracle workspace) :
    workspace.arena.Roomy ∧ 0 < workspace.arena.size := by
  induction reached with
  | start dimension capacity oracleState =>
      exact ⟨PlaneArena.initial_roomy dimension capacity, Nat.one_pos⟩
  | step tradeoff state reached ih =>
      exact (config.step_ends oracle tradeoff state _).roomy ih.1 ih.2

/-- A step that fails before its subproblem leaves the workspace as it was, but for the oracle's own
state: because the oracle refuses, because the slope has another shape than the planes, or for any
other reason than its subproblem.  A step whose subproblem fails has extended the arena: the plane
of the answer stands behind all others, which have not changed, and nothing takes it away again.
In either case steps can go on. -/
theorem step_interrupted (config : OptimizerConfig K) (oracle : LossOracle K σ) (tradeoff : K)
    (state : OptimizerState K) {workspace : Workspace K σ} (roomy : workspace.arena.Roomy)
    (nonempty : 0 < workspace.arena.size) {problem : Error}
    (failed : (config.step oracle tradeoff state workspace).outcome = .error problem) :
    let reply := oracle.evaluate state.weights workspace.oracleState
    let after := (config.step oracle tradeoff state workspace).workspace
    ((¬ ∃ answer extended,
        config.PosesSubproblem oracle tradeoff state workspace answer extended) →
      after = { workspace with oracleState := reply.2 }) ∧
    ((∃ refusal, reply.1 = .error refusal) ∨
        (∃ answer, reply.1 = .ok answer ∧
          answer.subgradient.shape ≠ [workspace.arena.dimension]) ∨
        (problem ≠ .weightsNotFinite ∧ config.obstacles.subproblem = none) →
      after = { workspace with oracleState := reply.2 }) ∧
    (∀ answer extended, config.PosesSubproblem oracle tradeoff state workspace answer extended →
      config.solveModel? tradeoff extended = .error problem ∧
      (problem = .weightsNotFinite ∨
        ∃ fault, config.obstacles.subproblem = some fault ∧ problem = .fault fault) ∧
      answer.subgradient.shape = [workspace.arena.dimension] ∧
      workspace.arena.Appends answer.subgradient.entries
        (answer.risk - dot answer.subgradient.entries state.weights) after.arena ∧
      after.oracleState = reply.2) ∧
    after.arena.Roomy ∧ 0 < after.arena.size := by
  intro reply after
  have ends := config.step_ends oracle tradeoff state workspace
  have leaves := ends.roomy roomy nonempty
  rw [failed] at ends
  refine ⟨ends.untouched, fun early => ends.untouched ?_, fun answer extended poses => ?_, leaves⟩
  · rintro ⟨answer, extended, poses⟩
    obtain ⟨unsolved, -⟩ := ends.unsolved_of_poses poses
    exact poses.not_early roomy nonempty unsolved early
  · obtain ⟨unsolved, after_eq⟩ := ends.unsolved_of_poses poses
    obtain ⟨fits, appends, -⟩ := poses.appends roomy nonempty
    have cause := poses.cause roomy nonempty unsolved
    rw [show after = _ from after_eq]
    exact ⟨unsolved, cause, fits, appends, rfl⟩

end OptimizerConfig

/-! ### A slope that is no number -/

/-- Settings with few moves in a subproblem. -/
def OptimizerConfig.brief : OptimizerConfig PartialRat where
  epsilon := .number (1 / 1000)
  maxIterations := 10
  nonnegative := false
  qpEpsilon := .number (1 / 10)
  qpMaxIterations := 20
  inactivePlaneThreshold := 20
  maxSeconds := none
  verbose := false

/-- A risk of one whose slope is no number. -/
def LossOracle.undefinedSlope : LossOracle PartialRat Unit :=
  .constant 1 (.ok ⟨1, .vector [.undefined]⟩)

/-- What a run over single weights begins with. -/
def Workspace.fresh : Workspace PartialRat Unit := ⟨.initial 1 PlaneArena.defaultCapacity, ()⟩

namespace OptimizerConfig

theorem brief_undefinedSlope :
    (brief.step .undefinedSlope 1 (.initial 1) .fresh).outcome = .error .weightsNotFinite :=
  eq_weightsNotFinite (by decide +kernel)

theorem brief_undefinedSlope_size :
    (brief.step .undefinedSlope 1 (.initial 1) .fresh).workspace.arena.size = 2 := by
  decide +kernel

/-- The step poses a subproblem and fails there: the slope that is no number has joined the planes,
with an offset that is none either. -/
theorem step_interrupted_undefined :
    Workspace.fresh.arena.Roomy ∧ 0 < Workspace.fresh.arena.size ∧
      let result := brief.step .undefinedSlope 1 (.initial 1) .fresh
      result.outcome = .error .weightsNotFinite ∧
        (∃ extended, brief.PosesSubproblem .undefinedSlope 1 (.initial 1) .fresh
            ⟨1, .vector [.undefined]⟩ extended ∧
          brief.solveModel? 1 extended = .error .weightsNotFinite) ∧
        Workspace.fresh.arena.Appends [.undefined] .undefined result.workspace.arena := by
  have roomy : Workspace.fresh.arena.Roomy := PlaneArena.initial_roomy _ _
  have nonempty : 0 < Workspace.fresh.arena.size := Nat.one_pos
  refine ⟨roomy, nonempty, brief_undefinedSlope, ?_⟩
  obtain ⟨untouched, -, unsolved, -⟩ :=
    step_interrupted brief .undefinedSlope 1 (.initial 1) roomy nonempty brief_undefinedSlope
  by_cases posed : ∃ answer extended,
      brief.PosesSubproblem .undefinedSlope 1 (.initial 1) .fresh answer extended
  · obtain ⟨answer, extended, poses⟩ := posed
    cases poses.replied
    obtain ⟨failed, -, -, appends, -⟩ := unsolved _ extended poses
    exact ⟨⟨extended, poses, failed⟩, appends⟩
  · have grown := brief_undefinedSlope_size
    rw [untouched posed] at grown
    cases grown

/-- A step that fails in its subproblem has changed the planes, and cannot be made again: with an
oracle that answers properly it succeeds from the planes as they were, and fails from those that
are left. -/
theorem step_not_repeatable :
    let spoilt := brief.step .undefinedSlope 1 (.initial 1) .fresh
    let proper : LossOracle PartialRat Unit := .constant 1 (.ok ⟨1, .vector [-1]⟩)
    spoilt.outcome = .error .weightsNotFinite ∧
      spoilt.workspace.arena ≠ Workspace.fresh.arena ∧
      (∃ next, (brief.step proper 1 (.initial 1) .fresh).outcome = .ok next) ∧
      (brief.step proper 1 (.initial 1) spoilt.workspace).outcome = .error .weightsNotFinite := by
  intro spoilt proper
  refine ⟨brief_undefinedSlope, ?_, ?_, eq_weightsNotFinite (by decide +kernel)⟩
  · intro unchanged
    have grown : spoilt.workspace.arena.size = 2 := brief_undefinedSlope_size
    rw [unchanged] at grown
    cases grown
  · exact ⟨_, outcome_eq_ok (.initial 1) (by decide +kernel)⟩

end OptimizerConfig

end

end HingeRank
