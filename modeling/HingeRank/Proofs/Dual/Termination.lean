import Mathlib
import HingeRank.Dual.Arrays
import HingeRank.Proofs.Dual.Nonnegative
import HingeRank.Proofs.Dual.Simplex
import HingeRank.Proofs.Exact.Sequence

/-!
# Whole ascents

Both ascents rise with every move, can be taken up again, and end.
-/

namespace HingeRank.Dual

/-!
## Both ascents rise

A solution is what a climb leads to.  On the way there are feasible multipliers only, and
every move raises their worth, so that the solution is worth no less than the start.
-/

section

open Linear

variable {total tolerance : ℚ}

theorem Simplex.solve_rises {gram : List (List ℚ)} {linear : List ℚ}
    (symmetric : Symmetric gram linear.length) (nonempty : linear ≠ []) (positive : 0 < total)
    (nonneg : 0 ≤ tolerance) (initial : Option (List ℚ)) (cap : Nat) :
    let start := feasibleStart linear.length total initial
    Rises linear.length total (worth gram linear) start
      ((passed (advance? gram total tolerance) cap (.at gram linear start)).map (·.multipliers))
      (solve gram linear total initial tolerance cap) := by
  obtain ⟨least, -, ascends⟩ := ascends symmetric positive nonneg
  exact ascends.rises cap (consistent_start nonempty positive.le initial)

theorem Nonnegative.Problem.solve_rises {problem : Problem ℚ} (wellFormed : problem.WellFormed)
    (nonempty : problem.offsets ≠ []) (positive : 0 < total) (nonneg : 0 ≤ tolerance)
    (initial : Option (List ℚ)) (cap : Nat) :
    let start := feasibleStart problem.offsets.length total initial
    Rises problem.offsets.length total problem.worth start
      ((passed (problem.advance? total tolerance) cap (problem.stateAt start)).map (·.multipliers))
      (problem.solve total initial tolerance cap) := by
  obtain ⟨least, -, ascends⟩ := ascends wellFormed positive nonneg
  exact ascends.rises cap (consistent_start nonempty positive.le initial)

/-- Without coordinates there is no start. -/
theorem feasibleStartArray?_zero (total : ℚ) (initial : Option (List ℚ)) :
    feasibleStartArray? 0 total (initial.map .vector) = .error .divisionByZero := by
  cases initial with
  | none => rfl
  | some values =>
      cases values with
      | nil => rfl
      | cons value values =>
          have mismatch : (0 : Int) ≠ values.length + 1 := by omega
          simp [feasibleStartArray?, scaledStart?, evenStart?, extent?, Tensor.vector, mismatch]

/-- **Both ascents keep their multipliers feasible and improve them with every move**, for every
symmetric matrix and for all planes.  The solution is feasible, and worth no less than the
start.  Where there are no coordinates, there is no start either. -/
theorem ascents_rise (positive : 0 < total) (nonneg : 0 ≤ tolerance) (initial : Option (List ℚ))
    (cap : Nat) :
    (∀ gram linear, Simplex.Symmetric gram linear.length → linear ≠ [] →
      let start := feasibleStart linear.length total initial
      let solution := Simplex.solve gram linear total initial tolerance cap
      Rises linear.length total (Simplex.worth gram linear) start
          ((passed (Simplex.advance? gram total tolerance) cap (.at gram linear start)).map
            (·.multipliers)) solution ∧
        Feasible linear.length total solution.multipliers ∧
        Simplex.worth gram linear start ≤ Simplex.worth gram linear solution.multipliers) ∧
    (∀ problem : Nonnegative.Problem ℚ, problem.WellFormed → problem.offsets ≠ [] →
      let start := feasibleStart problem.offsets.length total initial
      let solution := problem.solve total initial tolerance cap
      Rises problem.offsets.length total problem.worth start
          ((passed (problem.advance? total tolerance) cap (problem.stateAt start)).map
            (·.multipliers)) solution ∧
        Feasible problem.offsets.length total solution.multipliers ∧
        problem.worth start ≤ problem.worth solution.multipliers) ∧
    feasibleStartArray? 0 total (initial.map .vector) = .error .divisionByZero := by
  refine ⟨?_, ?_, feasibleStartArray?_zero total initial⟩
  · intro gram linear symmetric nonempty
    have rises := Simplex.solve_rises symmetric nonempty positive nonneg initial cap
    exact ⟨rises, rises.feasible_solution, rises.worth_le⟩
  · intro problem wellFormed nonempty
    have rises := Nonnegative.Problem.solve_rises wellFormed nonempty positive nonneg initial cap
    exact ⟨rises, rises.feasible_solution, rises.worth_le⟩

/-- A move along which the worth bends upwards, and planes in two dimensions. -/
theorem ascents_rise_indefinite :
    let gram : List (List ℚ) := [[1, 2], [2, 1]]
    let linear : List ℚ := [4, 1]
    let problem : Nonnegative.Problem ℚ := ⟨2, [[1, -1], [-2, 0]], [0, 1]⟩
    let start : List ℚ := feasibleStart 2 2 (some [-1, 5])
    let solution := Simplex.solve gram linear 2 (some [-1, 5]) 0 3
    let nonnegative := problem.solve 2 (some [-1, 5]) 0 3
    ((0 : ℚ) < 2 ∧ Simplex.Symmetric gram linear.length ∧ linear ≠ [] ∧ problem.WellFormed ∧
        problem.offsets ≠ []) ∧
      start = [0, 2] ∧ solution.iterations = 1 ∧ 0 < nonnegative.iterations ∧
      Simplex.worth gram linear start < Simplex.worth gram linear solution.multipliers ∧
      Rises 2 2 (Simplex.worth gram linear) start
        ((passed (Simplex.advance? gram 2 0) 3 (.at gram linear start)).map (·.multipliers))
        solution ∧
      Rises 2 2 problem.worth start
        ((passed (problem.advance? 2 0) 3 (problem.stateAt start)).map (·.multipliers))
        nonnegative := by
  intro gram linear problem start solution nonnegative
  have positive : (0 : ℚ) < 2 := by decide
  have symmetric : Simplex.Symmetric gram linear.length := by decide
  have someLinear : linear ≠ [] := by decide
  have wellFormed : problem.WellFormed := ⟨rfl, by decide⟩
  have someOffset : problem.offsets ≠ [] := by decide
  obtain ⟨quadratic, piecewise, -⟩ := ascents_rise positive le_rfl (some [-1, 5]) 3
  refine ⟨⟨positive, symmetric, someLinear, wellFormed, someOffset⟩, ?_, ?_, ?_, ?_, ?_, ?_⟩
  · decide +kernel
  · decide +kernel
  · decide +kernel
  · decide +kernel
  · exact (quadratic gram linear symmetric someLinear).1
  · exact (piecewise problem wellFormed someOffset).1

end

/-!
## Climbs that are taken up again

An ascent that was stopped can be taken up again from the multipliers that it has arrived at.
Nothing else is left of it: the gradient or the position that it had kept up to date is computed
anew, and feasible multipliers are a start that is taken as it is.  As both are what they would be
after the moves already made, the ascent goes on as if it had never been stopped.
-/

section

open Linear

variable {σ : Type} {advance? : σ → Option σ}

/-! ### Climbs in two parts -/

theorem climb_of_none {state : σ} (stopped : advance? state = none) (cap taken : Nat) :
    climb advance? cap taken state = (state, taken) := by
  cases cap with
  | zero => rfl
  | succ cap => simp only [climb, stopped]

/-- A climb does not depend on how many advances were made before. -/
theorem climb_taken (cap taken : Nat) (state : σ) :
    climb advance? cap taken state =
      ((climb advance? cap 0 state).1, taken + (climb advance? cap 0 state).2) := by
  induction cap generalizing taken state with
  | zero => rfl
  | succ cap ih =>
      unfold climb
      cases advance? state with
      | none => rfl
      | some next =>
          dsimp only
          rw [ih (taken + 1), ih (0 + 1)]
          simp only [Nat.zero_add, Nat.add_assoc]

/-- A long climb is a first one and a second one from where the first one has ended. -/
theorem climb_add (first second taken : Nat) (state : σ) :
    climb advance? (first + second) taken state =
      climb advance? second (climb advance? first taken state).2
        (climb advance? first taken state).1 := by
  induction first generalizing taken state with
  | zero => rw [Nat.zero_add, climb]
  | succ first ih =>
      rw [Nat.succ_add, climb, climb]
      cases advanced : advance? state with
      | none => exact (climb_of_none advanced second taken).symm
      | some next => exact ih (taken + 1) next

/-! ### Solvers -/

/-- A solver that can be stopped at any move.  Started again from where it was stopped, it ends
where it would have ended without the stop, and the moves of both parts are all moves.  After an
early end it makes no move any more. -/
structure Resumes (solve : Option (List ℚ) → Nat → Solution ℚ) : Prop where
  add : ∀ initial first second,
    let begun := solve initial first
    let resumed := solve (some begun.multipliers) second
    solve initial (first + second) = ⟨resumed.multipliers, begun.iterations + resumed.iterations⟩
  settled : ∀ initial first second,
    let begun := solve initial first
    begun.iterations < first → solve (some begun.multipliers) second = ⟨begun.multipliers, 0⟩

/-- A solver that ends before its cap answers the same under every higher cap, and so what it
answers under all caps from some bound on. -/
theorem Resumes.eq_of_early {solve : Option (List ℚ) → Nat → Solution ℚ} (resumes : Resumes solve)
    {initial : Option (List ℚ)} {first bound : Nat} {answer : Solution ℚ}
    (early : (solve initial first).iterations < first)
    (same : ∀ cap, bound ≤ cap → solve initial cap = answer) : answer = solve initial first := by
  have continued : solve initial (first + bound) = solve initial first := by
    rw [resumes.add, resumes.settled initial first bound early]
    rfl
  rw [← same (first + bound) (Nat.le_add_left _ _), continued]

/-- A climb among consistent states is resumed from the multipliers alone. -/
theorem Restartable.resumes {stateAt : List ℚ → σ} {multipliersOf : σ → List ℚ}
    {Consistent : σ → Prop} {count : Nat} {total : ℚ}
    (restartable : Restartable advance? stateAt multipliersOf Consistent count total)
    (nonempty : 0 < count) (positive : 0 < total) :
    Resumes fun initial cap =>
      climbFrom advance? stateAt multipliersOf (feasibleStart count total initial) cap := by
  -- The state in which the first part ends is also the one from which the second part starts.
  have restarted (initial : Option (List ℚ)) (cap : Nat) :
      stateAt (feasibleStart count total (some (climbFrom advance? stateAt multipliersOf
        (feasibleStart count total initial) cap).multipliers)) =
        (climb advance? cap 0 (stateAt (feasibleStart count total initial))).1 := by
    have reached := restartable.consistent nonempty positive initial cap
    exact ((restartable.feasible _ reached).feasibleStart_eq positive).symm ▸
      restartable.fresh _ reached
  constructor
  case add =>
    intro initial first second
    dsimp only
    rw [climbFrom, climb_add, climb_taken, climbFrom, restarted]
    rfl
  case settled =>
    intro initial first second
    dsimp only
    intro early
    have stopped := climb_settled first 0 _ (early.trans_eq (Nat.zero_add first).symm)
    rw [climbFrom, restarted, climb_of_none stopped]
    rfl

/-! ### Both solvers -/

section Solvers

variable {total tolerance : ℚ} (positive : 0 < total) (nonneg : 0 ≤ tolerance)

include positive nonneg

/-- The ascent over inner products need not even know that these are inner products. -/
theorem Simplex.solve_resumes {gram : List (List ℚ)} {linear : List ℚ}
    (square : gram.length = linear.length) (nonempty : 0 < linear.length) :
    Resumes fun initial cap => solve gram linear total initial tolerance cap :=
  (restartable square positive nonneg).resumes nonempty positive

theorem Nonnegative.Problem.solve_resumes {problem : Problem ℚ} (wellFormed : problem.WellFormed)
    (nonempty : 0 < problem.offsets.length) :
    Resumes fun initial cap => problem.solve total initial tolerance cap :=
  (restartable wellFormed positive nonneg).resumes nonempty positive

end Solvers

end

/-!
## Climbs end

Nothing bounds the gain of a move that takes all there is from below, so the worth alone does
not show that a climb ends.  Three numbers together do, in this order:

* the least gains that still fit below the ceiling, which fall with every move that leaves
  something behind,
* the positive multipliers, which are not more after any move that takes all there is, and
  are one less if the raised multiplier was positive as well,
* the arrangements of the multipliers that are worth more, which are fewer after a move that
  carries all there is to a multiplier that was zero, since this is but a rearrangement.
-/

section

open Linear

variable {worth : List ℚ → ℚ} {least ceiling : ℚ} {before after : List ℚ} {raised lowered : Nat}

/-! ### What a move lowers -/

/-- The number of least gains that fit below the ceiling. -/
def room (worth : List ℚ → ℚ) (ceiling least : ℚ) (multipliers : List ℚ) : ℕ :=
  ⌊(ceiling - worth multipliers) / least⌋₊

/-- The number of positive multipliers. -/
def support (multipliers : List ℚ) : ℕ := multipliers.countP (0 < ·)

/-- The arrangements of the multipliers that are worth more. -/
def betterArrangements (worth : List ℚ → ℚ) (multipliers : List ℚ) : Finset (List ℚ) :=
  {arranged ∈ multipliers.permutations.toFinset | worth multipliers < worth arranged}

theorem mem_betterArrangements {multipliers arranged : List ℚ} :
    arranged ∈ betterArrangements worth multipliers ↔
      arranged.Perm multipliers ∧ worth multipliers < worth arranged := by
  simp [betterArrangements]

theorem room_le (positive : 0 < least) (rises : worth before ≤ worth after) :
    room worth ceiling least after ≤ room worth ceiling least before := by
  unfold room
  gcongr

theorem room_lt (positive : 0 < least) (gains : worth before + least ≤ worth after)
    (below : worth after ≤ ceiling) :
    room worth ceiling least after < room worth ceiling least before := by
  apply Nat.lt_of_succ_le
  apply Nat.le_floor
  have fits := Nat.floor_le (div_nonneg (sub_nonneg.mpr below) positive.le)
  calc
    ((room worth ceiling least after + 1 : ℕ) : ℚ) ≤ (ceiling - worth after) / least + 1 := by
      push_cast
      exact add_le_add_left fits 1
    _ = (ceiling - worth after + least) / least := by
      field_simp
    _ ≤ (ceiling - worth before) / least := by
      gcongr
      linarith

/-- A better arrangement leaves fewer that are better still. -/
theorem betterArrangements_ssubset (arranged : after.Perm before)
    (rises : worth before < worth after) :
    betterArrangements worth after ⊂ betterArrangements worth before := by
  rw [Finset.ssubset_iff_of_subset]
  · refine ⟨after, mem_betterArrangements.mpr ⟨arranged, rises⟩, ?_⟩
    rw [mem_betterArrangements]
    exact fun better => lt_irrefl _ better.2
  · intro other
    rw [mem_betterArrangements, mem_betterArrangements]
    exact fun better => ⟨better.1.trans arranged, rises.trans better.2⟩

/-! ### Moves that take all there is -/

section All

variable (raised_lt : raised < before.length) (lowered_lt : lowered < before.length)
  (distinct : raised ≠ lowered)

include raised_lt lowered_lt distinct

/-- A move that takes all there is puts it on top of what the raised coordinate has. -/
theorem move_all :
    move before raised lowered (entry before lowered) =
      (before.set raised (before[raised] + before[lowered])).set lowered 0 := by
  rw [move_eq, entry_eq_getElem lowered_lt, List.modify_eq_set_get _ raised_lt,
    List.modify_eq_set_get _ (by simpa using lowered_lt)]
  simp [distinct]

/-- To a positive multiplier: one positive multiplier fewer. -/
theorem support_move_all_lt (raised_pos : 0 < before[raised]) (lowered_pos : 0 < before[lowered]) :
    support (move before raised lowered (entry before lowered)) < support before := by
  have both : 0 < before[raised] + before[lowered] := add_pos raised_pos lowered_pos
  have member : 0 < support before :=
    List.countP_pos_iff.mpr ⟨_, List.getElem_mem lowered_lt, decide_eq_true lowered_pos⟩
  rw [move_all raised_lt lowered_lt distinct, support, List.countP_set (by simpa using lowered_lt),
    List.getElem_set_ne distinct, List.countP_set raised_lt]
  unfold support at member ⊢
  simp only [decide_eq_true raised_pos, decide_eq_true lowered_pos, decide_eq_true both,
    lt_irrefl, decide_false, if_true, Bool.false_eq_true, if_false]
  omega

/-- To a multiplier that was zero: a rearrangement. -/
theorem move_all_perm (raised_zero : before[raised] = 0) :
    (move before raised lowered (entry before lowered)).Perm before := by
  rw [move_all raised_lt lowered_lt distinct, raised_zero, zero_add]
  have swapped := List.set_set_perm raised_lt lowered_lt
  rwa [raised_zero] at swapped

end All

/-! ### The rank of multipliers -/

/-- The three numbers, the first of them weighing most. -/
def rank (worth : List ℚ → ℚ) (ceiling least : ℚ) (multipliers : List ℚ) : ℕ ×ₗ ℕ ×ₗ ℕ :=
  toLex (room worth ceiling least multipliers,
    toLex (support multipliers, (betterArrangements worth multipliers).card))

/-- Every gain lowers the rank. -/
theorem Gains.rank_lt {count : Nat} {total : ℚ} (gains : Gains worth least before after)
    (feasible : Feasible count total before) (positive : 0 < least)
    (below : worth after ≤ ceiling) :
    rank worth ceiling least after < rank worth ceiling least before := by
  cases gains with
  | move raised lowered step raised_lt lowered_lt distinct lowered_pos rises gains =>
      unfold rank
      rw [Prod.Lex.toLex_lt_toLex]
      -- Only a move that takes all there is may leave the first number as it was.
      by_cases all : step = entry before lowered
      · subst all
        rw [entry_eq_getElem lowered_lt] at lowered_pos
        have fits : room worth ceiling least _ ≤ room worth ceiling least before :=
          room_le positive rises.le
        rcases fits.lt_or_eq with fewer | same
        · exact .inl fewer
        · refine .inr ⟨same, Prod.Lex.toLex_lt_toLex.mpr ?_⟩
          rcases (feasible.nonneg _ (List.getElem_mem raised_lt)).lt_or_eq with held | empty
          · exact .inl (support_move_all_lt raised_lt lowered_lt distinct held lowered_pos)
          · have arranged := move_all_perm raised_lt lowered_lt distinct empty.symm
            refine .inr ⟨arranged.countP_eq _, ?_⟩
            exact Finset.card_lt_card (betterArrangements_ssubset arranged rises)
      · exact .inl (room_lt positive (gains all) below)

/-! ### Climbs -/

/-- A climb along which a rank falls ends, with one and the same result for every cap that is
not too small.  The induction is on the rank. -/
theorem climb_ends {σ ρ : Type} [Preorder ρ] [WellFoundedLT ρ] {advance? : σ → Option σ}
    (rankOf : σ → ρ) {Invariant : σ → Prop}
    (kept : ∀ state next, Invariant state → advance? state = some next → Invariant next)
    (falls : ∀ state next, Invariant state → advance? state = some next →
      rankOf next < rankOf state)
    (state : σ) (holds : Invariant state) :
    ∃ count final, Invariant final ∧ advance? final = none ∧
      ∀ cap taken, count ≤ cap → climb advance? cap taken state = (final, taken + count) := by
  induction state using (InvImage.wf rankOf wellFounded_lt).induction with
  | _ state ih =>
      cases advanced : advance? state with
      | none =>
          refine ⟨0, state, holds, advanced, ?_⟩
          intro cap taken _
          cases cap with
          | zero => rfl
          | succ cap => simp [climb, advanced]
      | some next =>
          obtain ⟨count, final, finalHolds, stopped, same⟩ :=
            ih next (falls state next holds advanced) (kept state next holds advanced)
          refine ⟨count + 1, final, finalHolds, stopped, ?_⟩
          intro cap taken enough
          cases cap with
          | zero => exact absurd enough (Nat.not_succ_le_zero _)
          | succ cap =>
              simp only [climb, advanced]
              rw [same cap (taken + 1) (Nat.le_of_succ_le_succ enough)]
              ring_nf

/-- A climb that gains a positive least amount below some ceiling ends. -/
theorem Ascends.ends {σ : Type} {advance? : σ → Option σ} {multipliersOf : σ → List ℚ}
    {Consistent : σ → Prop} {count : Nat} {total : ℚ}
    (ascends : Ascends advance? multipliersOf Consistent count total worth least)
    (positive : 0 < least)
    (below : ∀ multipliers, Feasible count total multipliers → worth multipliers ≤ ceiling)
    (state : σ) (consistent : Consistent state) :
    ∃ moves final, Consistent final ∧ advance? final = none ∧
      ∀ cap taken, moves ≤ cap → climb advance? cap taken state = (final, taken + moves) := by
  apply climb_ends (fun state => rank worth ceiling least (multipliersOf state)) ascends.kept
  · intro state next consistent advanced
    have reached := ascends.kept state next consistent advanced
    exact (ascends.gains state next consistent advanced).rank_lt (ascends.feasible state consistent)
      positive (below _ (ascends.feasible next reached))
  · exact consistent

variable {total tolerance : ℚ}

/-- **Quadratic ascent ends by itself.**  With a positive tolerance there is a bound from which
on the cap no longer matters: the moves stay below the bound, every solution is the same, and
no move between its multipliers is worth making.  Moving the total mass from a positive
coordinate to any other would gain at most the tolerance. -/
theorem Simplex.solve_ends {gram : List (List ℚ)} {linear : List ℚ}
    (symmetric : Symmetric gram linear.length) (nonempty : linear ≠ []) (positive : 0 < total)
    (tolerance_pos : 0 < tolerance) (initial : Option (List ℚ)) :
    ∃ bound multipliers count,
      let gradient := sub linear (apply gram multipliers)
      count < bound ∧ Feasible linear.length total multipliers ∧
        Settled total tolerance multipliers gradient ∧
        (∀ slope ∈ gradient, ∀ position, 0 < entry multipliers position →
          total * (slope - entry gradient position) ≤ tolerance) ∧
        ∀ cap, bound ≤ cap →
          solve gram linear total initial tolerance cap = ⟨multipliers, count⟩ := by
  obtain ⟨least, least_pos, ascends⟩ := ascends symmetric positive tolerance_pos.le
  obtain ⟨ceiling, below⟩ := exists_ceiling symmetric total
  obtain ⟨moves, final, consistent, stopped, same⟩ :=
    ascends.ends (least_pos tolerance_pos) below _ (consistent_start nonempty positive.le initial)
  have settled := advance?_eq_none stopped
  have gradient_length := consistent.length_gradient symmetric.height
  rw [consistent.gradient_eq] at settled gradient_length
  refine ⟨moves + 1, final.multipliers, moves, Nat.lt_succ_self _, consistent.feasible, settled,
    fun slope member position held =>
      settled.total_mul_spread_le consistent.feasible positive gradient_length member held, ?_⟩
  intro cap enough
  rw [solve, same cap 0 (Nat.le_of_succ_le enough), Nat.zero_add]

/-- The matrix is not positive semidefinite, and the start is cut off and scaled.  One move takes
all mass to the other coordinate. -/
theorem Simplex.solve_ends_indefinite :
    let gram : List (List ℚ) := [[1, 2], [2, 1]]
    let linear : List ℚ := [4, 1]
    let multipliers : List ℚ := [2, 0]
    let gradient := sub linear (apply gram multipliers)
    Symmetric gram linear.length ∧ linear ≠ [] ∧ (0 : ℚ) < 2 ∧ (0 : ℚ) < 1 / 10 ∧
      ∃ bound, 1 < bound ∧ Feasible linear.length 2 multipliers ∧
        Settled 2 (1 / 10) multipliers gradient ∧
        (∀ slope ∈ gradient, ∀ position, 0 < entry multipliers position →
          2 * (slope - entry gradient position) ≤ 1 / 10) ∧
        ∀ cap, bound ≤ cap →
          solve gram linear 2 (some [-1, 5]) (1 / 10) cap = ⟨multipliers, 1⟩ := by
  intro gram linear multipliers gradient
  have symmetric : Symmetric gram linear.length := by decide
  have nonempty : linear ≠ [] := by decide
  have positive : (0 : ℚ) < 2 := by decide
  have tolerance_pos : (0 : ℚ) < 1 / 10 := by norm_num
  obtain ⟨bound, found, count, fewer, feasible, settled, within, same⟩ :=
    solve_ends symmetric nonempty positive tolerance_pos (some [-1, 5])
  have solved : (solve gram linear 2 (some [-1, 5]) (1 / 10) 2).multipliers = multipliers ∧
      (solve gram linear 2 (some [-1, 5]) (1 / 10) 2).iterations = 1 := by decide +kernel
  have resumes := solve_resumes positive tolerance_pos.le symmetric.height (by decide)
  have answer := resumes.eq_of_early (solved.2.trans_lt Nat.one_lt_two) same
  obtain rfl : found = multipliers := (congrArg Solution.multipliers answer).trans solved.1
  obtain rfl : count = 1 := (congrArg Solution.iterations answer).trans solved.2
  exact ⟨symmetric, nonempty, positive, tolerance_pos, bound, fewer, feasible, settled, within,
    same⟩

/-- **Ascent with nonnegative weights ends by itself**, in the same sense. -/
theorem Nonnegative.Problem.solve_ends_nonnegative {problem : Problem ℚ}
    (wellFormed : problem.WellFormed) (nonempty : problem.offsets ≠ []) (positive : 0 < total)
    (tolerance_pos : 0 < tolerance) (initial : Option (List ℚ)) :
    ∃ bound multipliers count,
      let values := problem.values (neg (combine problem.dimension multipliers problem.gradients))
      count < bound ∧ Feasible problem.offsets.length total multipliers ∧
        Settled total tolerance multipliers values ∧
        (∀ value ∈ values, ∀ position, 0 < entry multipliers position →
          total * (value - entry values position) ≤ tolerance) ∧
        ∀ cap, bound ≤ cap →
          problem.solve total initial tolerance cap = ⟨multipliers, count⟩ := by
  obtain ⟨least, least_pos, ascends⟩ := ascends wellFormed positive tolerance_pos.le
  obtain ⟨ceiling, below⟩ := exists_ceiling problem total
  obtain ⟨moves, final, consistent, stopped, same⟩ :=
    ascends.ends (least_pos tolerance_pos) below _ (consistent_start nonempty positive.le initial)
  have settled := advance?_eq_none stopped
  rw [consistent.position_eq] at settled
  refine ⟨moves + 1, final.multipliers, moves, Nat.lt_succ_self _, consistent.feasible, settled,
    fun value member position held => settled.total_mul_spread_le consistent.feasible positive
      (length_values wellFormed _) member held, ?_⟩
  intro cap enough
  rw [solve, same cap 0 (Nat.le_of_succ_le enough), Nat.zero_add]

/-- Three planes in two dimensions, and a start that does not fit.  Two moves take all mass to the
last plane. -/
theorem Nonnegative.Problem.solve_ends_nonnegative_three_planes :
    let problem : Problem ℚ := ⟨2, [[1, -1], [-2, 0], [0, 3]], [0, 1, 2]⟩
    let multipliers : List ℚ := [0, 0, 2]
    let values := problem.values (neg (combine problem.dimension multipliers problem.gradients))
    problem.WellFormed ∧ problem.offsets ≠ [] ∧ (0 : ℚ) < 2 ∧ (0 : ℚ) < 1 / 10 ∧
      ∃ bound, 2 < bound ∧ Feasible problem.offsets.length 2 multipliers ∧
        Settled 2 (1 / 10) multipliers values ∧
        (∀ value ∈ values, ∀ position, 0 < entry multipliers position →
          2 * (value - entry values position) ≤ 1 / 10) ∧
        ∀ cap, bound ≤ cap → problem.solve 2 (some [1]) (1 / 10) cap = ⟨multipliers, 2⟩ := by
  intro problem multipliers values
  have wellFormed : problem.WellFormed := ⟨rfl, by decide⟩
  have nonempty : problem.offsets ≠ [] := by decide
  have positive : (0 : ℚ) < 2 := by decide
  have tolerance_pos : (0 : ℚ) < 1 / 10 := by norm_num
  obtain ⟨bound, found, count, fewer, feasible, settled, within, same⟩ :=
    solve_ends_nonnegative wellFormed nonempty positive tolerance_pos (some [1])
  have solved : (problem.solve 2 (some [1]) (1 / 10) 3).multipliers = multipliers ∧
      (problem.solve 2 (some [1]) (1 / 10) 3).iterations = 2 := by decide +kernel
  have resumes := solve_resumes positive tolerance_pos.le wellFormed (by decide)
  have answer := resumes.eq_of_early (solved.2.trans_lt (Nat.lt_succ_self 2)) same
  obtain rfl : found = multipliers := (congrArg Solution.multipliers answer).trans solved.1
  obtain rfl : count = 2 := (congrArg Solution.iterations answer).trans solved.2
  exact ⟨wellFormed, nonempty, positive, tolerance_pos, bound, fewer, feasible, settled, within,
    same⟩

end

end HingeRank.Dual
