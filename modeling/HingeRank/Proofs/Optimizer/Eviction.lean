import HingeRank.Proofs.Optimizer.Depth

/-!
# Planes that are dropped

Which planes trims drop, in histories of planes and in runs.
-/

namespace HingeRank

/-!
## Which planes are dropped

An arena keeps one counter for each plane.  The history of a plane is the list of all multipliers
that it has been given since it was added.  Histories are kept in the order of the planes: a new
plane begins one, multipliers that are recorded prolong all of them, and a trim removes those that
are out of use.

The counter of a plane says how many of its latest multipliers have left it unused in a row,
wherever the plane has been moved to.  So a trim of the arena removes exactly the planes whose
histories are out of use, the first one excepted.
-/

section

open Linear

/-- Among the first entries of a list there are only accepted ones. -/
theorem le_length_takeWhile_iff {α : Type} (accept : α → Bool) (items : List α) (count : Nat) :
    count ≤ (items.takeWhile accept).length ↔
      count ≤ items.length ∧ ∀ item ∈ items.take count, accept item = true := by
  induction items generalizing count with
  | nil => simp
  | cons item items ih =>
      cases count with
      | zero => simp
      | succ count =>
          cases kind : accept item with
          | true => simp [kind, ih]
          | false => simp [kind]

/-- A plane with the multipliers that it has been given since it was added, the latest first. -/
structure PlaneHistory where
  gradient : List ℚ
  offset : ℚ
  given : List ℚ
  deriving DecidableEq

namespace PlaneHistory

/-- There have been at least so many solutions since the plane was added, and the latest so many
have all left it unused. -/
def IsDisused (threshold : Nat) (history : PlaneHistory) : Prop :=
  threshold ≤ history.given.length ∧
    ∀ multiplier ∈ history.given.take threshold, multiplier ≤ PlaneArena.activeThreshold

instance (threshold : Nat) (history : PlaneHistory) : Decidable (history.IsDisused threshold) :=
  inferInstanceAs (Decidable (_ ∧ _))

/-- The history after one more solution. -/
def give (multiplier : ℚ) (history : PlaneHistory) : PlaneHistory :=
  { history with given := multiplier :: history.given }

/-- The histories that a trim keeps: the first one, and those of planes that are not disused. -/
def keep (threshold : Nat) : List PlaneHistory → List PlaneHistory
  | [] => []
  | first :: rest => first :: rest.filter fun history => ¬history.IsDisused threshold

/-- The histories after an operation; one that is refused leaves them alone. -/
def perform (dimension : Nat) (histories : List PlaneHistory) :
    PlaneOperation → List PlaneHistory
  | .add gradient offset =>
      if gradient.shape = [dimension] then histories ++ [⟨gradient.entries, offset, []⟩]
      else histories
  | .recordDual multipliers =>
      match PlaneLedger.multipliersFor? histories.length multipliers with
      | some multipliers => List.zipWith give multipliers histories
      | none => histories
  | .trim threshold => keep threshold.toNat histories

/-- The histories after a sequence of operations, the first of them that of the zero plane. -/
def performAll (dimension : Nat) (operations : List PlaneOperation) : List PlaneHistory :=
  operations.foldl (perform dimension) [⟨zeros dimension, 0, []⟩]

/-! ### What a record knows of a history -/

/-- The latest multiplier, and how many of the latest in a row have left the plane unused. -/
def record (history : PlaneHistory) : PlaneRecord ℚ where
  gradient := history.gradient
  offset := history.offset
  multiplier := history.given.headD 0
  idle := (history.given.takeWhile (· ≤ PlaneArena.activeThreshold)).length

@[simp] theorem le_idle_iff {threshold : Nat} {history : PlaneHistory} :
    threshold ≤ history.record.idle ↔ history.IsDisused threshold := by
  simp only [record, le_length_takeWhile_iff, IsDisused, decide_eq_true_eq]

@[simp] theorem record_give (multiplier : ℚ) (history : PlaneHistory) :
    (history.give multiplier).record = history.record.use multiplier := by
  by_cases used : PlaneArena.activeThreshold < multiplier
  · simp [record, give, PlaneRecord.use, used, used.not_ge]
  · simp [record, give, PlaneRecord.use, used, not_lt.mp used]

@[simp] theorem map_record_keep (threshold : Nat) (histories : List PlaneHistory) :
    (keep threshold histories).map record = PlaneRecord.keep threshold (histories.map record) := by
  cases histories with
  | nil => rfl
  | cons first rest =>
      have kept (history : PlaneHistory) :
          decide (history.record.idle < threshold) = decide (¬history.IsDisused threshold) := by
        rw [decide_eq_decide, ← not_le, le_idle_iff]
      simp only [keep, PlaneRecord.keep, List.map_cons, List.filter_map, Function.comp_def, kept]

/-- A ledger and histories go through an operation side by side. -/
theorem records_perform {ledger : PlaneLedger} {histories : List PlaneHistory}
    (known : ledger.records = histories.map record) (operation : PlaneOperation) :
    (ledger.perform operation).2.records =
      (perform ledger.dimension histories operation).map record := by
  cases operation with
  | add gradient offset =>
      simp only [PlaneLedger.perform, perform]
      split
      next => simp [PlaneLedger.append, known, record]
      next => exact known
  | recordDual multipliers =>
      have count_eq : ledger.records.length = histories.length := by rw [known, List.length_map]
      simp only [PlaneLedger.perform, perform, count_eq]
      cases PlaneLedger.multipliersFor? histories.length multipliers with
      | none => exact known
      | some meant =>
          simp only [PlaneLedger.use, known, List.map_zipWith, List.zipWith_map_right, record_give]
  | trim threshold =>
      simp only [PlaneLedger.perform, PlaneLedger.trim, perform, known, map_record_keep]

/-- The records of a ledger are those of the histories, after any operations. -/
theorem records_performAll (dimension : Nat) (operations : List PlaneOperation) :
    ((PlaneLedger.initial dimension).performAll operations).records =
      (performAll dimension operations).map record := by
  induction operations using List.reverseRecOn with
  | nil => rfl
  | append_singleton operations operation ih =>
      have kept := PlaneLedger.dimension_performAll (.initial dimension) operations
      simp only [PlaneLedger.performAll, performAll, List.foldl_append, List.foldl_cons,
        List.foldl_nil] at ih kept ⊢
      rw [records_perform ih, kept]
      rfl

end PlaneHistory

/-! ### What a trim does -/

/-- The arena holds the planes of the histories, and a trim drops those of them that are disused.
The others keep their order, their contents and their histories. -/
structure PlaneArena.DropsDisused (arena : PlaneArena ℚ) (histories : List PlaneHistory)
    (threshold : Nat) : Prop where
  size_eq : arena.size = histories.length
  gradients_eq : arena.gradients = histories.map (·.gradient)
  offsets_eq : arena.offsets = histories.map (·.offset)
  dual_eq : arena.dual = histories.map (·.given.headD 0)
  first_kept : 0 ∈ arena.survivors threshold
  dropped_iff : ∀ slot history, histories[slot + 1]? = some history →
    (slot + 1 ∉ arena.survivors threshold ↔ history.IsDisused threshold)
  ascending : (arena.survivors threshold).Pairwise (· < ·)
  kept_gradients : (arena.trim threshold).2.gradients =
    (arena.survivors threshold).map (row arena.gradients)
  kept_offsets : (arena.trim threshold).2.offsets =
    (arena.survivors threshold).map (entry arena.offsets)
  kept_dual : (arena.trim threshold).2.dual = (arena.survivors threshold).map (entry arena.dual)
  kept_histories : PlaneHistory.keep threshold histories =
    (arena.survivors threshold).map (histories.getD · ⟨[], 0, []⟩)
  /-- The number that is returned. -/
  removed_eq : (arena.trim threshold).1 =
    ((List.range arena.size).filter fun slot => slot ∉ arena.survivors threshold).length

/-- A plane that one of the latest solutions has used is not dropped. -/
theorem PlaneArena.DropsDisused.kept_of_used {arena : PlaneArena ℚ}
    {histories : List PlaneHistory} {threshold slot : Nat} {history : PlaneHistory}
    {multiplier : ℚ} (drops : arena.DropsDisused histories threshold)
    (found : histories[slot]? = some history) (recent : multiplier ∈ history.given.take threshold)
    (used : PlaneArena.activeThreshold < multiplier) : slot ∈ arena.survivors threshold := by
  cases slot with
  | zero => exact drops.first_kept
  | succ slot =>
      by_contra dropped
      have unused := ((drops.dropped_iff slot history found).mp dropped).2 multiplier recent
      exact absurd used unused.not_gt

namespace PlaneArena

variable {arena : PlaneArena ℚ} {threshold : Nat}

@[simp] theorem mem_survivors_succ {slot : Nat} :
    slot + 1 ∈ arena.survivors threshold ↔
      slot + 1 < arena.size ∧ arena.idle.getD (slot + 1) 0 < threshold := by
  simp [survivors]

/-- What is read from the surviving slots after a trim was read from them before. -/
theorem map_keep {records : List (PlaneRecord ℚ)} {α : Type} (represents : arena.Represents records)
    (threshold : Nat) (part : PlaneRecord ℚ → α) :
    (PlaneRecord.keep threshold records).map part =
      (arena.survivors threshold).map ((records.map part).getD · (part (.zeroPlane 0))) := by
  rw [← map_survivors represents, List.map_map]
  refine List.map_congr_left fun slot _ => ?_
  exact (List.getD_map records (.zeroPlane 0) part).symm

theorem length_survivors_add (arena : PlaneArena ℚ) (threshold : Nat) :
    (arena.survivors threshold).length +
      ((List.range arena.size).filter fun slot => slot ∉ arena.survivors threshold).length =
        arena.size := by
  have others : ((List.range arena.size).filter fun slot => slot ∉ arena.survivors threshold) =
      (List.range arena.size).filter
        fun slot => !(slot == 0 || arena.idle.getD slot 0 < threshold) := by
    apply List.filter_congr
    intro slot member
    simp only [survivors, List.mem_filter, member, true_and, decide_not, Bool.decide_eq_true]
  have split := List.length_eq_length_filter_add (l := List.range arena.size)
    fun slot => slot == 0 || arena.idle.getD slot 0 < threshold
  rw [List.length_range] at split
  rw [others]
  exact split.symm

end PlaneArena

/-- After any operations, whatever the room at the start, a trim drops what is disused. -/
theorem PlaneHistory.dropsDisused (dimension capacity : Nat) (operations : List PlaneOperation)
    (threshold : Nat) :
    ((PlaneArena.initial dimension capacity).performAll operations).DropsDisused
      (performAll dimension operations) threshold := by
  have holds := (PlaneLedger.Matches.initial dimension capacity).performAll operations
  have represents := holds.represents
  have known := records_performAll dimension operations
  generalize (PlaneArena.initial dimension capacity).performAll operations = arena at *
  generalize (PlaneLedger.initial dimension).performAll operations = ledger at *
  generalize performAll dimension operations = histories at *
  have idle_eq (slot : Nat) :
      arena.idle.getD slot 0 = (histories.getD slot ⟨[], 0, []⟩).record.idle := by
    rw [represents.idle_eq, known, List.map_map]
    exact List.getD_map histories ⟨[], 0, []⟩ fun history => history.record.idle
  have size_eq : arena.size = histories.length := by
    rw [represents.size_eq, known, List.length_map]
  obtain ⟨removed_eq, trimmed⟩ := PlaneArena.trim_represents represents threshold
  constructor
  case size_eq => exact size_eq
  case gradients_eq => rw [represents.gradients_eq, known, List.map_map]; rfl
  case offsets_eq => rw [represents.offsets_eq, known, List.map_map]; rfl
  case dual_eq => rw [represents.dual_eq, known, List.map_map]; rfl
  case first_kept =>
    have nonempty : 0 < arena.size := by
      rw [represents.size_eq]
      exact List.length_pos_iff.mpr holds.zeroFirst.ne_nil
    exact List.mem_filter.mpr ⟨List.mem_range.mpr nonempty, rfl⟩
  case dropped_iff =>
    intro slot history found
    obtain ⟨inBounds, rfl⟩ := List.getElem?_eq_some_iff.mp found
    rw [PlaneArena.mem_survivors_succ, size_eq, and_iff_right inBounds, idle_eq, not_lt,
      List.getD_eq_getElem _ _ inBounds, le_idle_iff]
  case ascending => exact List.pairwise_lt_range.filter _
  case kept_gradients =>
    rw [trimmed.gradients_eq, represents.gradients_eq]
    exact PlaneArena.map_keep represents threshold (·.gradient)
  case kept_offsets =>
    rw [trimmed.offsets_eq, represents.offsets_eq]
    exact PlaneArena.map_keep represents threshold (·.offset)
  case kept_dual =>
    rw [trimmed.dual_eq, represents.dual_eq]
    exact PlaneArena.map_keep represents threshold (·.multiplier)
  case kept_histories =>
    cases histories with
    | nil => rw [PlaneArena.survivors, size_eq]; rfl
    | cons first rest =>
        rw [PlaneArena.map_survivors_cons (·.record.idle) size_eq idle_eq, keep]
        congr 2
        funext history
        rw [decide_eq_decide, ← le_idle_iff, not_le]
  case removed_eq =>
    have complement := arena.length_survivors_add threshold
    rw [removed_eq, ← PlaneArena.length_survivors represents, ← represents.size_eq]
    omega

end

/-!
## Which planes a run drops

A cut adds a plane to the arena, records the multipliers of its solution and trims.  A step without
a cut leaves the arena alone.  So the operations of its cuts, one after the other, lead to the arena
of a run, and what is known of histories and trims holds at every step.
-/

section

open Linear

variable {σ : Type}

namespace PlaneArena

variable {arena : PlaneArena ℚ}

@[simp] theorem performAll_append (arena : PlaneArena ℚ) (first second : List PlaneOperation) :
    arena.performAll (first ++ second) = (arena.performAll first).performAll second :=
  List.foldl_append

theorem perform_add {gradient : List ℚ} (aligned : gradient.length = arena.dimension)
    (offset : ℚ) : (arena.perform (.add (.vector gradient) offset)).2 =
      arena.push gradient offset := by
  have fits : (Tensor.vector gradient).shape = [arena.dimension] := by
    rw [Tensor.vector, aligned]
  simp only [perform, add?, if_pos fits]
  rfl

theorem perform_recordDual {multipliers : List ℚ} (equal : multipliers.length = arena.size) :
    (arena.perform (.recordDual multipliers)).2 = arena.recordDual multipliers := by
  simp only [perform, recordDual?, PlaneLedger.Matches.multipliersOf?_vector,
    PlaneLedger.multipliersFor?, if_pos equal]
  rfl

end PlaneArena

namespace Cut

/-- What a cut does to the arena before it trims. -/
def recording (cut : Cut) : List PlaneOperation :=
  [.add (.vector cut.slope) cut.plane.2, .recordDual cut.solution.dual]

/-- All that a cut does to the arena. -/
def operations (threshold : Nat) (cut : Cut) : List PlaneOperation :=
  cut.recording ++ [.trim threshold]

theorem performAll_recording {cut : Cut} {arena : PlaneArena ℚ}
    (aligned : cut.slope.length = arena.dimension)
    (equal : cut.solution.dual.length = (arena.push cut.plane.1 cut.plane.2).size) :
    arena.performAll cut.recording = cut.recordedIn arena := by
  change ((arena.perform _).2.perform (.recordDual cut.solution.dual)).2 = _
  rw [PlaneArena.perform_add aligned]
  exact PlaneArena.perform_recordDual equal

end Cut

namespace OptimizerConfig

variable {config : OptimizerConfig ℚ} {oracle : LossOracle ℚ σ} {tradeoff : ℚ}

/-- What so many steps have done to the arena. -/
def operationsBefore (config : OptimizerConfig ℚ) (oracle : LossOracle ℚ σ) (tradeoff : ℚ)
    (oracleState : σ) (steps : Nat) : List PlaneOperation :=
  (config.cutsBefore oracle tradeoff oracleState steps).flatMap
    (Cut.operations config.inactivePlaneThreshold)

theorem operationsBefore_succ (config : OptimizerConfig ℚ) (oracle : LossOracle ℚ σ) (tradeoff : ℚ)
    (oracleState : σ) (steps : Nat) :
    config.operationsBefore oracle tradeoff oracleState (steps + 1) =
      config.operationsBefore oracle tradeoff oracleState steps ++
        (config.cut? oracle tradeoff
          (config.situationAfter oracle tradeoff oracleState steps)).toList.flatMap
            (Cut.operations config.inactivePlaneThreshold) := by
  rw [operationsBefore, cutsBefore_succ, List.flatMap_append]
  rfl

theorem Makes.performAll_recording (valid : config.Valid) (tradeoff_pos : 0 < tradeoff)
    {situation : Situation σ} {cut : Cut} (makes : config.Makes oracle tradeoff situation cut)
    {ledger : PlaneLedger} (holds : ledger.Matches situation.2.arena) (aligned : ledger.Aligned) :
    situation.2.arena.performAll cut.recording = cut.recordedIn situation.2.arena := by
  refine Cut.performAll_recording makes.aligned ?_
  rw [PlaneLedger.length_dual_of_solved (makes.solved valid tradeoff_pos holds aligned)]
  exact (holds.append cut.plane.1 cut.plane.2).represents.size_eq.symm

/-- The operations of its cuts lead to the arena of a run. -/
theorem arena_situationAfter (valid : config.Valid) (tradeoff_pos : 0 < tradeoff)
    (filled : oracle.AnswersFilled) (oracleState : σ) (steps : Nat) :
    (config.situationAfter oracle tradeoff oracleState steps).2.arena =
      (PlaneArena.initial oracle.dimension PlaneArena.defaultCapacity).performAll
        (config.operationsBefore oracle tradeoff oracleState steps) := by
  induction steps with
  | zero => rfl
  | succ steps ih =>
      obtain ⟨ledger, holds, tracks⟩ := exists_tracks valid tradeoff_pos filled oracleState steps
      rw [operationsBefore_succ, PlaneArena.performAll_append, ← ih, situationAfter_succ, following]
      rcases makes_or_stays valid tradeoff_pos filled holds tracks.aligned tracks.dimension_eq
        tracks.weights_eq with ⟨cut, makes⟩ | stays
      · rw [makes.made, makes.arena_eq, Option.toList_some, List.flatMap_singleton, Cut.operations,
          PlaneArena.performAll_append,
          makes.performAll_recording valid tradeoff_pos holds tracks.aligned]
        rfl
      · rw [stays.uncut, stays.arena_eq]
        rfl

/-- A cut of a run records its multipliers in the arena that its own operations lead to next. -/
theorem recordedIn_situationAfter (valid : config.Valid) (tradeoff_pos : 0 < tradeoff)
    (filled : oracle.AnswersFilled) (oracleState : σ) (steps : Nat) {cut : Cut}
    (makes : config.Makes oracle tradeoff
      (config.situationAfter oracle tradeoff oracleState steps) cut) :
    (PlaneArena.initial oracle.dimension PlaneArena.defaultCapacity).performAll
        (config.operationsBefore oracle tradeoff oracleState steps ++ cut.recording) =
      cut.recordedIn (config.situationAfter oracle tradeoff oracleState steps).2.arena := by
  obtain ⟨ledger, holds, tracks⟩ := exists_tracks valid tradeoff_pos filled oracleState steps
  rw [PlaneArena.performAll_append, ← arena_situationAfter valid tradeoff_pos filled,
    makes.performAll_recording valid tradeoff_pos holds tracks.aligned]

/-- **A trim drops exactly the planes that are out of use.**  After any operations it removes the
planes, other than the first one, to which each of the latest so many solutions since they were
added has given a multiplier that counts as unused.  All others keep their order, their contents,
their multipliers and their histories, and the number that is returned is that of the removed.

The operations of its cuts lead to the arena in every situation of a run.  Therefore no step drops
a plane that one of the latest solutions has used. -/
theorem trims_drop_disused :
    (∀ dimension capacity operations threshold,
      ((PlaneArena.initial dimension capacity).performAll operations).DropsDisused
        (PlaneHistory.performAll dimension operations) threshold) ∧
    ∀ (config : OptimizerConfig ℚ) (oracle : LossOracle ℚ σ) (tradeoff : ℚ), config.Valid →
      0 < tradeoff → oracle.AnswersFilled → ∀ oracleState,
      (∀ reached, config.Visited oracle tradeoff oracleState reached →
        ∃ steps, reached = config.situationAfter oracle tradeoff oracleState steps) ∧
      ∀ steps,
        let situation := config.situationAfter oracle tradeoff oracleState steps
        let next := config.situationAfter oracle tradeoff oracleState (steps + 1)
        (config.cut? oracle tradeoff situation = none → next.2.arena = situation.2.arena) ∧
        ∀ cut, config.cut? oracle tradeoff situation = some cut →
          let operations :=
            config.operationsBefore oracle tradeoff oracleState steps ++ cut.recording
          let arena := (PlaneArena.initial oracle.dimension PlaneArena.defaultCapacity).performAll
            operations
          arena = cut.recordedIn situation.2.arena ∧
          next.2.arena = (arena.trim config.inactivePlaneThreshold).2 ∧
          ∀ slot history multiplier,
            (PlaneHistory.performAll oracle.dimension operations)[slot]? = some history →
            multiplier ∈ history.given.take config.inactivePlaneThreshold →
            PlaneArena.activeThreshold < multiplier →
            slot ∈ arena.survivors config.inactivePlaneThreshold := by
  refine ⟨PlaneHistory.dropsDisused, ?_⟩
  intro config oracle tradeoff valid tradeoff_pos filled oracleState
  refine ⟨fun reached => Visited.exists_situationAfter, ?_⟩
  intro steps situation next
  have next_eq : next = config.following oracle tradeoff situation :=
    situationAfter_succ config oracle tradeoff oracleState steps
  obtain ⟨ledger, holds, tracks⟩ := exists_tracks valid tradeoff_pos filled oracleState steps
  rcases makes_or_stays valid tradeoff_pos filled holds tracks.aligned tracks.dimension_eq
    tracks.weights_eq with ⟨cut, makes⟩ | stays
  · constructor
    · intro uncut
      cases uncut.symm.trans makes.made
    · intro other made
      cases makes.made.symm.trans made
      intro operations arena
      have recorded : arena = cut.recordedIn situation.2.arena :=
        recordedIn_situationAfter valid tradeoff_pos filled oracleState steps makes
      have drops := PlaneHistory.dropsDisused oracle.dimension PlaneArena.defaultCapacity operations
        config.inactivePlaneThreshold
      refine ⟨recorded, ?_, fun slot history multiplier => drops.kept_of_used⟩
      rw [next_eq, recorded]
      exact makes.arena_eq
  · constructor
    · intro _
      rw [next_eq]
      exact stays.arena_eq
    · intro cut made
      cases stays.uncut.symm.trans made

/-- A plane that moves to another slot takes its history along, and one that is added in its old
slot begins anew.  The second cut of a run drops the plane of the first one. -/
theorem trims_drop_disused_moved :
    let operations : List PlaneOperation :=
      [.add (.vector [1]) 2, .add (.vector [3]) 4, .recordDual [0, 0, 1], .trim 1,
        .add (.vector [5]) 6, .recordDual [1, 0, 0], .recordDual [0, 0, 1]]
    let arena := (PlaneArena.initial 1 0).performAll operations
    let histories := PlaneHistory.performAll 1 operations
    let loss : MaxAffineLoss ℚ := ⟨1, [([-1], 1), ([-3], 2), ([1], -1 / 2)]⟩
    let situation := eager.situationAfter loss.oracle 1 0 1
    let next := eager.situationAfter loss.oracle 1 0 2
    (histories.map (·.gradient) = [[0], [3], [5]] ∧
        histories.map (·.given) = [[0, 1, 0], [0, 0, 1], [1, 0]]) ∧
      arena.DropsDisused histories 2 ∧
      arena.survivors 2 = [0, 2] ∧ (arena.trim 2).1 = 1 ∧
      (arena.trim 2).2.gradients = [[0], [5]] ∧ (arena.trim 2).2.dual = [0, 1] ∧
      (eager.Valid ∧ (0 : ℚ) < 1 ∧ loss.oracle.AnswersFilled) ∧
      ∃ cut, eager.cut? loss.oracle 1 situation = some cut ∧
        cut.plane = ([-1], 1) ∧ cut.solution.dual = [0, 0, 1] ∧
        next.2.arena = ((cut.recordedIn situation.2.arena).trim 1).2 ∧
        2 ∈ (cut.recordedIn situation.2.arena).survivors 1 ∧
        1 ∉ (cut.recordedIn situation.2.arena).survivors 1 := by
  intro operations arena histories loss situation next
  have filled := (@MaxAffineLoss.oracle_represents loss (by decide)).answers.filled
  obtain ⟨trims, runs⟩ := trims_drop_disused
  obtain ⟨-, steps⟩ := runs eager loss.oracle 1 eager_valid one_pos filled 0
  let cut := (eager.cut? loss.oracle 1 situation).get (by decide +kernel)
  have made : eager.cut? loss.oracle 1 situation = some cut := (Option.some_get _).symm
  obtain ⟨recorded, trimmed, kept⟩ := (steps 1).2 cut made
  rw [recorded] at trimmed kept
  refine ⟨⟨by decide +kernel, by decide +kernel⟩, trims 1 0 operations 2, by decide +kernel,
    by decide +kernel, by decide +kernel, by decide +kernel, ⟨eager_valid, one_pos, filled⟩, cut,
    made, by decide +kernel, by decide +kernel, trimmed, ?_, by decide +kernel⟩
  exact kept 2 ⟨[-1], 1, [1]⟩ 1 (by decide +kernel) (by decide) (by decide +kernel)

end OptimizerConfig

end

end HingeRank
