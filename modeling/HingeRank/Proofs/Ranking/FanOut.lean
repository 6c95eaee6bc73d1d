import Mathlib
import HingeRank.Proofs.Ranking.Risk

/-!
# Many workers compute what one computes

Every worker adds up the losses of its own blocks and hands its sum in when it has finished.  Once
all sums are there they are added in the order of the parts.  With exact arithmetic the blocks can
just as well be added up in one pass: it matters neither where their list was cut nor in which order
the workers finish.
-/

namespace HingeRank

open Linear

/-! ## Sums of sums -/

namespace Linear

theorem add_assoc (first second third : List ℚ) :
    add (add first second) third = add first (add second third) := by
  induction first generalizing second third with
  | nil => rfl
  | cons x first ih =>
      cases second with
      | nil => rfl
      | cons y second =>
          cases third with
          | nil => rfl
          | cons z third =>
              change (x + y + z) :: add (add first second) third = _
              rw [ih, Rat.add_assoc]
              rfl

@[simp] theorem zeros_add (vector : List ℚ) : add (zeros vector.length) vector = vector := by
  induction vector with
  | nil => rfl
  | cons x vector ih =>
      change (0 + x) :: add (zeros vector.length) vector = _
      rw [ih, zero_add]

end Linear

namespace RawLoss

variable {dimension : Nat} {raw : RawLoss ℚ} {losses : List (RawLoss ℚ)}

theorem add_assoc (first second third : RawLoss ℚ) :
    (first.add second).add third = first.add (second.add third) := by
  simp only [add, Linear.add_assoc, Rat.add_assoc]

theorem zero_add (equal : raw.subgradient.length = dimension) : (zero dimension).add raw = raw := by
  subst equal
  rcases raw with ⟨loss, subgradient⟩
  simp only [add, zero, zeros_add, Rat.zero_add]

/-- What has been added up before stays in front. -/
theorem foldl_add (equal : raw.subgradient.length = dimension)
    (aligned : Aligned losses dimension) :
    losses.foldl add raw = raw.add (total dimension losses) := by
  induction losses generalizing raw with
  | nil =>
      rcases raw with ⟨loss, subgradient⟩
      subst equal
      change _ = RawLoss.mk (loss + 0) (Linear.add subgradient (zeros subgradient.length))
      rw [Linear.add_comm, zeros_add, Rat.add_zero]
      rfl
  | cons next losses ih =>
      have next_eq := aligned next List.mem_cons_self
      have others : Aligned losses dimension :=
        fun other member => aligned other (List.mem_cons_of_mem _ member)
      have started := ih next_eq others
      rw [total, List.foldl_cons, List.foldl_cons, zero_add next_eq, started, ← add_assoc]
      exact ih (length_add_of_eq equal next_eq) others

/-- The sum of the sums of several groups is the sum of all of them. -/
theorem total_total {groups : List (List (RawLoss ℚ))}
    (aligned : ∀ group ∈ groups, Aligned group dimension) :
    total dimension (groups.map (total dimension)) = total dimension groups.flatten := by
  suffices from_start : ∀ raw : RawLoss ℚ, raw.subgradient.length = dimension →
      (groups.map (total dimension)).foldl add raw = groups.flatten.foldl add raw from
    from_start _ (length_zeros dimension)
  induction groups with
  | nil => exact fun _ _ => rfl
  | cons group groups ih =>
      intro raw equal
      have group_eq := aligned group List.mem_cons_self
      have summed := foldl_add equal group_eq
      rw [List.map_cons, List.foldl_cons, List.flatten_cons, List.foldl_append, summed]
      exact ih (fun other member => aligned other (List.mem_cons_of_mem _ member)) _
        (length_add_of_eq equal (length_total group_eq))

end RawLoss

namespace RankingLoss

/-! ## Handing in -/

section HandingIn

variable {K : Type} [Scalar K]

/-- A sum over all blocks as risk and subgradient. -/
def scaled (ranking : RankingLoss K) (raw : RawLoss K) : K × List K :=
  let factor : K := 1 / (ranking.pairCount : K)
  (raw.loss * factor, raw.subgradient.map (· * factor))

/-- Risk and subgradient from all blocks in one pass. -/
def singlePass (ranking : RankingLoss K) (weights : List K) : K × List K :=
  ranking.scaled (ranking.part weights ranking.parts.flatten)

/-- What the workers of some parts have handed in, in the order in which they have finished: every
sum stands in the place of its part, and all other places are empty. -/
def handedIn (ranking : RankingLoss K) (weights : List K) (finished : List Nat) :
    List (Option (RawLoss K)) :=
  finished.foldl
    (fun places part => places.set part (ranking.parts[part]?.map (ranking.part weights)))
    (List.replicate ranking.parts.length none)

/-- Risk and subgradient as soon as no place is empty any more. -/
def merged? (ranking : RankingLoss K) (places : List (Option (RawLoss K))) :
    Option (K × List K) := do
  return ranking.scaled (RawLoss.total ranking.dimension (← places.mapM id))

variable {ranking : RankingLoss K} {weights : List K}

theorem handedIn_concat (finished : List Nat) (part : Nat) :
    ranking.handedIn weights (finished ++ [part]) =
      (ranking.handedIn weights finished).set part
        (ranking.parts[part]?.map (ranking.part weights)) := by
  rw [handedIn, List.foldl_append]
  rfl

@[simp] theorem length_handedIn (finished : List Nat) :
    (ranking.handedIn weights finished).length = ranking.parts.length := by
  induction finished using List.reverseRecOn with
  | nil => exact List.length_replicate
  | append_singleton finished part ih => rw [handedIn_concat, List.length_set, ih]

/-- A place is filled as soon as the worker of its part has finished, and not before. -/
theorem getElem?_handedIn (finished : List Nat) {part : Nat}
    (inBounds : part < ranking.parts.length) :
    (ranking.handedIn weights finished)[part]? =
      some (if part ∈ finished then some (ranking.part weights ranking.parts[part]) else none) := by
  induction finished using List.reverseRecOn with
  | nil => simp [handedIn, inBounds]
  | append_singleton finished latest ih =>
      rw [handedIn_concat, List.getElem?_set, length_handedIn, ih]
      by_cases same : latest = part
      · subst same
        simp [inBounds]
      · have other : part ≠ latest := fun equal => same equal.symm
        simp [same, other]

/-- When all workers have finished, in whatever order, every sum stands in its place. -/
theorem handedIn_eq {finished : List Nat} (all : ∀ part < ranking.parts.length, part ∈ finished) :
    ranking.handedIn weights finished = ranking.parts.map fun blocks =>
      some (ranking.part weights blocks) := by
  apply List.ext_getElem?
  intro part
  by_cases inBounds : part < ranking.parts.length
  · rw [getElem?_handedIn finished inBounds, if_pos (all part inBounds)]
    simp [inBounds]
  · have beyond := not_lt.mp inBounds
    rw [List.getElem?_eq_none (by rwa [length_handedIn]),
      List.getElem?_eq_none (by rwa [List.length_map])]

/-- The sums are then merged to the answer of the loss. -/
theorem merged?_handedIn {finished : List Nat}
    (all : ∀ part < ranking.parts.length, part ∈ finished) :
    ranking.merged? (ranking.handedIn weights finished) = some (ranking.risk weights) := by
  have sums : (ranking.handedIn weights finished).mapM id =
      some (ranking.parts.map (ranking.part weights)) := by
    rw [handedIn_eq all, List.mapM_map]
    exact mapM_eq_pure fun blocks _ => rfl
  rw [merged?, sums]
  rfl

end HandingIn

/-! ## One pass -/

variable {ranking serial : RankingLoss ℚ} {dataset : Dataset ℚ} {margin : ℚ} {weights : List ℚ}

/-- The parts of all workers together are added up as in one pass. -/
theorem Fits.risk_eq_singlePass (fits : ranking.Fits) (weights : List ℚ) :
    ranking.risk weights = ranking.singlePass weights := by
  let losses := ranking.parts.map fun blocks => blocks.map (·.rawLoss ranking.margin weights)
  have aligned : ∀ group ∈ losses, RawLoss.Aligned group ranking.dimension := by
    intro group member
    obtain ⟨blocks, blocksMem, rfl⟩ := List.mem_map.mp member
    exact fits.aligned_losses weights blocksMem
  have flat : losses.flatten =
      ranking.parts.flatten.map (·.rawLoss ranking.margin weights) := List.map_flatten.symm
  have summed := RawLoss.total_total aligned
  rw [flat, List.map_map] at summed
  exact congrArg ranking.scaled summed

/-- A loss computes from all blocks what another one computes in one pass, and its workers need not
finish in any order. -/
structure FansOut (ranking serial : RankingLoss ℚ) (blocks : List (QueryBlock ℚ)) : Prop where
  flatten_eq : ranking.parts.flatten = blocks
  evaluate_eq : ∀ weights evaluations,
    ranking.oracle.evaluate weights evaluations = serial.oracle.evaluate weights evaluations
  merged_eq : ∀ finished, finished.Perm (List.range ranking.parts.length) → ∀ weights,
    ranking.merged? (ranking.handedIn weights finished) = some (serial.singlePass weights)

/-- The same blocks, divided in another way, give the same loss. -/
theorem Fits.fansOut (fits : serial.Fits) {parts : List (List (QueryBlock ℚ))}
    (flatten_eq : parts.flatten = serial.parts.flatten) :
    FansOut { serial with parts } serial serial.parts.flatten := by
  have divided : Fits { serial with parts } := by
    intro blocks member block blockMem
    have known : block ∈ serial.parts.flatten :=
      flatten_eq ▸ List.mem_flatten.mpr ⟨blocks, member, blockMem⟩
    obtain ⟨others, othersMem, blockMem⟩ := List.mem_flatten.mp known
    exact fits others othersMem block blockMem
  have single (weights : List ℚ) :
      risk { serial with parts } weights = serial.singlePass weights := by
    rw [divided.risk_eq_singlePass, singlePass, flatten_eq]
    rfl
  constructor
  case flatten_eq => exact flatten_eq
  case evaluate_eq =>
    intro weights evaluations
    simp only [oracle, risk?, single, fits.risk_eq_singlePass]
  case merged_eq =>
    intro finished perm weights
    rw [merged?_handedIn, single]
    intro part inBounds
    exact perm.mem_iff.mpr (List.mem_range.mpr inBounds)

/-- There is one block for every query with pairs. -/
theorem length_blocks {blocks : List (QueryBlock ℚ)}
    (made : dataset.rankingQueries.mapM QueryBlock.ofQuery? = .ok blocks) :
    blocks.length = dataset.rankingQueries.length := by
  obtain ⟨others, remade, covers⟩ := blocks_cover dataset
  cases made.symm.trans remade
  exact covers.length_eq

theorem blocks_ne_nil (isProblem : dataset.isRankingProblem = true) {blocks : List (QueryBlock ℚ)}
    (made : dataset.rankingQueries.mapM QueryBlock.ofQuery? = .ok blocks) : blocks ≠ [] := by
  obtain ⟨query, queryMem, hasPairs⟩ := Dataset.isRankingProblem_eq_true_iff.mp isProblem
  have asks : query ∈ dataset.rankingQueries :=
    List.mem_filter.mpr ⟨queryMem, Query.hasPairs_eq_true_iff.mpr hasPairs⟩
  rw [← List.length_pos_iff, length_blocks made]
  exact List.length_pos_of_mem asks

/-- The loss of a dataset with pairs, divided among a whole number of workers. -/
theorem ofDataset?_divided (isProblem : dataset.isRankingProblem = true) {workers : Int}
    (some : 1 ≤ workers) (margin : ℚ) {blocks : List (QueryBlock ℚ)}
    (made : dataset.rankingQueries.mapM QueryBlock.ofQuery? = .ok blocks) :
    ∃ parts : List (List (QueryBlock ℚ)),
      ofDataset? dataset margin (.whole workers) =
        .ok ⟨dataset.dimension.getD 0, dataset.pairCount, margin, parts⟩ ∧
      (parts.length : Int) = min workers blocks.length ∧ parts.flatten = blocks := by
  obtain ⟨parts, divided, count, whole⟩ := divide?_whole some (blocks_ne_nil isProblem made)
  refine ⟨parts, ?_, count, whole⟩
  simp [ofDataset?, made, divided]

/-- A loss with any number of workers computes what the loss with one worker computes, which adds
up all blocks in one pass.  There are as many parts as workers, as long as there are so many blocks.
Where exactly the list of blocks is cut does not matter, and neither does the order in which the
workers finish. -/
theorem ofDataset?_fansOut (isProblem : dataset.isRankingProblem = true) {workers : Int}
    (some : 1 ≤ workers) (margin : ℚ) :
    ∃ (blocks : List (QueryBlock ℚ)) (serial fanned : RankingLoss ℚ),
      dataset.rankingQueries.mapM QueryBlock.ofQuery? = .ok blocks ∧
      ofDataset? dataset margin (.whole 1) = .ok serial ∧ serial.parts = [blocks] ∧
      (∀ weights, serial.risk weights = serial.singlePass weights) ∧
      ofDataset? dataset margin (.whole workers) = .ok fanned ∧
      (fanned.parts.length : Int) = min workers blocks.length ∧ FansOut fanned serial blocks ∧
      ∀ bounds, Split.Spans bounds blocks.length →
        (Split.cut blocks bounds).length + 1 = bounds.length ∧
        FansOut { serial with parts := Split.cut blocks bounds } serial blocks := by
  obtain ⟨blocks, made, -⟩ := exists_blocks dataset
  obtain ⟨single, built, single_count, single_flat⟩ :=
    ofDataset?_divided isProblem le_rfl margin made
  obtain ⟨parts, divided, parts_count, parts_flat⟩ := ofDataset?_divided isProblem some margin made
  have fits := ofDataset?_fits built
  have length_pos := List.length_pos_iff.mpr (blocks_ne_nil isProblem made)
  have single_eq : single = [blocks] := by
    obtain ⟨all, rfl⟩ := List.length_eq_one_iff.mp (show single.length = 1 by omega)
    rw [← single_flat, List.flatten_singleton]
  have fansOut (parts : List (List (QueryBlock ℚ))) (flat : parts.flatten = blocks) :
      FansOut ⟨dataset.dimension.getD 0, dataset.pairCount, margin, parts⟩
        ⟨dataset.dimension.getD 0, dataset.pairCount, margin, single⟩ blocks := by
    have divided := fits.fansOut (flat.trans single_flat.symm)
    rwa [single_flat] at divided
  refine ⟨blocks, _, _, made, built, single_eq, fits.risk_eq_singlePass, divided, parts_count,
    fansOut parts parts_flat, fun bounds spans => ⟨?_, fansOut _ spans.flatten_cut⟩⟩
  have first := List.length_pos_of_mem (List.mem_of_head? spans.first_eq)
  rw [Split.length_cut]
  omega

/-- Five workers share two queries, one of them with a sparse vector, in two parts, and their three
pairs miss the margin by three halves on average. -/
theorem ofDataset?_fansOut_five_workers :
    let dataset : Dataset ℚ :=
      ⟨[⟨[.dense [1]], [.dense [0]]⟩, ⟨[.sparse 1 []], [.dense [2], .dense [1 / 2]]⟩], some 1, rfl⟩
    dataset.isRankingProblem = true ∧ (1 : Int) ≤ 5 ∧
      ∃ blocks serial fanned,
        ofDataset? dataset 1 (.whole 1) = .ok serial ∧ serial.parts = [blocks] ∧
        ofDataset? dataset 1 (.whole 5) = .ok fanned ∧ fanned.parts.length = 2 ∧
        FansOut fanned serial blocks ∧ (serial.singlePass [1]).1 = 3 / 2 := by
  intro dataset
  have isProblem : dataset.isRankingProblem = true := by decide
  obtain ⟨blocks, serial, fanned, made, built, whole, once, divided, count, fansOut, -⟩ :=
    ofDataset?_fansOut isProblem (show (1 : Int) ≤ 5 by decide) 1
  have two : blocks.length = 2 := length_blocks made
  have averages := ofDataset?_averages built
  have parts_two : fanned.parts.length = 2 := by omega
  refine ⟨isProblem, by decide, blocks, serial, fanned, built, whole, divided, parts_two, fansOut,
    ?_⟩
  rw [← once, averages.risk_eq]
  decide +kernel

end RankingLoss

end HingeRank
