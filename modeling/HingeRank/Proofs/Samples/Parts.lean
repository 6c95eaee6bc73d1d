import Mathlib
import HingeRank.Dataset.Access
import HingeRank.Proofs.Samples.Reading

/-!
# Parts of datasets

Slices of lists, and datasets that are taken apart and put together.
-/

namespace HingeRank

/-!
## Positions of a slice

A slice walks from its beginning in equal steps, forwards or backwards, until its end is reached.
Bounds that count from the back are counted from the front, and bounds beyond the list are moved
to its ends, so that a slice never leaves the list.
-/

namespace Slice

variable {slice : Slice} {length : Nat}

/-- Where a slice begins: at its start, or at the end from which its steps lead away. -/
def beginning (slice : Slice) (length : Nat) : Int :=
  if 0 < slice.step then slice.start.elim 0 (clampBound length 0 length)
  else slice.start.elim ((length : Int) - 1) (clampBound length (-1) (length - 1))

/-- Where a slice ends without taking anything there: at its stop, or next to the end to which
its steps lead. -/
def ending (slice : Slice) (length : Nat) : Int :=
  if 0 < slice.step then slice.stop.elim (length : Int) (clampBound length 0 length)
  else slice.stop.elim (-1) (clampBound length (-1) (length - 1))

/-- A place lies before the end, in the direction of the steps. -/
def IsBeforeEnd (slice : Slice) (length : Nat) (place : Int) : Prop :=
  if 0 < slice.step then place < slice.ending length else slice.ending length < place

/-- The positions are those to which steps from the beginning lead as long as the end is not
reached, in this order. -/
def Takes (slice : Slice) (length : Nat) (positions : List Nat) : Prop :=
  ∀ taken position : Nat, positions[taken]? = some position ↔
    (position : Int) = slice.beginning length + slice.step * taken ∧
      slice.IsBeforeEnd length position

/-! ### Bounds -/

/-- A bound is kept between two ends. -/
theorem clampBound_mem {least greatest : Int} (ordered : least ≤ greatest) (bound : Int) :
    least ≤ clampBound length least greatest bound ∧
      clampBound length least greatest bound ≤ greatest := by
  rw [clampBound]
  omega

theorem beginning_forward (forward : 0 < slice.step) : 0 ≤ slice.beginning length := by
  rw [beginning, if_pos forward]
  cases slice.start with
  | none => exact le_rfl
  | some start => exact (clampBound_mem (Int.natCast_nonneg length) start).1

theorem ending_forward (forward : 0 < slice.step) : slice.ending length ≤ length := by
  rw [ending, if_pos forward]
  cases slice.stop with
  | none => exact le_rfl
  | some stop => exact (clampBound_mem (Int.natCast_nonneg length) stop).2

theorem beginning_backward (backward : ¬ 0 < slice.step) : slice.beginning length ≤ length - 1 := by
  rw [beginning, if_neg backward]
  cases slice.start with
  | none => exact le_rfl
  | some start => exact (clampBound_mem (by omega) start).2

theorem ending_backward (backward : ¬ 0 < slice.step) : -1 ≤ slice.ending length := by
  rw [ending, if_neg backward]
  cases slice.stop with
  | none => exact le_rfl
  | some stop => exact (clampBound_mem (by omega) stop).1

/-! ### Steps -/

/-- So many steps forward stay in front of a place. -/
theorem lt_stepsForward_iff {step : Int} (forward : 0 < step) (start stop : Int) (taken : Nat) :
    taken < ((stop - start + step - 1) / step).toNat ↔ start + step * taken < stop := by
  have whole : (taken : Int) + 1 ≤ (stop - start + step - 1) / step ↔
      ((taken : Int) + 1) * step ≤ stop - start + step - 1 := Int.le_ediv_iff_mul_le forward
  have product : ((taken : Int) + 1) * step = step * taken + step := by ring
  rw [Int.lt_toNat, ← Int.add_one_le_iff, whole, product]
  omega

/-- So many steps backward stay behind a place. -/
theorem lt_stepsBackward_iff {step : Int} (backward : 0 < -step) (start stop : Int) (taken : Nat) :
    taken < ((start - stop - step - 1) / (-step)).toNat ↔ stop < start + step * taken := by
  have mirrored := lt_stepsForward_iff backward (-start) (-stop) taken
  have distance : -stop - -start + -step - 1 = start - stop - step - 1 := by ring
  rw [distance] at mirrored
  rw [mirrored, neg_mul]
  omega

/-- A walk that stays on one side of the front, place by place. -/
theorem getElem?_walk {count taken position : Nat} {place : Nat → Int}
    (inside : ∀ taken < count, 0 ≤ place taken) :
    ((List.range count).map fun taken => (place taken).toNat)[taken]? = some position ↔
      (position : Int) = place taken ∧ taken < count := by
  rw [List.getElem?_map, Option.map_eq_some_iff]
  constructor
  · rintro ⟨index, found, rfl⟩
    obtain ⟨below, rfl⟩ := List.getElem?_eq_some_iff.mp found
    rw [List.getElem_range]
    rw [List.length_range] at below
    exact ⟨Int.toNat_of_nonneg (inside taken below), below⟩
  · rintro ⟨reached, below⟩
    refine ⟨taken, List.getElem?_range below, ?_⟩
    rw [← reached, Int.toNat_natCast]

/-! ### Positions -/

theorem takes_forward (forward : 0 < slice.step) (length : Nat) :
    slice.Takes length (slice.positions length) := by
  have positions_eq : slice.positions length = (List.range ((slice.ending length -
      slice.beginning length + slice.step - 1) / slice.step).toNat).map fun taken : Nat =>
        (slice.beginning length + slice.step * taken).toNat := by
    rw [positions, beginning, ending, if_pos forward, if_pos forward, if_pos forward]
  intro taken position
  rw [positions_eq, getElem?_walk]
  · refine and_congr_right fun reached => ?_
    rw [lt_stepsForward_iff forward, ← reached, IsBeforeEnd, if_pos forward]
  · intro earlier _
    exact Int.add_nonneg (beginning_forward forward) (by positivity)

theorem takes_backward (backward : slice.step < 0) (length : Nat) :
    slice.Takes length (slice.positions length) := by
  have notForward : ¬ 0 < slice.step := by omega
  have positions_eq : slice.positions length = (List.range ((slice.beginning length -
      slice.ending length - slice.step - 1) / (-slice.step)).toNat).map fun taken : Nat =>
        (slice.beginning length + slice.step * taken).toNat := by
    rw [positions, beginning, ending, if_neg notForward, if_neg notForward, if_neg notForward]
  have steps := lt_stepsBackward_iff (neg_pos.mpr backward) (slice.beginning length)
    (slice.ending length)
  intro taken position
  rw [positions_eq, getElem?_walk]
  · refine and_congr_right fun reached => ?_
    rw [steps, ← reached, IsBeforeEnd, if_neg notForward]
  · intro earlier below
    have ahead := (steps earlier).mp below
    have front : -1 ≤ slice.ending length := ending_backward notForward
    omega

/-- A slice takes the positions to which its steps lead. -/
theorem takes_positions (nonzero : slice.step ≠ 0) (length : Nat) :
    slice.Takes length (slice.positions length) := by
  rcases lt_or_gt_of_ne nonzero with backward | forward
  · exact takes_backward backward length
  · exact takes_forward forward length

/-- What a slice takes lies in the list. -/
theorem Takes.lt_length {positions : List Nat} (takes : slice.Takes length positions) :
    ∀ position ∈ positions, position < length := by
  intro position member
  obtain ⟨taken, found⟩ := List.mem_iff_getElem?.mp member
  obtain ⟨reached, before⟩ := (takes taken position).mp found
  rw [IsBeforeEnd] at before
  split at before
  next forward =>
    have behind : slice.ending length ≤ length := ending_forward forward
    omega
  next backward =>
    have begins : slice.beginning length ≤ length - 1 := beginning_backward backward
    have away : slice.step * taken ≤ 0 :=
      mul_nonpos_of_nonpos_of_nonneg (not_lt.mp backward) (Int.natCast_nonneg taken)
    omega

end Slice

/-!
## Datasets put together and taken apart

Queries make a dataset if all their vectors have one dimension, and are otherwise refused because
of the first vector that differs from the very first one.  Whatever is taken from a dataset makes a
dataset again.  Two datasets can be joined if their dimensions agree or if one of them has no
vectors; the orderings they ask for add up.
-/

section

variable {K : Type} {queries others : List (Query K)} {dimension : Nat}

/-! ### The first vector that differs -/

/-- What stands among joined parts stands in one of them. -/
theorem exists_of_flatMap_eq {α β : Type} {parts : α → List β} {items : List α}
    {front back : List β} {middle : β} (joined : items.flatMap parts = front ++ middle :: back) :
    ∃ before item after earlier later, items = before ++ item :: after ∧
      parts item = earlier ++ middle :: later ∧ front = before.flatMap parts ++ earlier := by
  induction items generalizing front with
  | nil => simp at joined
  | cons item items ih =>
      rw [List.flatMap_cons, List.append_eq_append_iff] at joined
      rcases joined with ⟨rest, rfl, found⟩ | ⟨rest, own, found⟩
      · obtain ⟨before, other, after, earlier, later, rfl, inner, rfl⟩ := ih found
        exact ⟨item :: before, other, after, earlier, later, rfl, inner, by simp⟩
      · cases rest with
        | nil =>
            have leading : items.flatMap parts = [] ++ middle :: back := found.symm
            obtain ⟨before, other, after, earlier, later, rfl, inner, none⟩ := ih leading
            refine ⟨item :: before, other, after, earlier, later, rfl, inner, ?_⟩
            rw [List.flatMap_cons, List.append_assoc, ← none, List.append_nil, own, List.append_nil]
        | cons first rest =>
            cases found
            exact ⟨[], item, items, front, rest, rfl, own, rfl⟩

/-- The first vector whose dimension is not that of the very first vector stands in the query at
`place`.  Queries are looked through in order, each from its relevant vectors to the others. -/
inductive FirstStray : List (Query K) → (expected actual place : Nat) → Prop
  | intro {before after : List (Query K)} {query : Query K}
      {earlier later : List (FeatureVector K)} {first stray : FeatureVector K}
      (own : query.vectors = earlier ++ stray :: later)
      (leads : (before.flatMap Query.vectors ++ earlier).head? = some first)
      (same : ∀ vector ∈ before.flatMap Query.vectors ++ earlier,
        vector.dimension = first.dimension)
      (differs : stray.dimension ≠ first.dimension) :
      FirstStray (before ++ query :: after) first.dimension stray.dimension before.length

/-- Numbers count the items in front. -/
theorem length_eq_of_zipIdx_eq {α : Type} {items : List α} {front back : List (α × Nat)} {item : α}
    {place : Nat} (numbered : items.zipIdx = front ++ (item, place) :: back) :
    place = front.length := by
  have found : items.zipIdx[front.length]? = some (item, place) := by
    rw [numbered, List.getElem?_append_right le_rfl, Nat.sub_self]
    rfl
  rw [List.getElem?_zipIdx, Option.map_eq_some_iff] at found
  obtain ⟨_, _, placed⟩ := found
  rw [← (Prod.mk.inj placed).2, Nat.zero_add]

/-- A placed vector stands in its query, behind the vectors that are placed before it. -/
theorem exists_of_placedVectors_eq {front back : List (Nat × FeatureVector K)} {place : Nat}
    {vector : FeatureVector K} (placed : placedVectors queries = front ++ (place, vector) :: back) :
    ∃ before query after earlier later, queries = before ++ query :: after ∧
      query.vectors = earlier ++ vector :: later ∧ place = before.length ∧
        front.map (·.2) = before.flatMap Query.vectors ++ earlier := by
  obtain ⟨before, ⟨query, position⟩, after, earlier, later, numbered, own, rfl⟩ :=
    exists_of_flatMap_eq placed
  have unnumbered := congrArg (List.map (·.1)) numbered
  rw [List.zipIdx_map_fst, List.map_append, List.map_cons] at unnumbered
  obtain ⟨ownEarlier, rest, own_eq, rfl, found⟩ := List.map_eq_append_iff.mp own
  obtain ⟨ownVector, ownLater, rfl, matched, rfl⟩ := List.map_eq_cons_iff.mp found
  obtain ⟨rfl, rfl⟩ := Prod.mk.inj matched
  refine ⟨before.map (·.1), query, after.map (·.1), ownEarlier, ownLater, unnumbered, own_eq,
    ?_, ?_⟩
  · rw [List.length_map]
    exact length_eq_of_zipIdx_eq numbered
  · simp [List.map_flatMap, List.flatMap_map, Function.comp_def]

/-- Queries are refused because of their first stray vector. -/
theorem firstStray_of_commonDimension? {problem : Error}
    (failed : commonDimension? queries = .error problem) :
    ∃ expected actual place, FirstStray queries expected actual place ∧
      problem = .dimensionMismatch (.int expected) actual ("query " ++ toString place) := by
  unfold commonDimension? at failed
  split at failed
  next => cases failed
  next start first rest placed =>
    split at failed
    next => cases failed
    next place stray found =>
      cases failed
      obtain ⟨differs, front, back, rfl, same⟩ := List.find?_eq_some_iff_append.mp found
      have parted : placedVectors queries =
          ((start, first) :: front) ++ (place, stray) :: back := placed
      obtain ⟨before, query, after, earlier, later, rfl, own, rfl, leading⟩ :=
        exists_of_placedVectors_eq parted
      have leads : (before.flatMap Query.vectors ++ earlier).head? = some first := by
        rw [← leading]
        rfl
      have agrees : ∀ vector ∈ before.flatMap Query.vectors ++ earlier,
          vector.dimension = first.dimension := by
        rw [← leading, List.map_cons]
        refine List.forall_mem_cons.mpr ⟨rfl, fun vector member => ?_⟩
        obtain ⟨placedVector, frontMem, rfl⟩ := List.mem_map.mp member
        simpa using same placedVector frontMem
      have strays : stray.dimension ≠ first.dimension := by simpa using differs
      exact ⟨_, _, _, .intro own leads agrees strays, rfl⟩

/-! ### Dimensions of parts -/

theorem HaveDimension.subset (same : HaveDimension queries dimension) (part : others ⊆ queries) :
    HaveDimension others dimension :=
  fun query member => same query (part member)

@[simp] theorem haveDimension_append_iff : HaveDimension (queries ++ others) dimension ↔
    HaveDimension queries dimension ∧ HaveDimension others dimension := List.forall_mem_append

namespace Dataset

variable {dataset other : Dataset K}

/-- The queries of a dataset have its dimension, and any if it has no vectors. -/
@[simp] theorem haveDimension_queries_iff : HaveDimension dataset.queries dimension ↔
    ∀ known, dataset.dimension = some known → known = dimension := by
  constructor
  · intro same
    obtain ⟨known, agreement, only⟩ := same.commonDimension?_eq
    cases agreement.symm.trans dataset.agreement
    exact only
  · intro only
    cases found : dataset.dimension with
    | none =>
        rw [haveDimension_iff, placedVectors_eq_nil found]
        nofun
    | some known =>
        have same := dataset.haveDimension
        rwa [found, Option.getD_some, only known found] at same

theorem dimension_eq_none_iff :
    dataset.dimension = none ↔ ∀ query ∈ dataset.queries, query.vectors = [] := by
  constructor
  · intro unknown query member
    rw [List.eq_nil_iff_forall_not_mem]
    intro vector vectorMem
    obtain ⟨position, placed⟩ := mem_placedVectors member vectorMem
    rw [placedVectors_eq_nil unknown] at placed
    cases placed
  · intro bare
    cases found : dataset.dimension with
    | none => rfl
    | some known =>
        -- Without vectors every dimension fits, the successor of the known one as well.
        have same : HaveDimension dataset.queries (known + 1) := by
          intro query member vector vectorMem
          rw [bare query member] at vectorMem
          cases vectorMem
        exact absurd (haveDimension_queries_iff.mp same known found) (Nat.succ_ne_self known).symm

theorem pairCount_eq_sum (dataset : Dataset K) :
    dataset.pairCount = (dataset.queries.map (·.pairCount)).sum := by
  rw [pairCount, List.sum_eq_foldr]

/-- A dataset is made of queries of one dimension, and keeps them. -/
theorem exists_ofQueries?_iff : (∃ dataset, ofQueries? queries = .ok dataset) ↔
    ∃ dimension, HaveDimension queries dimension := by
  constructor
  · rintro ⟨dataset, built⟩
    refine ⟨dataset.dimension.getD 0, ?_⟩
    rw [← queries_of_ofQueries? built]
    exact dataset.haveDimension
  · rintro ⟨dimension, same⟩
    obtain ⟨dataset, built, -⟩ := ofQueries?_of_haveDimension same
    exact ⟨dataset, built⟩

/-- Other queries are refused because of their first stray vector. -/
theorem firstStray_of_spread (spread : ¬ ∃ dimension, HaveDimension queries dimension) :
    ∃ expected actual place, FirstStray queries expected actual place ∧
      ofQueries? queries =
        .error (.dimensionMismatch (.int expected) actual ("query " ++ toString place)) := by
  cases built : ofQueries? queries with
  | ok dataset => exact absurd (exists_ofQueries?_iff.mp ⟨dataset, built⟩) spread
  | error problem =>
      unfold ofQueries? at built
      split at built
      next => cases built
      next failed =>
        cases built
        obtain ⟨expected, actual, place, stray, rfl⟩ := firstStray_of_commonDimension? failed
        exact ⟨expected, actual, place, stray, rfl⟩

/-- A query without vectors does not settle the dimension, but it is counted. -/
example : ofQueries? [⟨[], []⟩, ⟨[.dense [1, 2]], [.dense [(3 : ℚ)]]⟩] =
    .error (.dimensionMismatch (.int 2) 1 "query 1") := rfl

/-- What is taken from a dataset makes a dataset. -/
theorem ofQueries?_of_subset (part : queries ⊆ dataset.queries) :
    ∃ smaller, ofQueries? queries = .ok smaller ∧ smaller.queries = queries ∧
      smaller.pairCount = (queries.map (·.pairCount)).sum := by
  obtain ⟨smaller, built, kept, -⟩ :=
    ofQueries?_of_haveDimension (dataset.haveDimension.subset part)
  refine ⟨smaller, built, kept, ?_⟩
  rw [pairCount_eq_sum, kept]

/-- Two datasets can be joined if their dimensions agree or one of them has no vectors. -/
theorem exists_ofQueries?_append_iff :
    (∃ joined, ofQueries? (dataset.queries ++ other.queries) = .ok joined) ↔
      dataset.dimension = other.dimension ∨ (∀ query ∈ dataset.queries, query.vectors = []) ∨
        ∀ query ∈ other.queries, query.vectors = [] := by
  rw [exists_ofQueries?_iff, ← dimension_eq_none_iff, ← dimension_eq_none_iff]
  simp only [haveDimension_append_iff, haveDimension_queries_iff]
  cases dataset.dimension with
  | none => cases other.dimension <;> simp
  | some known =>
      cases other.dimension with
      | none => simp
      | some wanted => simp [eq_comm]

theorem pairCount_of_append {joined : Dataset K}
    (built : ofQueries? (dataset.queries ++ other.queries) = .ok joined) :
    joined.pairCount = dataset.pairCount + other.pairCount := by
  rw [pairCount_eq_sum, queries_of_ofQueries? built, List.map_append, List.sum_append,
    ← pairCount_eq_sum, ← pairCount_eq_sum]

/-- A slice of a dataset is a dataset of the queries at its positions. -/
theorem slice?_eq {slice : Slice} (nonzero : slice.step ≠ 0) (dataset : Dataset K) :
    ∃ part, dataset.slice? slice = .ok part ∧
      part.queries.map some = (slice.positions dataset.size).map (dataset.queries[·]?) ∧
        part.pairCount = (part.queries.map (·.pairCount)).sum := by
  have inside := (Slice.takes_positions nonzero dataset.size).lt_length
  have taken :
      (slice.positions dataset.size).filterMap (dataset.queries[·]?) ⊆ dataset.queries := by
    intro query member
    obtain ⟨position, -, found⟩ := List.mem_filterMap.mp member
    exact List.mem_of_getElem? found
  obtain ⟨part, built, kept, count⟩ := ofQueries?_of_subset taken
  refine ⟨part, built, ?_, by rw [count, kept]⟩
  rw [kept, List.map_filterMap_some_eq_filter_map_isSome, List.filter_eq_self]
  intro found member
  obtain ⟨position, positionMem, rfl⟩ := List.mem_map.mp member
  rw [List.getElem?_eq_getElem (inside position positionMem)]
  rfl

/-- What can be made of a dataset. -/
structure Composes (dataset : Dataset K) : Prop where
  /-- Any of the queries, in any order, make a dataset. -/
  part : ∀ queries ⊆ dataset.queries, ∃ smaller, ofQueries? queries = .ok smaller ∧
    smaller.queries = queries ∧ smaller.pairCount = (queries.map (·.pairCount)).sum
  /-- The positions of a slice are those of its steps, and there is a query at each of them. -/
  slice : ∀ slice : Slice, slice.step ≠ 0 →
    slice.Takes dataset.size (slice.positions dataset.size) ∧
      ∃ part, dataset.slice? slice = .ok part ∧
        part.queries.map some = (slice.positions dataset.size).map (dataset.queries[·]?) ∧
          part.pairCount = (part.queries.map (·.pairCount)).sum
  joins_iff : ∀ other : Dataset K,
    (∃ joined, ofQueries? (dataset.queries ++ other.queries) = .ok joined) ↔
      dataset.dimension = other.dimension ∨ (∀ query ∈ dataset.queries, query.vectors = []) ∨
        ∀ query ∈ other.queries, query.vectors = []
  joins_pairCount : ∀ other joined : Dataset K,
    ofQueries? (dataset.queries ++ other.queries) = .ok joined →
      joined.queries = dataset.queries ++ other.queries ∧
        joined.pairCount = dataset.pairCount + other.pairCount

end Dataset

/-- Which queries make a dataset, and why others do not. -/
structure Construction (queries : List (Query K)) : Prop where
  accepted_iff : (∃ dataset, Dataset.ofQueries? queries = .ok dataset) ↔
    ∃ dimension, HaveDimension queries dimension
  kept : ∀ dataset, Dataset.ofQueries? queries = .ok dataset → dataset.queries = queries
  refused : (¬ ∃ dimension, HaveDimension queries dimension) →
    ∃ expected actual place, FirstStray queries expected actual place ∧
      Dataset.ofQueries? queries =
        .error (.dimensionMismatch (.int expected) actual ("query " ++ toString place))

/-- **Composition**: exactly the queries of one dimension make a dataset, others are refused
because of their first stray vector, and datasets can be taken apart and joined. -/
theorem Dataset.composition :
    (∀ queries : List (Query K), Construction queries) ∧
      ∀ dataset : Dataset K, dataset.Composes := by
  constructor
  · intro queries
    exact ⟨exists_ofQueries?_iff, fun dataset => queries_of_ofQueries?, firstStray_of_spread⟩
  · intro dataset
    constructor
    case part => exact fun queries => ofQueries?_of_subset
    case slice =>
      intro slice nonzero
      exact ⟨Slice.takes_positions nonzero dataset.size, slice?_eq nonzero dataset⟩
    case joins_iff => exact fun other => exists_ofQueries?_append_iff
    case joins_pairCount =>
      intro other joined built
      exact ⟨queries_of_ofQueries? built, pairCount_of_append built⟩

end

end HingeRank
