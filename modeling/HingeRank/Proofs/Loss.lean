import Mathlib
import HingeRank.Loss.Ranking
import HingeRank.Proofs.Exact.Linear

/-!
# Losses

Oracles of convex losses, and the division of their work.
-/

namespace HingeRank

/-!
## Oracles of convex losses

A slope supports a risk at weights when the plane through the risk with that slope lies
below the risk everywhere.  An oracle of a convex, nonnegative risk answers with the risk
and a slope that supports it, whatever its own state.

The maximum of affine functions and zero is such a risk.
-/

section

open Linear

/-- The plane with the given slope that touches the risk at the weights lies below it. -/
def Supports (risk : List ℚ → ℚ) (dimension : Nat) (weights slope : List ℚ) : Prop :=
  ∀ others : List ℚ, others.length = dimension →
    risk weights + dot slope (sub others weights) ≤ risk others

namespace LossOracle

variable {σ : Type}

/-- At all weights and in all states the oracle answers with the risk and with a slope of
the right length for which `allowed` holds. -/
def Answers (oracle : LossOracle ℚ σ) (risk : List ℚ → ℚ) (allowed : List ℚ → List ℚ → Prop) :
    Prop :=
  ∀ weights : List ℚ, weights.length = oracle.dimension → ∀ oracleState,
    ∃ slope : List ℚ, slope.length = oracle.dimension ∧ allowed weights slope ∧
      (oracle.evaluate weights oracleState).1 = .ok ⟨risk weights, .vector slope⟩

/-- The oracle of a risk that is not negative and is supported everywhere. -/
structure Represents (oracle : LossOracle ℚ σ) (risk : List ℚ → ℚ) : Prop where
  nonneg : ∀ weights : List ℚ, weights.length = oracle.dimension → 0 ≤ risk weights
  answers : oracle.Answers risk (Supports risk oracle.dimension)

end LossOracle

namespace MaxAffineLoss

variable {loss : MaxAffineLoss ℚ}

/-- The value of one affine function. -/
def pieceValue (piece : List ℚ × ℚ) (weights : List ℚ) : ℚ := piece.2 + dot piece.1 weights

/-- One more affine function is taken into account. -/
def better (weights : List ℚ) (held : ℚ × List ℚ) (piece : List ℚ × ℚ) : ℚ × List ℚ :=
  if held.1 < pieceValue piece weights then (pieceValue piece weights, piece.1) else held

theorem risk_eq (loss : MaxAffineLoss ℚ) (weights : List ℚ) :
    loss.risk weights = loss.pieces.foldl (better weights) (0, zeros loss.dimension) := rfl

/-- The fold ends at its start or at one of the pieces, and above all of them. -/
theorem foldl_better (weights : List ℚ) (pieces : List (List ℚ × ℚ)) (held : ℚ × List ℚ) :
    let found := pieces.foldl (better weights) held
    (found = held ∨ ∃ piece ∈ pieces, found = (pieceValue piece weights, piece.1)) ∧
      held.1 ≤ found.1 ∧ ∀ piece ∈ pieces, pieceValue piece weights ≤ found.1 := by
  induction pieces generalizing held with
  | nil => simp
  | cons piece pieces ih =>
      obtain ⟨origin, above, largest⟩ := ih (better weights held piece)
      have step : held.1 ≤ (better weights held piece).1 ∧
          pieceValue piece weights ≤ (better weights held piece).1 := by
        unfold better
        split
        next less => exact ⟨less.le, le_rfl⟩
        next notLess => exact ⟨le_rfl, not_lt.mp notLess⟩
      refine ⟨?_, step.1.trans above, ?_⟩
      · rcases origin with same | ⟨source, member, found⟩
        · by_cases less : held.1 < pieceValue piece weights
          · refine .inr ⟨piece, List.mem_cons_self, ?_⟩
            rw [List.foldl_cons, same, better, if_pos less]
          · refine .inl ?_
            rw [List.foldl_cons, same, better, if_neg less]
        · exact .inr ⟨source, List.mem_cons_of_mem _ member, found⟩
      · intro other member
        rcases List.mem_cons.mp member with rfl | member
        · exact step.2.trans above
        · exact largest other member

/-- The maximum of affine functions over one space and zero is represented by its
oracle. -/
theorem oracle_represents (aligned : ∀ piece ∈ loss.pieces, piece.1.length = loss.dimension) :
    loss.oracle.Represents fun weights => (loss.risk weights).1 where
  nonneg := by
    intro weights _
    exact (foldl_better weights loss.pieces (0, zeros loss.dimension)).2.1
  answers := by
    intro weights length_eq evaluations
    obtain ⟨origin, -, -⟩ := foldl_better weights loss.pieces (0, zeros loss.dimension)
    rw [← risk_eq] at origin
    refine ⟨(loss.risk weights).2, ?_, ?_, rfl⟩
    · rcases origin with start | ⟨piece, member, found⟩
      · rw [start]
        exact length_zeros loss.dimension
      · rw [found]
        exact aligned piece member
    · intro others others_eq
      obtain ⟨-, nonneg, above⟩ := foldl_better others loss.pieces (0, zeros loss.dimension)
      rw [← risk_eq] at nonneg above
      change (loss.risk weights).1 + dot (loss.risk weights).2 (sub others weights) ≤ _
      rcases origin with start | ⟨piece, member, found⟩
      · rw [start, dot_zeros_left, add_zero]
        exact nonneg
      · have atOthers := above piece member
        rw [found, dot_sub_right (others_eq.trans length_eq.symm)]
        unfold pieceValue at atOthers ⊢
        linarith

end MaxAffineLoss

end

/-!
## Dividing work loses nothing

The parts of a list follow one another without a gap or an overlap as soon as the bounds
ascend from zero and the last one is the length.  The bounds in use are rounded twice, and
rounding to a number of significant bits keeps the order: it does so among numbers of one
size, and it never leaves the powers of two around them.
-/

namespace Decimal

variable {small large : Nat}

theorem roundDiv_mono (atMost : small ≤ large) (denominator : Nat) :
    roundDiv small denominator ≤ roundDiv large denominator := by
  have quotients : small / denominator ≤ large / denominator := Nat.div_le_div_right atMost
  have smallSplit := Nat.div_add_mod small denominator
  have largeSplit := Nat.div_add_mod large denominator
  unfold roundDiv
  rcases quotients.lt_or_eq with less | equal
  · dsimp only
    split_ifs <;> omega
  · rw [equal] at smallSplit ⊢
    dsimp only
    split_ifs <;> omega

/-- A multiple of the denominator is divided exactly. -/
theorem roundDiv_mul {denominator : Nat} (positive : 0 < denominator) (quotient : Nat) :
    roundDiv (quotient * denominator) denominator = quotient := by
  simp [roundDiv, Nat.mul_div_cancel _ positive, positive]

end Decimal

namespace Split

variable {small large : Nat}

/-- A whole number keeps this many bits below its significand. -/
def spareBits (number : Nat) : Nat := number.log2 + 1 - significandBits

theorem nearest_one (number : Nat) :
    nearest number 1 = Decimal.roundDiv number (2 ^ spareBits number) * 2 ^ spareBits number := by
  simp [nearest, spareBits]

theorem nearest_zero : nearest 0 1 = 0 := by
  simp [nearest, Decimal.roundDiv]

private theorem pow_split {low high : Nat} (atMost : low ≤ high) :
    2 ^ high = 2 ^ (high - low) * 2 ^ low := by
  rw [← Nat.pow_add, Nat.sub_add_cancel atMost]

/-- Rounding does not exceed the next power of two. -/
theorem nearest_le_pow (number : Nat) : nearest number 1 ≤ 2 ^ (number.log2 + 1) := by
  have bits : spareBits number ≤ number.log2 + 1 := Nat.sub_le _ _
  have below : number ≤ 2 ^ (number.log2 + 1 - spareBits number) * 2 ^ spareBits number := by
    rw [← pow_split bits]
    exact Nat.lt_log2_self.le
  have rounded := Decimal.roundDiv_mono below (2 ^ spareBits number)
  rw [Decimal.roundDiv_mul (Nat.two_pow_pos _)] at rounded
  rw [nearest_one, pow_split bits]
  exact Nat.mul_le_mul_right _ rounded

/-- Rounding does not fall below the last power of two. -/
theorem pow_le_nearest {number : Nat} (positive : number ≠ 0) :
    2 ^ number.log2 ≤ nearest number 1 := by
  have bits : spareBits number ≤ number.log2 := by
    unfold spareBits significandBits
    omega
  have above : 2 ^ (number.log2 - spareBits number) * 2 ^ spareBits number ≤ number := by
    rw [← pow_split bits]
    exact Nat.log2_self_le positive
  have rounded := Decimal.roundDiv_mono above (2 ^ spareBits number)
  rw [Decimal.roundDiv_mul (Nat.two_pow_pos _)] at rounded
  rw [nearest_one, pow_split bits]
  exact Nat.mul_le_mul_right _ rounded

theorem nearest_mono (atMost : small ≤ large) : nearest small 1 ≤ nearest large 1 := by
  by_cases zero : small = 0
  · rw [zero, nearest_zero]
    exact Nat.zero_le _
  · have largePos : large ≠ 0 := by omega
    have sizes : small.log2 ≤ large.log2 := by
      rw [Nat.le_log2 largePos]
      exact (Nat.log2_self_le zero).trans atMost
    rcases sizes.lt_or_eq with less | equal
    · calc
        nearest small 1 ≤ 2 ^ (small.log2 + 1) := nearest_le_pow small
        _ ≤ 2 ^ large.log2 := Nat.pow_le_pow_right Nat.two_pos less
        _ ≤ nearest large 1 := pow_le_nearest largePos
    · have sameUnit : spareBits small = spareBits large := by
        rw [spareBits, equal, spareBits]
      rw [nearest_one, nearest_one, sameUnit]
      exact Nat.mul_le_mul_right _ (Decimal.roundDiv_mono atMost _)

/-! ### Cutting -/

variable {α : Type}

/-- Ascending bounds up to the length cut off nothing but what lies before the first. -/
theorem flatten_cut (items : List α) (first : Nat) (rest : List Nat)
    (ascending : (first :: rest).Pairwise (· ≤ ·)) :
    (cut items (first :: rest ++ [items.length])).flatten = items.drop first := by
  induction rest generalizing first with
  | nil => simp [cut]
  | cons second rest ih =>
      have order : first ≤ second :=
        (List.pairwise_cons.mp ascending).1 second List.mem_cons_self
      have others := ih second (List.pairwise_cons.mp ascending).2
      have across : (items.drop first).drop (second - first) = items.drop second := by
        rw [List.drop_drop, Nat.add_sub_cancel' order]
      change (items.take second).drop first ++
        (cut items (second :: rest ++ [items.length])).flatten = _
      rw [others, List.drop_take, ← across, List.take_append_drop]

/-- There is one part between any two bounds that follow one another. -/
@[simp] theorem length_cut (items : List α) (bounds : List Nat) :
    (cut items bounds).length = bounds.length - 1 := by
  induction bounds with
  | nil => rfl
  | cons first rest ih =>
      cases rest with
      | nil => rfl
      | cons second rest => exact congrArg (· + 1) ih

/-- Bounds that ascend from zero to a length. -/
structure Spans (bounds : List Nat) (length : Nat) : Prop where
  ascending : bounds.Pairwise (· ≤ ·)
  first_eq : bounds.head? = some 0
  last_eq : bounds.getLast? = some length

/-- The parts between bounds that ascend from zero to the length make up the whole list. -/
theorem Spans.flatten_cut {items : List α} {bounds : List Nat} (spans : Spans bounds items.length) :
    (cut items bounds).flatten = items := by
  rcases spans with ⟨ascending, first_eq, last_eq⟩
  obtain ⟨others, rfl⟩ := List.getLast?_eq_some_iff.mp last_eq
  cases others with
  | nil =>
      -- A single bound is both zero and the length, so that there is nothing to cut.
      have empty : items.length = 0 := Option.some.inj first_eq
      rw [List.length_eq_zero_iff.mp empty]
      rfl
  | cons first others =>
      cases first_eq
      have before : (0 :: others).Pairwise (· ≤ ·) := (List.pairwise_append.mp ascending).1
      exact Split.flatten_cut items 0 others before

/-- The parts between the bounds in use make up the whole list. -/
theorem flatten_cut_bounds (items : List α) {parts : Nat} (positive : 0 < parts) :
    (cut items (bounds items.length parts)).flatten = items := by
  obtain ⟨others, rfl⟩ : ∃ others, parts = others + 1 := ⟨parts - 1, by omega⟩
  have ascending : ((List.range (others + 1)).map fun part =>
      nearest (part * nearest (items.length * unitSteps) (others + 1)) 1 / unitSteps).Pairwise
        (· ≤ ·) := by
    refine List.pairwise_map.mpr (List.pairwise_le_range.imp ?_)
    intro left right order
    exact Nat.div_le_div_right (nearest_mono (Nat.mul_le_mul_right _ order))
  rw [List.range_succ_eq_map, List.map_cons, List.map_map] at ascending
  unfold bounds
  dsimp only
  rw [List.range_succ_eq_map, List.map_cons, List.map_map, flatten_cut items _ _ ascending]
  simp [nearest_zero]

/-- There are as many parts between the bounds in use as were asked for. -/
theorem length_cut_bounds (items : List α) (parts : Nat) :
    (cut items (bounds items.length parts)).length = parts := by
  simp [bounds]

end Split

theorem Number.partCount?_pos {workers : Number} {items parts : Nat}
    (answer : workers.partCount? items = .ok parts) : 0 < parts := by
  cases workers with
  | whole count =>
      cases answer
      unfold Split.partCount
      omega
  | real count =>
      simp only [partCount?] at answer
      split at answer
      next =>
        cases answer
        omega
      next =>
        split at answer
        next => cases answer
        next =>
          cases answer
          exact Nat.one_pos

/-- A whole number of workers divides items into one part for each, as long as there are so many
items. -/
theorem divide?_whole {α : Type} {count : Int} (some : 1 ≤ count) {items : List α}
    (nonempty : items ≠ []) :
    ∃ parts, divide? (.whole count) items = .ok parts ∧
      (parts.length : Int) = min count items.length ∧ parts.flatten = items := by
  have length_pos := List.length_pos_iff.mpr nonempty
  have count_eq : (Split.partCount items.length count : Int) = min count items.length := by
    unfold Split.partCount
    omega
  refine ⟨_, rfl, ?_, ?_⟩
  · rw [Split.length_cut_bounds, count_eq]
  · apply Split.flatten_cut_bounds
    omega

/-- However many workers there are, they share all items among them. -/
theorem flatten_divide? {α : Type} {workers : Number} {items : List α} {parts : List (List α)}
    (answer : divide? workers items = .ok parts) : parts.flatten = items := by
  unfold divide? at answer
  cases counted : workers.partCount? items.length with
  | error fault =>
      rw [counted] at answer
      cases answer
  | ok count =>
      rw [counted] at answer
      cases answer
      exact Split.flatten_cut_bounds items (Number.partCount?_pos counted)

end HingeRank
