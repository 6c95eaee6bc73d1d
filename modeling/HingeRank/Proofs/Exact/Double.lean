import Mathlib
import HingeRank.Scalar

/-!
# Doubles

Comparisons of doubles, and whole numbers that are too large for one.
-/

namespace HingeRank.Double

/-!
## Doubles

What the comparisons of doubles say, as far as checks of given numbers need it.  Two doubles of
which neither is undefined compare in one way or the other, and exactly the finite ones cancel
themselves.  Both follow from the parts of a double: a sign, a mantissa and an exponent.
-/

section

open Float.Model

variable {x y : Float}

/-! ### Comparisons -/

theorem le_iff : x ≤ y ↔ x.toModel.unpack.le y.toModel.unpack = true := decide_eq_true_iff

theorem lt_iff : x < y ↔ x.toModel.unpack.lt y.toModel.unpack = true := decide_eq_true_iff

/-- Comparing the other way round reverses the answer. -/
theorem compare_swap (left right : UnpackedFloat) :
    right.compare left = (left.compare right).map Ordering.swap := by
  cases left with
  | notANumber => cases right <;> rfl
  | infinity leftSign =>
      cases right with
      | notANumber | zero | finite => cases leftSign <;> rfl
      | infinity rightSign => cases leftSign <;> cases rightSign <;> rfl
  | zero leftSign =>
      cases right with
      | notANumber | zero => rfl
      | infinity rightSign | finite rightSign => cases rightSign <;> rfl
  | finite leftSign leftMantissa leftExponent =>
      cases right with
      | notANumber | zero => cases leftSign <;> rfl
      | infinity rightSign => cases leftSign <;> cases rightSign <;> rfl
      | finite rightSign rightMantissa rightExponent =>
          have exponents : compare rightExponent leftExponent =
              (compare leftExponent rightExponent).swap := Std.OrientedCmp.eq_swap
          have mantissas : compare rightMantissa leftMantissa =
              (compare leftMantissa rightMantissa).swap := Std.OrientedCmp.eq_swap
          cases leftSign <;> cases rightSign <;>
            simp [UnpackedFloat.compare, exponents, mantissas, Ordering.swap_then]

/-- Only what is no number cannot be compared. -/
theorem exists_compare {left right : UnpackedFloat} (leftNumber : left.isNaN = false)
    (rightNumber : right.isNaN = false) : ∃ answer, left.compare right = some answer := by
  cases left with
  | notANumber => cases leftNumber
  | infinity leftSign | finite leftSign | zero leftSign =>
      cases right with
      | notANumber => cases rightNumber
      | infinity rightSign | finite rightSign | zero rightSign =>
          cases leftSign <;> cases rightSign <;> exact ⟨_, rfl⟩

/-- Numbers are comparable. -/
theorem not_lt_iff_le (first : x.isNaN = false) (second : y.isNaN = false) : ¬ x < y ↔ y ≤ x := by
  obtain ⟨answer, compared⟩ := exists_compare first second
  have swapped := compare_swap x.toModel.unpack y.toModel.unpack
  rw [lt_iff, le_iff, UnpackedFloat.lt, UnpackedFloat.le, swapped, compared]
  cases answer <;> decide

/-! ### Finite doubles -/

theorem isNaN_of_isFinite (finite : x.isFinite = true) : x.isNaN = false := by
  have unpacked : x.toModel.unpack.isFinite = true := finite
  change x.toModel.unpack.isNaN = false
  cases parts : x.toModel.unpack with
  | notANumber =>
      rw [parts] at unpacked
      cases unpacked
  | _ => rfl

/-- What is finite cancels itself exactly. -/
theorem sub_self_of_finite (format : Format) {parts : UnpackedFloat}
    (finite : parts.isFinite = true) : UnpackedFloat.sub format parts parts = .zero .positive := by
  cases parts with
  | notANumber | infinity => cases finite
  | zero sign => cases sign <;> rfl
  | finite sign mantissa exponent =>
      have level : compare (0 : Int) 0 = .eq := by decide
      simp only [UnpackedFloat.sub, sub_self, UnpackedFloat.normalize, level]

/-- What is not finite leaves no number. -/
theorem sub_self_of_not_finite (format : Format) {parts : UnpackedFloat}
    (infinite : parts.isFinite = false) : UnpackedFloat.sub format parts parts = .notANumber := by
  cases parts with
  | notANumber => rfl
  | infinity sign => cases sign <;> rfl
  | zero | finite => cases infinite

/-- The finite doubles are those that cancel themselves. -/
@[simp] theorem isFinite_eq (x : Float) : Scalar.isFinite x = x.isFinite := by
  have cancels : Scalar.isFinite x = decide (x - x ≤ 0) := rfl
  have difference : (x - x).toModel =
      pack (UnpackedFloat.sub .binary64 x.toModel.unpack x.toModel.unpack) := rfl
  have same : x.isFinite = x.toModel.unpack.isFinite := rfl
  rw [cancels, same]
  cases finite : x.toModel.unpack.isFinite with
  | true =>
      rw [decide_eq_true_iff, le_iff, difference, sub_self_of_finite _ finite]
      rfl
  | false =>
      rw [decide_eq_false_iff_not, le_iff, difference, sub_self_of_not_finite _ finite]
      exact Bool.false_ne_true

end

/-!
## Whole numbers beyond the doubles

The double nearest to a whole number is infinite exactly from halfway between the largest double
and the next power of two on.  Rounding keeps the leading 53 bits of a number and looks at the bit
behind them, so that only numbers with 1024 bits of which the first 54 are all set are carried
beyond the largest double.
-/

section

open Float.Model Float.Model.UnpackedFloat

/-! ### Rounding -/

theorem shiftRight_succ (bits : ExtendedMantissa) (shift : Nat) :
    bits >>> (shift + 1) = (bits >>> shift).shiftRightOne := rfl

theorem mantissa_shiftRight (bits : ExtendedMantissa) (shift : Nat) :
    (bits >>> shift).mantissa = bits.mantissa / 2 ^ shift := by
  induction shift with
  | zero => exact (Nat.div_one _).symm
  | succ shift ih =>
      rw [shiftRight_succ, ExtendedMantissa.shiftRightOne, ih, Nat.div_div_eq_div_mul, pow_succ]

/-- The bit behind those that are kept. -/
theorem roundBit_shiftRight (bits : ExtendedMantissa) (shift : Nat) :
    (bits >>> (shift + 1)).roundBit = (bits.mantissa / 2 ^ shift % 2 != 0) := by
  rw [shiftRight_succ, ExtendedMantissa.shiftRightOne, mantissa_shiftRight]

/-- An odd mantissa is rounded up exactly if the bit behind it is set. -/
theorem roundedMantissa_of_odd {bits : ExtendedMantissa} (odd : bits.mantissa % 2 = 1) :
    bits.roundedMantissa = bits.mantissa + bits.roundBit.toNat := by
  obtain ⟨mantissa, roundBit, stickyBit⟩ := bits
  cases roundBit <;> cases stickyBit <;>
    simp_all [ExtendedMantissa.roundedMantissa, ExtendedMantissa.accuracy,
      Accuracy.roundToNearestEven]

/-- A mantissa is rounded up by one at most, and only if the bit behind it is set. -/
theorem roundedMantissa_mem (bits : ExtendedMantissa) :
    bits.mantissa ≤ bits.roundedMantissa ∧ bits.roundedMantissa ≤ bits.mantissa + 1 ∧
      (bits.roundedMantissa = bits.mantissa + 1 → bits.roundBit = true) := by
  obtain ⟨mantissa, roundBit, stickyBit⟩ := bits
  cases roundBit <;> cases stickyBit <;>
    simp [ExtendedMantissa.roundedMantissa, ExtendedMantissa.accuracy,
      Accuracy.roundToNearestEven]
  omega

/-- A mantissa with nothing behind it. -/
def exactBits (mantissa : Nat) : ExtendedMantissa := ⟨mantissa, false, false⟩

/-- A mantissa of `53 + shift` bits loses `shift` of them. -/
theorem shiftToTargetExponent_eq {mantissa shift : Nat} {exponent : Int}
    (bits : mantissa.log2 = 52 + shift) (normal : -1074 ≤ exponent + shift) :
    shiftToTargetExponent .binary64 mantissa exponent .exact =
      (exactBits mantissa >>> shift, exponent + shift) := by
  have target : Format.binary64.targetExponent (totalExponent mantissa exponent) =
      exponent + shift := by
    simp only [Format.targetExponent, totalExponent, Format.mantissaBits, Format.minExponent, bits]
    norm_num
    omega
  have distance : (exponent + shift - exponent).toNat = shift := by omega
  rw [shiftToTargetExponent, target, shiftToExponent, distance]
  rfl

/-- What is left of a mantissa that loses its last bits. -/
def keptBits (mantissa shift : Nat) : Nat := (exactBits mantissa >>> shift).roundedMantissa

theorem quotient_mem {mantissa shift : Nat} (bits : mantissa.log2 = 52 + shift) :
    2 ^ 52 ≤ mantissa / 2 ^ shift ∧ mantissa / 2 ^ shift < 2 ^ 53 := by
  have nonzero : mantissa ≠ 0 := by
    rintro rfl
    rw [Nat.log2_zero] at bits
    omega
  have leading := (Nat.log2_eq_iff nonzero).mp bits
  rw [Nat.le_div_iff_mul_le (Nat.two_pow_pos shift), Nat.div_lt_iff_lt_mul (Nat.two_pow_pos shift),
    ← pow_add, ← pow_add]
  refine ⟨leading.1, leading.2.trans_eq (congrArg _ ?_)⟩
  omega

theorem keptBits_mem {mantissa shift : Nat} (bits : mantissa.log2 = 52 + shift) :
    2 ^ 52 ≤ keptBits mantissa shift ∧ keptBits mantissa shift ≤ 2 ^ 53 := by
  have quotient := quotient_mem bits
  have rounded := roundedMantissa_mem (exactBits mantissa >>> shift)
  rw [mantissa_shiftRight] at rounded
  exact ⟨quotient.1.trans rounded.1, rounded.2.1.trans quotient.2⟩

/-- A number is rounded in two shifts, of which the second one undoes a carry. -/
theorem round_of_shifts {format : Format} (sign : Sign) {mantissa : Nat}
    {exponent middle final : Int} {kept left : ExtendedMantissa}
    (first : shiftToTargetExponent format mantissa exponent .exact = (kept, middle))
    (second : shiftToTargetExponent format kept.roundedMantissa middle .exact = (left, final))
    (positive : 0 < left.mantissa) :
    roundWithAccuracy format sign mantissa exponent .exact =
      .finite sign left.mantissa final positive := by
  simp only [roundWithAccuracy, first, second]
  exact dif_neg positive.ne'

section Rounding

variable (sign : Sign) {mantissa shift : Nat} (exponent : Int)

/-- Rounding keeps 53 bits. -/
theorem round_of_short (bits : mantissa.log2 = 52 + shift) (normal : -1074 ≤ exponent + shift)
    (short : keptBits mantissa shift < 2 ^ 53) :
    ∃ positive, roundWithAccuracy .binary64 sign mantissa exponent .exact =
      .finite sign (keptBits mantissa shift) (exponent + shift) positive := by
  have least := (keptBits_mem bits).1
  have positive : 0 < keptBits mantissa shift := by omega
  have leading : (keptBits mantissa shift).log2 = 52 + 0 :=
    (Nat.log2_eq_iff positive.ne').mpr ⟨least, short⟩
  have first := shiftToTargetExponent_eq bits normal
  have second :
      shiftToTargetExponent .binary64 (keptBits mantissa shift) (exponent + shift) .exact =
        (exactBits (keptBits mantissa shift) >>> 0, exponent + shift + (0 : Nat)) :=
    shiftToTargetExponent_eq leading (by simpa)
  rw [Nat.cast_zero, add_zero] at second
  exact ⟨positive, round_of_shifts sign first second positive⟩

/-- If the bits are carried to the next power of two, one bit less is kept. -/
theorem round_of_carried (bits : mantissa.log2 = 52 + shift) (normal : -1074 ≤ exponent + shift)
    (carried : keptBits mantissa shift = 2 ^ 53) :
    ∃ positive, roundWithAccuracy .binary64 sign mantissa exponent .exact =
      .finite sign (2 ^ 52) (exponent + shift + 1) positive := by
  have leading : (keptBits mantissa shift).log2 = 52 + 1 := by rw [carried, Nat.log2_two_pow]
  have first := shiftToTargetExponent_eq bits normal
  have second :
      shiftToTargetExponent .binary64 (keptBits mantissa shift) (exponent + shift) .exact =
        (exactBits (keptBits mantissa shift) >>> 1, exponent + shift + (1 : Nat)) :=
    shiftToTargetExponent_eq leading (by omega)
  have halved : (exactBits (keptBits mantissa shift) >>> 1).mantissa = 2 ^ 52 := by
    rw [carried]
    rfl
  have positive : 0 < (exactBits (keptBits mantissa shift) >>> 1).mantissa :=
    halved ▸ Nat.two_pow_pos 52
  have rounded := round_of_shifts sign first second positive
  simp only [halved] at rounded
  exact ⟨_, rounded⟩

end Rounding

/-! ### Packing -/

/-- Only the greatest exponent without a mantissa is infinite. -/
theorem isInf_unpack_iff (sign : Sign) (exponent : BitVec 11) (mantissa : BitVec 52) :
    (UnpackedFloat.unpack .binary64 (packComponents .binary64 sign exponent mantissa)).isInf =
        true ↔ exponent = -1#11 ∧ mantissa = 0#52 := by
  simp only [UnpackedFloat.unpack, unpackExponent_packComponents, unpackMantissa_packComponents]
  split
  next greatest =>
    split
    next zero => exact iff_of_true rfl ⟨greatest, zero⟩
    next nonzero => exact iff_of_false Bool.false_ne_true fun both => nonzero both.2
  next lower =>
    refine iff_of_false ?_ fun both => lower both.1
    split
    · split <;> exact Bool.false_ne_true
    · exact Bool.false_ne_true

section Packing

variable (sign : Sign) {mantissa : Nat} (exponent : Int) (positive : 0 < mantissa)

/-- A number is packed by its exponent, which is stored as a count, and its leading bit is left
out. -/
theorem pack_finite_eq : UnpackedFloat.pack .binary64 (.finite sign mantissa exponent positive) =
    if 972 ≤ exponent then packedInfinity .binary64 sign
    else if mantissa.log2 = 52 then
      packComponents .binary64 sign (.ofNat 11 (exponent + 1075).toNat) (.ofNat 52 mantissa)
    else packComponents .binary64 sign 0#11 (.ofNat 52 mantissa) := by
  have bias : (Format.binary64.exponentBias : Int) = 1023 := rfl
  have fraction : (Format.binary64.mantissaBitsWithoutImplicit : Int) = 52 := rfl
  have stored : exponent + 1023 + 52 = exponent + 1075 := by ring
  have beyond :
      2 ^ Format.binary64.exponentBits ≤ (exponent + 1075).toNat + 1 ↔ 972 ≤ exponent := by
    change 2 ^ 11 ≤ _ ↔ _
    omega
  have long : mantissa.log2 + 1 = Format.binary64.mantissaBits ↔ mantissa.log2 = 52 :=
    Nat.succ_inj
  simp only [UnpackedFloat.pack, bias, fraction, stored, beyond, long]

/-- A number of this size is packed as infinite. -/
theorem isInf_pack_iff :
    (Float.Model.pack (.finite sign mantissa exponent positive)).unpack.isInf = true ↔
      972 ≤ exponent := by
  change (UnpackedFloat.unpack .binary64 (UnpackedFloat.pack .binary64
    (.finite sign mantissa exponent positive))).isInf = true ↔ _
  rw [pack_finite_eq]
  split
  next beyond =>
    refine iff_of_true ?_ beyond
    rw [packedInfinity, isInf_unpack_iff]
    exact ⟨rfl, rfl⟩
  next within =>
    refine iff_of_false ?_ within
    split
    next =>
      rw [isInf_unpack_iff]
      rintro ⟨greatest, -⟩
      have same : (exponent + 1075).toNat % 2 ^ 11 = 2047 := congrArg BitVec.toNat greatest
      omega
    next =>
      rw [isInf_unpack_iff]
      rintro ⟨greatest, -⟩
      exact absurd greatest (by decide)

/-- A number with 53 bits and a small exponent is packed without loss. -/
theorem unpack_pack (bits : mantissa.log2 = 52) (normal : -1074 ≤ exponent)
    (small : exponent < 972) :
    (Float.Model.pack (.finite sign mantissa exponent positive)).unpack =
      .finite sign mantissa exponent positive := by
  have leading := (Nat.log2_eq_iff positive.ne').mp bits
  change UnpackedFloat.unpack .binary64 (UnpackedFloat.pack .binary64
    (.finite sign mantissa exponent positive)) = _
  rw [pack_finite_eq, if_neg (not_le.mpr small), if_pos bits]
  simp only [UnpackedFloat.unpack, unpackExponent_packComponents, unpackMantissa_packComponents,
    unpackSign_packComponents, Sign.ofBitVec_toBitVec]
  generalize stored_eq : BitVec.ofNat 11 (exponent + 1075).toNat = stored
  have count : stored.toNat = (exponent + 1075).toNat := by
    rw [← stored_eq, BitVec.toNat_ofNat, Nat.mod_eq_of_lt (by omega)]
  have notGreatest : stored ≠ -1#11 := by
    intro greatest
    have same : stored.toNat = 2047 := congrArg BitVec.toNat greatest
    omega
  have notLeast : stored ≠ 0#11 := by
    intro least
    have same : stored.toNat = 0 := congrArg BitVec.toNat least
    omega
  rw [if_neg notGreatest, if_neg notLeast]
  have mantissa_eq : (1#1 ++ BitVec.ofNat 52 mantissa).toNat = mantissa := by
    rw [BitVec.toNat_append, ← Nat.shiftLeft_add_eq_or_of_lt (BitVec.isLt _), BitVec.toNat_ofNat]
    change 1 <<< 52 + mantissa % 2 ^ 52 = mantissa
    omega
  have exponent_eq : (stored.toNat : Int) - (1023 + 52) = exponent := by omega
  exact UnpackedFloat.finite.congr_simp _ _ rfl _ _ mantissa_eq _ _ exponent_eq _

end Packing

/-! ### Whole numbers -/

/-- Bits are carried exactly if all that are kept are set, and the one behind them. -/
theorem keptBits_eq_iff {mantissa shift : Nat} (bits : mantissa.log2 = 52 + (shift + 1)) :
    keptBits mantissa (shift + 1) = 2 ^ 53 ↔ mantissa / 2 ^ shift = 2 ^ 54 - 1 := by
  have quotient := quotient_mem bits
  have halves : mantissa / 2 ^ (shift + 1) = mantissa / 2 ^ shift / 2 := by
    rw [Nat.div_div_eq_div_mul, pow_succ]
  have mantissa_eq := mantissa_shiftRight (exactBits mantissa) (shift + 1)
  have roundBit_eq := roundBit_shiftRight (exactBits mantissa) shift
  change _ = mantissa / _ at mantissa_eq
  change _ = (mantissa / _ % 2 != 0) at roundBit_eq
  rw [keptBits]
  constructor
  · intro carried
    obtain ⟨-, most, up⟩ := roundedMantissa_mem (exactBits mantissa >>> (shift + 1))
    have behind := up (by omega)
    rw [roundBit_eq, bne_iff_ne] at behind
    omega
  · intro ones
    have odd : (exactBits mantissa >>> (shift + 1)).mantissa % 2 = 1 := by omega
    rw [roundedMantissa_of_odd odd, mantissa_eq, roundBit_eq, halves, ones]
    rfl

/-- Rounding leads beyond the doubles if there are more than 1024 bits, or just as many of which
the first 54 are set. -/
theorem isInf_round_iff (sign : Sign) {mantissa shift : Nat} (exponent : Int)
    (bits : mantissa.log2 = 52 + (shift + 1)) (normal : -1074 ≤ exponent + (shift + 1 : Nat)) :
    (Float.Model.pack (roundWithAccuracy .binary64 sign mantissa exponent .exact)).unpack.isInf =
        true ↔
      972 ≤ exponent + (shift + 1 : Nat) ∨
        971 = exponent + (shift + 1 : Nat) ∧ mantissa / 2 ^ shift = 2 ^ 54 - 1 := by
  rw [← keptBits_eq_iff bits]
  by_cases carried : keptBits mantissa (shift + 1) = 2 ^ 53
  · obtain ⟨positive, rounded⟩ := round_of_carried sign exponent bits normal carried
    rw [rounded, isInf_pack_iff]
    omega
  · have short := lt_of_le_of_ne (keptBits_mem bits).2 carried
    obtain ⟨positive, rounded⟩ := round_of_short sign exponent bits normal short
    rw [rounded, isInf_pack_iff]
    omega

/-- A whole number of more than 53 bits is rounded. -/
theorem toModel_ofNat_of_large {number : Nat} (large : 2 ^ 53 ≤ number) :
    (Float.ofNat number).toModel = Float.Model.pack
      (roundWithAccuracy .binary64 .positive (number * 2 ^ 53) (-53) .exact) := by
  have scientific : (Float.ofNat number).toModel =
      Float.Model.pack (UnpackedFloat.ofScientific .binary64 number 0) := by
    change (Float.ofScientific number false 0).toModel = _
    rw [Float.ofScientific, dif_neg (by omega)]
    rfl
  have range : (2 : Int) ^ Format.binary64.exponentBits = 2048 := rfl
  rw [scientific, UnpackedFloat.ofScientific, dif_neg (by omega), if_neg (by decide),
    if_neg (by omega), if_pos le_rfl, ← Nat.shiftLeft_eq]
  have single : number <<< 53 * 10 ^ (0 : Int).toNat = number <<< 53 := Nat.mul_one _
  change Float.Model.pack (roundWithAccuracy .binary64 .positive
    (number <<< 53 * 10 ^ (0 : Int).toNat) (-53) .exact) = _
  rw [single]

theorem log2_mul_two_pow {number : Nat} (nonzero : number ≠ 0) (shift : Nat) :
    (number * 2 ^ shift).log2 = number.log2 + shift := by
  have leading := (Nat.log2_eq_iff nonzero).mp rfl
  rw [Nat.log2_eq_iff (Nat.mul_ne_zero nonzero (Nat.two_pow_pos shift).ne'), pow_add,
    add_right_comm, pow_add]
  have unit := Nat.two_pow_pos shift
  exact ⟨Nat.mul_le_mul_right _ leading.1, Nat.mul_lt_mul_of_pos_right leading.2 unit⟩

/-- The least whole number that is too large for a double, halfway between the largest double and
the next power of two. -/
def leastInfinite : Nat := 2 ^ 1024 - 2 ^ 970

/-- Counted in halves of the last bit of the largest double. -/
theorem leastInfinite_eq : leastInfinite = (2 ^ 54 - 1) * 2 ^ 970 := by
  rw [leastInfinite, Nat.sub_mul, ← pow_add, one_mul]

theorem isInf_ofNat_of_large {number : Nat} (large : 2 ^ 53 ≤ number) :
    (Float.ofNat number).isInf = true ↔ leastInfinite ≤ number := by
  have nonzero : number ≠ 0 := by omega
  have leading := (Nat.log2_eq_iff nonzero).mp rfl
  have bits : (number * 2 ^ 53).log2 = 52 + (number.log2 + 1) := by
    rw [log2_mul_two_pow nonzero]
    omega
  have rounded := isInf_round_iff .positive (-53) bits (by omega)
  have unit : 0 < 2 ^ 970 := by positivity
  change (Float.ofNat number).toModel.unpack.isInf = true ↔ _
  rw [toModel_ofNat_of_large large, rounded, leastInfinite_eq]
  -- Only numbers of as many bits as the largest double need a look at their leading bits.
  rcases lt_trichotomy number.log2 1023 with below | level | above
  · have short : number.log2 + 1 ≤ 53 + 970 := below
    have bound : number < 2 ^ 53 * 2 ^ 970 := by
      calc number < 2 ^ (number.log2 + 1) := leading.2
        _ ≤ 2 ^ (53 + 970) := pow_le_pow_right₀ one_le_two short
        _ = 2 ^ 53 * 2 ^ 970 := pow_add 2 53 970
    omega
  · have quotient : number * 2 ^ 53 / 2 ^ number.log2 = number / 2 ^ 970 := by
      have parts : number.log2 = 970 + 53 := level
      rw [parts, pow_add, Nat.mul_div_mul_right _ _ (Nat.two_pow_pos 53)]
    have bound : number < 2 ^ 54 * 2 ^ 970 := by
      have length : number.log2 + 1 = 54 + 970 := congrArg Nat.succ level
      calc number < 2 ^ (number.log2 + 1) := leading.2
        _ = 2 ^ 54 * 2 ^ 970 := by rw [length, pow_add]
    have most : number / 2 ^ 970 < 2 ^ 54 := (Nat.div_lt_iff_lt_mul unit).mpr bound
    rw [quotient, ← Nat.le_div_iff_mul_le unit]
    omega
  · have long : 54 + 970 ≤ number.log2 := above
    have bound : 2 ^ 54 * 2 ^ 970 ≤ number := by
      rw [← pow_add]
      exact (pow_le_pow_right₀ one_le_two long).trans leading.1
    omega

/-- A positive whole number of at most 53 bits is a double, and no large one. -/
theorem exists_unpack_toFloat (word : UInt64) (positive : 0 < word.toNat)
    (small : word.toNat < 2 ^ 53) :
    ∃ mantissa exponent mantissaPos, mantissa.log2 = 52 ∧ -52 ≤ exponent ∧ exponent ≤ 0 ∧
      word.toFloat.toModel.unpack = .finite .positive mantissa exponent mantissaPos := by
  obtain ⟨shift, shift_eq⟩ : ∃ shift, word.toNat.log2 + shift = 52 := by
    have bits := (Nat.log2_lt positive.ne').mpr small
    exact ⟨52 - word.toNat.log2, by omega⟩
  have bits : (word.toNat * 2 ^ shift).log2 = 52 + 0 := by
    rw [log2_mul_two_pow positive.ne', shift_eq]
  have normalized : UnpackedFloat.ofUInt64 .binary64 word =
      roundWithAccuracy .binary64 .positive (word.toNat * 2 ^ shift) (-shift) .exact := by
    have sign : compare (word.toNat : Int) 0 = .gt := compare_gt_iff_gt.mpr (by omega)
    have target : Format.binary64.targetExponent (totalExponent word.toNat 0) = -shift := by
      simp only [Format.targetExponent, totalExponent, Format.mantissaBits, Format.minExponent]
      norm_num
      omega
    change UnpackedFloat.normalize .binary64 (word.toNat : Int) 0 .positive = _
    simp only [UnpackedFloat.normalize, sign, UnpackedFloat.round, Int.toNat_natCast, target,
      decreaseExponent, zero_sub, neg_neg, Nat.shiftLeft_eq]
  have nonzero : word.toNat * 2 ^ shift ≠ 0 := by positivity
  have short : keptBits (word.toNat * 2 ^ shift) 0 < 2 ^ 53 :=
    ((Nat.log2_eq_iff nonzero).mp bits).2
  obtain ⟨mantissaPos, rounded⟩ := round_of_short .positive (-shift) bits (by omega) short
  have kept : (keptBits (word.toNat * 2 ^ shift) 0).log2 = 52 :=
    (Nat.log2_eq_iff mantissaPos.ne').mpr ⟨(keptBits_mem bits).1, short⟩
  refine ⟨_, -shift + (0 : Nat), mantissaPos, kept, ?_, ?_, ?_⟩
  · omega
  · omega
  · change (Float.Model.pack (UnpackedFloat.ofUInt64 .binary64 word)).unpack = _
    rw [normalized, rounded, unpack_pack _ _ _ kept (by omega) (by omega)]

theorem isInf_ofNat_of_small {number : Nat} (small : number < 2 ^ 53) :
    (Float.ofNat number).isInf = false := by
  have word_eq : number.toUInt64.toNat = number := Nat.mod_eq_of_lt (by omega)
  have product : (Float.ofNat number).toModel =
      Float.Model.pack (UnpackedFloat.mul .binary64 number.toUInt64.toFloat.toModel.unpack
        (Float.ofBits 4607182418800017408).toModel.unpack) := by
    change (Float.ofScientific number false 0).toModel = _
    rw [Float.ofScientific, dif_pos ⟨small, by decide⟩]
    rfl
  have one : ∃ positive, (Float.ofBits 4607182418800017408).toModel.unpack =
      .finite .positive (2 ^ 52) (-52) positive := ⟨by decide, by rfl⟩
  rcases Nat.eq_zero_or_pos number with rfl | positive
  · decide
  · obtain ⟨mantissa, exponent, mantissaPos, bits, least, most, unpacked⟩ :=
      exists_unpack_toFloat number.toUInt64 (by omega) (by omega)
    obtain ⟨onePos, one_eq⟩ := one
    change (Float.ofNat number).toModel.unpack.isInf = false
    have productBits : (mantissa * 2 ^ 52).log2 = 52 + (51 + 1) := by
      rw [log2_mul_two_pow mantissaPos.ne', bits]
    have rounded := isInf_round_iff .positive (exponent + -52) productBits (by omega)
    rw [product, unpacked, one_eq, ← Bool.not_eq_true]
    change ¬ (Float.Model.pack (roundWithAccuracy .binary64 .positive (mantissa * 2 ^ 52)
      (exponent + -52) .exact)).unpack.isInf = true
    rw [rounded]
    omega

/-- A whole number is nearest to infinity from halfway between the largest double and the next
power of two on. -/
@[simp] theorem isInf_ofNat_iff (number : Nat) :
    (Float.ofNat number).isInf = true ↔ leastInfinite ≤ number := by
  rcases lt_or_ge number (2 ^ 53) with small | large
  · have unit : 0 < 2 ^ 970 := by positivity
    rw [isInf_ofNat_of_small small, leastInfinite_eq]
    refine iff_of_false Bool.false_ne_true ?_
    omega
  · exact isInf_ofNat_of_large large

@[simp] theorem isInf_neg (x : Float) : (-x).isInf = x.isInf := by
  have repacked : (Float.Model.pack x.toModel.unpack).unpack = x.toModel.unpack :=
    congrArg (UnpackedFloat.unpack .binary64) (pack_unpack_of_valid x.toModel.valid)
  change (Float.Model.pack x.toModel.unpack.neg).unpack.isInf = x.toModel.unpack.isInf
  cases parts : x.toModel.unpack with
  | notANumber => decide
  | infinity sign | zero sign => cases sign <;> decide
  | finite sign mantissa exponent positive =>
      have unchanged := isInf_pack_iff sign exponent positive
      rw [parts] at repacked
      rw [repacked] at unchanged
      rw [Bool.eq_iff_iff, unchanged]
      exact isInf_pack_iff (-sign) exponent positive

/-- **Overflow**: whole numbers of this size are too large for a double, and no others. -/
@[simp] theorem isInf_ofInt_iff (number : Int) :
    (Float.ofInt number).isInf = true ↔ leastInfinite ≤ number.natAbs := by
  cases number with
  | ofNat number => exact isInf_ofNat_iff number
  | negSucc number =>
      have negated : (Float.ofInt (.negSucc number)).isInf = (Float.ofNat (number + 1)).isInf :=
        isInf_neg _
      rw [negated]
      exact isInf_ofNat_iff (number + 1)

end

end HingeRank.Double
