import Mathlib
import NetworkTwin.Schema

/-!
Doubles by their sign and their size. An amount is a double that is neither negative nor none at
all. A sum of amounts is an amount, however it is rounded, and an amount that is not finite is the
one infinity above all. A natural number that 64 bits hold is far from the greatest double.
-/

namespace NetworkTwin

open Float.Model Float.Model.UnpackedFloat

theorem pack_finite_cases (sign : Sign) (mantissa : Nat) (exponent : Int)
    (positive : 0 < mantissa) :
    (970 < exponent ∧ UnpackedFloat.pack .binary64 (.finite sign mantissa exponent positive) =
      packComponents .binary64 sign (-1#11) 0#52) ∨
    ∃ (code : BitVec 11) (bits : BitVec 52), code.toNat < 2047 ∧
      code.toNat ≤ (exponent + 1075).toNat ∧
      UnpackedFloat.pack .binary64 (.finite sign mantissa exponent positive) =
        packComponents .binary64 sign code bits := by
  have biased : (exponent + Format.binary64.exponentBias +
      Format.binary64.mantissaBitsWithoutImplicit).toNat = (exponent + 1075).toNat := by
    change (exponent + (1023 : Nat) + (52 : Nat)).toNat = _
    omega
  unfold UnpackedFloat.pack
  simp only [biased]
  split
  · exact Or.inl ⟨by omega, rfl⟩
  · split
    · have fits : (exponent + 1075).toNat < 2 ^ 11 := by omega
      refine Or.inr ⟨BitVec.ofNat 11 (exponent + 1075).toNat, _, ?_, ?_, rfl⟩
      · rw [BitVec.toNat_ofNat, Nat.mod_eq_of_lt fits]
        omega
      · rw [BitVec.toNat_ofNat]
        exact Nat.le_of_eq (Nat.mod_eq_of_lt fits)
    · exact Or.inr ⟨0#11, _, by decide, Nat.zero_le _, rfl⟩

theorem not_special_of_lt {code : BitVec 11} (below : code.toNat < 2047) : code ≠ -1#11 := by
  rintro rfl
  exact absurd below (by decide)

/-- A number that is neither negative nor none at all. The sign of a zero does not matter. -/
inductive NonNegative : UnpackedFloat → Prop
  | infinity : NonNegative (.infinity .positive)
  | zero (sign : Sign) : NonNegative (.zero sign)
  | finite (mantissa : Nat) (exponent : Int) (positive : 0 < mantissa) :
      NonNegative (.finite .positive mantissa exponent positive)

namespace NonNegative

theorem unpack {code : BitVec 11} (below : code.toNat < 2047) (mantissa : BitVec 52) :
    NonNegative (.unpack .binary64 (packComponents .binary64 .positive code mantissa)) := by
  unfold UnpackedFloat.unpack
  simp only [unpackMantissa_packComponents, unpackExponent_packComponents,
    unpackSign_packComponents, Sign.ofBitVec_toBitVec, if_neg (not_special_of_lt below)]
  split
  · split
    · exact .zero _
    · exact .finite _ _ _
  · exact .finite _ _ _

theorem pack {number : UnpackedFloat} (amount : NonNegative number) :
    NonNegative (.unpack .binary64 (UnpackedFloat.pack .binary64 number)) := by
  cases amount with
  | infinity => exact .infinity
  | zero sign => cases sign <;> exact .zero _
  | finite mantissa exponent positive =>
      rcases pack_finite_cases .positive mantissa exponent positive with
        ⟨_, packed⟩ | ⟨code, bits, below, _, packed⟩
      · rw [packed]
        exact .infinity
      · rw [packed]
        exact .unpack below bits

theorem round_with_accuracy (mantissa : Nat) (exponent : Int) (accuracy : Accuracy) :
    NonNegative (roundWithAccuracy .binary64 .positive mantissa exponent accuracy) := by
  unfold roundWithAccuracy
  dsimp only
  split
  · exact .zero _
  · exact .finite _ _ _

theorem normalize {mantissa : Int} (atLeast : 0 ≤ mantissa) (exponent : Int) (sign : Sign) :
    NonNegative (.normalize .binary64 mantissa exponent sign) := by
  unfold UnpackedFloat.normalize
  split
  · rename_i below
    rw [Int.compare_eq_lt] at below
    omega
  · exact .zero _
  · exact .round_with_accuracy _ _ _

theorem add {left right : UnpackedFloat} (ofLeft : NonNegative left)
    (ofRight : NonNegative right) : NonNegative (.add .binary64 left right) := by
  cases ofLeft with
  | infinity => cases ofRight <;> exact .infinity
  | zero sign =>
      cases ofRight with
      | infinity => exact .infinity
      | zero other => cases sign <;> cases other <;> exact .zero _
      | finite mantissa exponent positive => exact .finite _ _ _
  | finite mantissa exponent positive =>
      cases ofRight with
      | infinity => exact .infinity
      | zero sign => exact .finite _ _ _
      | finite other place above =>
          exact .normalize (Int.add_nonneg (Int.natCast_nonneg _) (Int.natCast_nonneg _)) _ _

end NonNegative

/-- A finite number whose exponent is not above a limit. -/
inductive Fits (limit : Int) : UnpackedFloat → Prop
  | zero (sign : Sign) : Fits limit (.zero sign)
  | finite (sign : Sign) (mantissa : Nat) {exponent : Int} (positive : 0 < mantissa)
      (within : exponent ≤ limit) : Fits limit (.finite sign mantissa exponent positive)

namespace Fits

variable {limit : Int}

theorem is_finite {number : UnpackedFloat} (fits : Fits limit number) :
    number.isFinite = true := by
  cases fits <;> rfl

theorem mono {greater : Int} {number : UnpackedFloat} (fits : Fits limit number)
    (atMost : limit ≤ greater) : Fits greater number := by
  cases fits with
  | zero sign => exact .zero sign
  | finite sign mantissa positive within =>
      exact .finite sign mantissa positive (Int.le_trans within atMost)

theorem unpack {code : BitVec 11} (below : code.toNat < 2047) (low : -1074 ≤ limit)
    (high : code.toNat ≤ limit + 1075) (sign : Sign) (mantissa : BitVec 52) :
    Fits limit (.unpack .binary64 (packComponents .binary64 sign code mantissa)) := by
  have bias : ((Format.binary64.exponentBias : Nat) : Int) = 1023 := rfl
  unfold UnpackedFloat.unpack
  simp only [unpackMantissa_packComponents, unpackExponent_packComponents,
    unpackSign_packComponents, Sign.ofBitVec_toBitVec, if_neg (not_special_of_lt below), bias]
  split
  · rename_i least
    split
    · exact .zero sign
    · refine .finite sign _ _ ?_
      rw [least]
      exact low
  · refine .finite sign _ _ ?_
    omega

theorem pack {number : UnpackedFloat} (fits : Fits limit number) (low : -1074 ≤ limit)
    (high : limit ≤ 970) :
    Fits limit (.unpack .binary64 (UnpackedFloat.pack .binary64 number)) := by
  cases fits with
  | zero sign => cases sign <;> exact .zero _
  | finite sign mantissa positive within =>
      rename_i exponent
      rcases pack_finite_cases sign mantissa exponent positive with
        ⟨above, _⟩ | ⟨code, bits, below, most, packed⟩
      · omega
      · rw [packed]
        exact .unpack below low (by omega) sign bits

end Fits

/-! Rounding does not make a mantissa greater, but for one in the last place, and moves an exponent
by no more than the mantissa has bits. -/

theorem mantissa_shift_right_le (start : ExtendedMantissa) (places : Nat) :
    (start >>> places).mantissa ≤ start.mantissa := by
  change (places.repeat ExtendedMantissa.shiftRightOne start).mantissa ≤ start.mantissa
  induction places with
  | zero => exact Nat.le_refl _
  | succ places induction => exact Nat.le_trans (Nat.div_le_self _ _) induction

theorem rounded_mantissa_le (number : ExtendedMantissa) :
    number.roundedMantissa ≤ number.mantissa + 1 := by
  rcases number with ⟨mantissa, _ | _, _ | _⟩ <;>
    simp only [ExtendedMantissa.roundedMantissa, ExtendedMantissa.accuracy,
      Accuracy.roundToNearestEven] <;> omega

theorem log_le {mantissa bits : Nat} (below : mantissa < 2 ^ bits) : mantissa.log2 ≤ bits := by
  by_cases none : mantissa = 0
  · subst none
    exact Nat.zero_le bits
  · exact Nat.le_of_lt ((Nat.log2_lt none).2 below)

/-- A number after its mantissa is shifted until it has as many bits as a double. -/
theorem shift_to_target_bounds {mantissa bits : Nat} {exponent limit : Int}
    (below : mantissa < 2 ^ bits) (within : exponent ≤ limit) (low : 0 ≤ limit) :
    (shiftToTargetExponent .binary64 mantissa exponent .exact).1.mantissa ≤ mantissa ∧
      (shiftToTargetExponent .binary64 mantissa exponent .exact).2 ≤ limit + bits := by
  have length := log_le below
  have precision : Format.binary64.mantissaBits = 53 := rfl
  have least : Format.binary64.minExponent = -1074 := rfl
  refine ⟨mantissa_shift_right_le _ _, ?_⟩
  simp only [shiftToTargetExponent, shiftToExponent, Format.targetExponent, totalExponent,
    precision, least]
  omega

theorem Fits.round_with_accuracy {mantissa bits : Nat} {exponent limit : Int}
    (below : mantissa < 2 ^ bits) (within : exponent ≤ limit) (low : 0 ≤ limit) (sign : Sign) :
    Fits (limit + 2 * bits + 1) (roundWithAccuracy .binary64 sign mantissa exponent .exact) := by
  unfold roundWithAccuracy
  dsimp only
  have shifted := shift_to_target_bounds below within low
  generalize shiftToTargetExponent .binary64 mantissa exponent .exact = first at shifted
  obtain ⟨least, moved⟩ := shifted
  have rounded := rounded_mantissa_le first.1
  have belowNext : first.1.roundedMantissa < 2 ^ (bits + 1) := by
    rw [Nat.pow_succ]
    omega
  have again := (shift_to_target_bounds belowNext moved (by omega)).2
  split
  · exact .zero sign
  · refine .finite sign _ _ ?_
    omega

/-! Amounts -/

/-- A double that is neither negative nor none at all. -/
def IsAmount (value : Float) : Prop := NonNegative value.toModel.unpack

theorem IsAmount.zero : IsAmount 0.0 := by
  have unpacked : (0.0 : Float).toModel.unpack = .zero .positive := by rfl
  rw [IsAmount, unpacked]
  exact .zero _

theorem IsAmount.infinity : IsAmount (1.0 / 0.0) := by
  have unpacked : (1.0 / 0.0 : Float).toModel.unpack = .infinity .positive := by rfl
  rw [IsAmount, unpacked]
  exact .infinity

theorem IsAmount.add {left right : Float} (ofLeft : IsAmount left) (ofRight : IsAmount right) :
    IsAmount (left + right) :=
  (NonNegative.add ofLeft ofRight).pack

theorem is_amount_of_is_quantity {value : Float} (quantity : isQuantity value = true) :
    IsAmount value := by
  obtain ⟨finite, notBelow⟩ := Bool.and_eq_true_iff.1 quantity
  have zero : (0.0 : Float).toModel.unpack = .zero .positive := by rfl
  have finite : value.toModel.unpack.isFinite = true := finite
  have notBelow : ¬ value < 0.0 := by simpa using notBelow
  have notBelow : ¬ value.toModel.unpack.lt (0.0 : Float).toModel.unpack = true := fun below =>
    notBelow (decide_eq_true below)
  rw [zero] at notBelow
  rw [IsAmount]
  cases shape : value.toModel.unpack with
  | notANumber =>
    rw [shape] at finite
    cases finite
  | infinity sign =>
    rw [shape] at finite
    cases finite
  | zero sign => exact .zero sign
  | finite sign mantissa exponent positive =>
      cases sign with
      | positive => exact .finite _ _ _
      | negative =>
          rw [shape] at notBelow
          exact absurd rfl notBelow

/-- A finite double is from zero up if it is not below zero. A zero is, whatever its sign. -/
theorem zero_le_iff_not_lt {value : Float} (finite : value.isFinite = true) :
    0.0 ≤ value ↔ ¬ value < 0.0 := by
  have finite : value.toModel.unpack.isFinite = true := finite
  have zero : (0.0 : Float).toModel.unpack = .zero .positive := by rfl
  have atLeast : 0.0 ≤ value ↔ (0.0 : Float).toModel.unpack.le value.toModel.unpack = true :=
    ⟨of_decide_eq_true, decide_eq_true⟩
  have below : value < 0.0 ↔ value.toModel.unpack.lt (0.0 : Float).toModel.unpack = true :=
    ⟨of_decide_eq_true, decide_eq_true⟩
  rw [atLeast, below, zero]
  generalize value.toModel.unpack = number at finite
  cases number with
  | notANumber => cases finite
  | infinity => cases finite
  | zero sign => exact iff_of_true rfl Bool.false_ne_true
  | finite sign mantissa exponent positive =>
      cases sign with
      | positive => exact iff_of_true rfl Bool.false_ne_true
      | negative => exact iff_of_false Bool.false_ne_true fun notBelow => notBelow rfl

theorem eq_infinity {value : Float} (infinite : value.toModel.unpack = .infinity .positive) :
    value = 1.0 / 0.0 := by
  have same : value.toModel.unpack = (1.0 / 0.0 : Float).toModel.unpack := infinite
  have bits := (unpack_inj_of_valid value.toModel.valid (1.0 / 0.0 : Float).toModel.valid
    (by decide)).1 same
  exact Float.toBits_inj.1 (UInt64.toBitVec_inj.1 bits)

theorem IsAmount.finite_or_infinite {value : Float} (amount : IsAmount value) :
    value.isFinite = true ∨ value = 1.0 / 0.0 := by
  rw [IsAmount] at amount
  have finite : value.isFinite = value.toModel.unpack.isFinite := rfl
  rw [finite]
  generalize shape : value.toModel.unpack = number at amount
  cases amount with
  | infinity => exact Or.inr (eq_infinity shape)
  | zero sign => exact Or.inl rfl
  | finite mantissa exponent positive => exact Or.inl rfl

/-! Natural numbers that 64 bits hold -/

theorem shift_left_lt {number bits places most : Nat} (below : number < 2 ^ bits)
    (atMost : places ≤ most) : number <<< places < 2 ^ (bits + most) := by
  rw [Nat.shiftLeft_eq]
  calc number * 2 ^ places
      < 2 ^ bits * 2 ^ places := Nat.mul_lt_mul_of_pos_right below (Nat.two_pow_pos places)
    _ = 2 ^ (bits + places) := (Nat.pow_add 2 bits places).symm
    _ ≤ 2 ^ (bits + most) := Nat.pow_le_pow_right Nat.two_pos (Nat.add_le_add_left atMost bits)

theorem Fits.normalize_nat {number : Nat} (below : number < 2 ^ 64) :
    Fits 233 (.normalize .binary64 number 0 .positive) := by
  unfold UnpackedFloat.normalize
  split
  · rename_i negative
    rw [Int.compare_eq_lt] at negative
    omega
  · exact .zero _
  · have precision : Format.binary64.mantissaBits = 53 := rfl
    have least : Format.binary64.minExponent = -1074 := rfl
    have places : (0 - Format.binary64.targetExponent (totalExponent number 0)).toNat ≤ 52 := by
      simp only [Format.targetExponent, totalExponent, precision, least]
      omega
    have raised : (0 : Int) - (0 - Format.binary64.targetExponent (totalExponent number 0)).toNat ≤
      0 := by omega
    exact .round_with_accuracy (shift_left_lt below places) raised (by decide) .positive

theorem mantissa_unpack_lt {bits : BitVec Format.binary64.numBits} {sign : Sign} {mantissa : Nat}
    {exponent : Int} {positive : 0 < mantissa}
    (unpacked : unpack .binary64 bits = .finite sign mantissa exponent positive) :
    mantissa < 2 ^ 53 := by
  unfold UnpackedFloat.unpack at unpacked
  dsimp only at unpacked
  split at unpacked
  · split at unpacked <;> cases unpacked
  · split at unpacked
    · split at unpacked
      · cases unpacked
      · cases unpacked
        exact Nat.lt_trans (unpackMantissa bits).isLt (by decide)
    · cases unpacked
      exact (1#1 ++ unpackMantissa bits).isLt

theorem Fits.mul_one {bits : BitVec Format.binary64.numBits}
    (fits : Fits 233 (.unpack .binary64 bits)) :
    Fits 970 (.mul .binary64 (.unpack .binary64 bits)
      (.finite .positive (2 ^ 52) (-52) (by decide))) := by
  generalize shape : UnpackedFloat.unpack .binary64 bits = number at fits
  cases fits with
  | zero sign => exact .zero _
  | finite sign mantissa positive within =>
      have product : mantissa * 2 ^ 52 < 2 ^ 105 := by
        have := mantissa_unpack_lt shape
        omega
      have rounded := Fits.round_with_accuracy product (Int.add_le_add_right within (-52))
        (by decide) (sign * .positive)
      exact rounded.mono (by decide)

theorem Fits.of_scientific {number : Nat} (below : number < 2 ^ 64) :
    Fits 970 (.ofScientific .binary64 number 0) := by
  unfold UnpackedFloat.ofScientific
  split
  · exact .zero _
  · have range : (2 ^ Format.binary64.exponentBits : Int) = 2048 := rfl
    have product : number <<< 53 * 10 ^ 0 < 2 ^ (64 + 53) := by
      rw [Nat.pow_zero, Nat.mul_one]
      exact shift_left_lt below (Nat.le_refl 53)
    have rounded := Fits.round_with_accuracy product (show (-53 : Int) + 0 ≤ 0 by decide)
      (by decide) (.positive * .positive)
    rw [if_neg (by decide), if_neg (by omega), if_pos (by decide)]
    exact rounded.mono (by decide)

theorem is_finite_of_nat {number : Nat} (below : number < 2 ^ 64) :
    (Float.ofNat number).isFinite = true := by
  have fits {packed : UnpackedFloat} (small : Fits 970 packed) :
      (Float.ofModel (.pack packed)).isFinite = true :=
    (small.pack (by decide) (by decide)).is_finite
  change (Float.ofScientific number false 0).isFinite = true
  unfold Float.ofScientific
  split
  · have one : (Float.ofBits 0x3FF0000000000000).toModel.unpack =
      .finite .positive (2 ^ 52) (-52) (by decide) := by rfl
    have converted : Fits 233 number.toUInt64.toFloat.toModel.unpack :=
      Fits.pack (.normalize_nat (UInt64.toNat_lt _)) (by decide) (by decide)
    have product := Fits.mul_one converted
    rw [← one] at product
    exact fits product
  · exact fits (.of_scientific below)

end NetworkTwin
