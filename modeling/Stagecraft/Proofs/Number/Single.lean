import Mathlib
import Stagecraft.Number.Single

/-!
# Widening and narrowing

A binary32 value that is widened and narrowed again is the same, bit for bit. Both
formats give a value the exponent that its leading digit asks for. Widening only adds
zeros behind the digits, so that nothing is rounded, and narrowing shifts the same
zeros out.
-/

namespace Stagecraft.Single

open Float.Model Float.Model.UnpackedFloat

variable {format : Format} {sign : Sign} {mantissa : Nat} {exponent : Int}

/-! ## Digits -/

section Digits

variable {width : Nat} (bits : BitVec width)

theorem toNat_one_append : (1#1 ++ bits).toNat = 2 ^ width + bits.toNat := by
  rw [BitVec.toNat_append, ← Nat.shiftLeft_add_eq_or_of_lt bits.isLt]
  simp [Nat.shiftLeft_eq]

theorem log2_one_append : (1#1 ++ bits).toNat.log2 = width := by
  have bound := bits.isLt
  rw [Nat.log2_eq_iff (by simp), toNat_one_append, Nat.pow_succ]
  omega

theorem log2_toNat_lt (positive : 0 < bits.toNat) :
    bits.toNat.log2 < width :=
  (Nat.log2_lt (Nat.ne_of_gt positive)).mpr bits.isLt

end Digits

/-! ## Formats -/

theorem two_pow_exponentBits (format : Format) :
    2 ^ format.exponentBits = 2 * format.exponentBias + 2 := by
  have some := format.he
  have positive : 0 < 2 ^ (format.exponentBits - 1) := Nat.two_pow_pos _
  have halves :
      2 ^ format.exponentBits = 2 ^ (format.exponentBits - 1) * 2 := by
    rw [← Nat.pow_succ]
    congr 1
    omega
  unfold Format.exponentBias
  omega

theorem minExponent_eq (format : Format) :
    format.minExponent =
      1 - (format.exponentBias : Int) - format.mantissaBitsWithoutImplicit := by
  have positive : 0 < 2 ^ (format.exponentBits - 1) := Nat.two_pow_pos _
  have cast : ((2 ^ (format.exponentBits - 1) : Nat) : Int) =
      2 ^ (format.exponentBits - 1) := by simp
  unfold Format.minExponent Format.exponentBias Format.mantissaBits
  omega

/-- Whether a mantissa and an exponent are those of a finite value of a format: the
exponent is the one that the leading digit asks for, and not too large. -/
structure Fits (format : Format) (mantissa : Nat) (exponent : Int) : Prop where
  canonical :
    format.targetExponent (totalExponent mantissa exponent) = exponent
  inRange : exponent ≤
    (format.exponentBias : Int) - format.mantissaBitsWithoutImplicit

/-! ## Unpacking -/

theorem fits_of_unpack (range : 0 < format.exponentBias)
    {bits : BitVec format.numBits} {positive : 0 < mantissa}
    (unpacked : UnpackedFloat.unpack format bits =
      .finite sign mantissa exponent positive) :
    Fits format mantissa exponent := by
  have capacity := two_pow_exponentBits format
  have least := minExponent_eq format
  revert unpacked
  fun_cases UnpackedFloat.unpack format bits with
  | case1 | case2 | case3 => exact fun unpacked => nomatch unpacked
  | case4 digits biased power signBit ownSign _ empty =>
      intro unpacked
      obtain ⟨-, rfl, reached⟩ := UnpackedFloat.finite.inj unpacked
      have short := log2_toNat_lt digits positive
      simp only [power, empty, BitVec.toNat_zero] at reached
      refine ⟨?_, by omega⟩
      rw [Format.targetExponent, totalExponent, Format.mantissaBits]
      omega
  | case5 digits biased power signBit ownSign notFull notEmpty =>
      intro unpacked
      obtain ⟨-, rfl, reached⟩ := UnpackedFloat.finite.inj unpacked
      have above : biased.toNat ≠ 0 := fun same =>
        notEmpty (BitVec.eq_of_toNat_eq same)
      have below : biased.toNat ≠ 2 ^ format.exponentBits - 1 := by
        intro same
        refine notFull (BitVec.eq_of_toNat_eq ?_)
        rw [same, BitVec.neg_one_eq_allOnes, BitVec.toNat_allOnes]
      have bound := biased.isLt
      simp only [power] at reached
      refine ⟨?_, by omega⟩
      rw [Format.targetExponent, totalExponent, log2_one_append,
        Format.mantissaBits]
      omega

/-! ## Packing -/

theorem unpack_packComponents_normal {biased : BitVec format.exponentBits}
    {digits : BitVec format.mantissaBitsWithoutImplicit}
    (above : 0 < biased.toNat)
    (below : biased.toNat + 1 < 2 ^ format.exponentBits) :
    UnpackedFloat.unpack format (packComponents format sign biased digits) =
      .finite sign (1#1 ++ digits).toNat
        (biased.toNat -
          (format.exponentBias + format.mantissaBitsWithoutImplicit))
        (by simp) := by
  rw [UnpackedFloat.unpack]
  simp only [unpackExponent_packComponents, unpackMantissa_packComponents,
    unpackSign_packComponents, Sign.ofBitVec_toBitVec]
  rw [if_neg, if_neg]
  · rintro rfl
    exact absurd above (by simp)
  · rintro rfl
    rw [BitVec.neg_one_eq_allOnes, BitVec.toNat_allOnes] at below
    omega

theorem unpack_packComponents_subnormal
    {digits : BitVec format.mantissaBitsWithoutImplicit}
    (positive : 0 < digits.toNat) :
    UnpackedFloat.unpack format (packComponents format sign 0#_ digits) =
      .finite sign digits.toNat format.minExponent positive := by
  have notFull : (0#_ : BitVec format.exponentBits) ≠ -1#_ := by
    intro same
    have some := Nat.one_lt_two_pow (Nat.ne_of_gt format.he)
    have sizes := congrArg BitVec.toNat same
    rw [BitVec.neg_one_eq_allOnes, BitVec.toNat_allOnes,
      BitVec.toNat_zero] at sizes
    omega
  have filled : digits ≠ 0#_ := by
    rintro rfl
    exact absurd positive (by simp)
  rw [UnpackedFloat.unpack]
  simp only [unpackExponent_packComponents, unpackMantissa_packComponents,
    unpackSign_packComponents, Sign.ofBitVec_toBitVec]
  rw [if_neg notFull, if_pos trivial, dif_neg filled]
  congr 1
  rw [minExponent_eq, BitVec.toNat_zero]
  omega

/-- A finite value of a format keeps its mantissa and exponent when it is
packed. -/
theorem unpack_pack (positive : 0 < mantissa)
    (fits : Fits format mantissa exponent) :
    UnpackedFloat.unpack format
        (UnpackedFloat.pack format (.finite sign mantissa exponent positive)) =
      .finite sign mantissa exponent positive := by
  have capacity := two_pow_exponentBits format
  have least := minExponent_eq format
  obtain ⟨canonical, inRange⟩ := fits
  rw [Format.targetExponent, totalExponent, Format.mantissaBits] at canonical
  obtain ⟨biased, reached⟩ := Int.eq_ofNat_of_zero_le
    (show 0 ≤ exponent + format.exponentBias +
      format.mantissaBitsWithoutImplicit by omega)
  rw [UnpackedFloat.pack, Format.mantissaBits]
  simp only [reached, Int.toNat_natCast]
  rw [if_neg (by omega)]
  split
  · next whole =>
      obtain ⟨low, high⟩ := (Nat.log2_eq_iff (Nat.ne_of_gt positive)).mp
        (show mantissa.log2 = format.mantissaBitsWithoutImplicit by omega)
      have kept : (BitVec.ofNat format.exponentBits biased).toNat = biased := by
        rw [BitVec.toNat_ofNat, Nat.mod_eq_of_lt (by omega)]
      have filled : (1#1 ++ BitVec.ofNat format.mantissaBitsWithoutImplicit
          mantissa).toNat = mantissa := by
        rw [Nat.pow_succ] at high
        rw [toNat_one_append, BitVec.toNat_ofNat, Nat.mod_eq_sub_mod low,
          Nat.mod_eq_of_lt (by omega)]
        omega
      rw [unpack_packComponents_normal (by omega) (by omega)]
      simp only [filled, kept]
      congr 1
      omega
  · next short =>
      have small := (Nat.log2_lt (Nat.ne_of_gt positive)).mp
        (show mantissa.log2 < format.mantissaBitsWithoutImplicit by omega)
      have kept : (BitVec.ofNat format.mantissaBitsWithoutImplicit
          mantissa).toNat = mantissa := by
        rw [BitVec.toNat_ofNat, Nat.mod_eq_of_lt small]
      rw [unpack_packComponents_subnormal (by omega)]
      simp only [kept]
      congr 1
      omega

/-! ## Rounding -/

theorem shiftLeft_pos (positive : 0 < mantissa) (count : Nat) :
    0 < mantissa <<< count := by
  rw [Nat.shiftLeft_eq]
  exact Nat.mul_pos positive (Nat.two_pow_pos count)

theorem log2_shiftLeft (positive : 0 < mantissa) (count : Nat) :
    (mantissa <<< count).log2 = mantissa.log2 + count := by
  induction count with
  | zero => rfl
  | succ count inductionHypothesis =>
      have apart := Nat.ne_of_gt (shiftLeft_pos positive count)
      rw [Nat.shiftLeft_succ, Nat.log2_two_mul apart, inductionHypothesis,
        Nat.add_assoc]

/-- Zeros behind the digits of a value do not move its leading digit. -/
theorem totalExponent_shiftLeft (positive : 0 < mantissa) (exponent : Int)
    (count : Nat) :
    totalExponent (mantissa <<< count) (exponent - count) =
      totalExponent mantissa exponent := by
  rw [totalExponent, totalExponent, log2_shiftLeft positive]
  omega

/-- To shift zeros out leaves nothing to round. -/
theorem shiftRight_shiftLeft (mantissa count : Nat) :
    (⟨mantissa <<< count, false, false⟩ : ExtendedMantissa) >>> count =
      ⟨mantissa, false, false⟩ := by
  change count.repeat ExtendedMantissa.shiftRightOne _ = _
  induction count generalizing mantissa with
  | zero => rfl
  | succ count inductionHypothesis =>
      have halved := inductionHypothesis (2 * mantissa)
      rw [Nat.repeat, Nat.shiftLeft_succ_inside, halved]
      simp [ExtendedMantissa.shiftRightOne]

section Canonical

variable (sign)
  (canonical : format.targetExponent (totalExponent mantissa exponent) = exponent)
  (positive : 0 < mantissa) (count : Nat)

include canonical positive

theorem shiftToTargetExponent_shiftLeft :
    shiftToTargetExponent format (mantissa <<< count) (exponent - count)
        .exact =
      (⟨mantissa, false, false⟩, exponent) := by
  have shift : (exponent - (exponent - (count : Int))).toNat = count := by omega
  rw [shiftToTargetExponent, totalExponent_shiftLeft positive, canonical]
  simp only [shiftToExponent, ExtendedMantissa.ofMantissaAndAccuracy, shift,
    shiftRight_shiftLeft]
  rw [Int.sub_add_cancel]

theorem roundWithAccuracy_shiftLeft :
    roundWithAccuracy format sign (mantissa <<< count) (exponent - count)
        .exact =
      .finite sign mantissa exponent positive := by
  have first := shiftToTargetExponent_shiftLeft canonical positive count
  have second := shiftToTargetExponent_shiftLeft canonical positive 0
  rw [Nat.shiftLeft_zero, Int.natCast_zero, Int.sub_zero] at second
  have rounded :
      ExtendedMantissa.roundedMantissa ⟨mantissa, false, false⟩ = mantissa :=
    rfl
  rw [roundWithAccuracy, first]
  simp only [rounded, second]
  rw [dif_neg (Nat.ne_of_gt positive)]

/-- Rounding to a format finds a value of it again behind any number of zeros. -/
theorem round_shiftLeft :
    UnpackedFloat.round format sign (mantissa <<< count) (exponent - count) =
      .finite sign mantissa exponent positive := by
  have still : (exponent - count - exponent).toNat = 0 := by omega
  rw [UnpackedFloat.round, totalExponent_shiftLeft positive, canonical]
  simp only [decreaseExponent, still, Nat.shiftLeft_zero, Int.natCast_zero,
    Int.sub_zero]
  exact roundWithAccuracy_shiftLeft sign canonical positive count

end Canonical

/-- A format with room for all digits of a value only puts zeros behind them. -/
theorem exists_round_eq_shiftLeft (sign : Sign) (positive : 0 < mantissa)
    (room : format.targetExponent (totalExponent mantissa exponent) ≤
      exponent) :
    ∃ count : Nat,
      format.targetExponent (totalExponent mantissa exponent) =
          exponent - count ∧
        UnpackedFloat.round format sign mantissa exponent =
          .finite sign (mantissa <<< count) (exponent - count)
            (shiftLeft_pos positive count) := by
  obtain ⟨count, apart⟩ := Int.le.dest room
  have reached : format.targetExponent (totalExponent mantissa exponent) =
      exponent - count := by omega
  have canonical := totalExponent_shiftLeft positive exponent count ▸ reached
  have shift : (exponent - (exponent - (count : Int))).toNat = count := by omega
  have rounded := roundWithAccuracy_shiftLeft sign canonical
    (shiftLeft_pos positive count) 0
  rw [Nat.shiftLeft_zero, Int.natCast_zero, Int.sub_zero] at rounded
  refine ⟨count, reached, ?_⟩
  rw [UnpackedFloat.round, reached]
  simp only [decreaseExponent, shift]
  exact rounded

/-! ## Both conversions -/

theorem unpack_ofBits {value : UnpackedFloat}
    (kept : UnpackedFloat.unpack .binary64
      (UnpackedFloat.pack .binary64 value) = value) :
    UnpackedFloat.unpack .binary64 (Float.ofBits
      ⟨UnpackedFloat.pack .binary64 value⟩).toBits.toBitVec = value := by
  change UnpackedFloat.unpack .binary64 (UnpackedFloat.pack .binary64
    (UnpackedFloat.unpack .binary64 (UnpackedFloat.pack .binary64 value))) = _
  rw [kept, kept]

theorem ofBits_pack_unpack (value : Float32) :
    Float32.ofBits ⟨UnpackedFloat.pack .binary32
      (UnpackedFloat.unpack .binary32 value.toBits.toBitVec)⟩ = value := by
  have own : UnpackedFloat.pack .binary32 (UnpackedFloat.unpack .binary32
      value.toBits.toBitVec) = value.toBits.toBitVec :=
    pack_unpack_of_valid value.toModel.valid
  rw [own]
  exact value.ofBits_toBits

/-- All digits of a binary32 value have room in binary64. -/
theorem targetExponent_binary64_le (fits : Fits .binary32 mantissa exponent) :
    Format.binary64.targetExponent (totalExponent mantissa exponent) ≤
      exponent := by
  have least : Format.binary32.minExponent = -149 := by decide
  have wideLeast : Format.binary64.minExponent = -1074 := by decide
  have digits : Format.binary32.mantissaBits = 24 := by decide
  have wideDigits : Format.binary64.mantissaBits = 53 := by decide
  have canonical := fits.canonical
  rw [Format.targetExponent] at canonical ⊢
  omega

/-- A widened value is narrowed to itself. -/
theorem narrow_widen (value : Float32) : narrow (widen value) = value := by
  have own := ofBits_pack_unpack value
  have fits (sign mantissa exponent positive) :=
    @fits_of_unpack .binary32 sign mantissa exponent (by decide)
      value.toBits.toBitVec positive
  rw [widen]
  generalize UnpackedFloat.unpack .binary32 value.toBits.toBitVec =
    parts at own fits
  cases parts with
  | infinity sign =>
      rw [narrow, unpack_ofBits (by cases sign <;> rfl)]
      exact own
  | notANumber =>
      rw [narrow, unpack_ofBits rfl]
      exact own
  | zero sign =>
      rw [narrow, unpack_ofBits (by cases sign <;> rfl)]
      exact own
  | finite sign mantissa exponent positive =>
      have narrowFits := fits _ _ _ _ rfl
      obtain ⟨count, reached, widened⟩ := exists_round_eq_shiftLeft sign
        positive (targetExponent_binary64_le narrowFits)
      have bias : Format.binary32.exponentBias = 127 := by decide
      have wideBias : Format.binary64.exponentBias = 1023 := by decide
      have inRange := narrowFits.inRange
      have wideFits : Fits .binary64 (mantissa <<< count) (exponent - count) := by
        refine ⟨totalExponent_shiftLeft positive exponent count ▸ reached, ?_⟩
        simp only [bias, wideBias] at inRange ⊢
        omega
      simp only [widened]
      rw [narrow,
        unpack_ofBits (unpack_pack (shiftLeft_pos positive count) wideFits)]
      simp only [round_shiftLeft sign narrowFits.canonical positive count]
      exact own

end Stagecraft.Single
