import Mathlib
import EventScript.Number.Arithmetic
import EventScript.Number.Decimal

/-!
How far the doubles that stand for whole numbers, and the products of such doubles, are from what
they stand for. A product is infinite only if the exact product comes within half a unit of the last
place of the first power of two that is too large.
-/

namespace EventScript.Number

open Float.Model Float.Model.UnpackedFloat

/-- The number is `mantissa * 2 ^ exponent`, whatever its sign. -/
def Represents (mantissa : Nat) (exponent : Int) : UnpackedFloat → Prop
  | .finite _ digits power _ => digits = mantissa ∧ power = exponent
  | _ => False

section Packing

theorem unpackMantissa_ofNat (pattern : Nat) :
    (@unpackMantissa Format.binary64 (UInt64.ofNat pattern).toBitVec).toNat =
      pattern % 2 ^ 52 := by
  simp [unpackMantissa]

theorem unpackExponent_ofNat (pattern : Nat) :
    (@unpackExponent Format.binary64 (UInt64.ofNat pattern).toBitVec).toNat =
      pattern / 2 ^ 52 % 2 ^ 11 := by
  simp [unpackExponent]
  omega

theorem toNat_append_one (bits : BitVec Format.binary64.mantissaBitsWithoutImplicit) :
    (1#1 ++ bits).toNat = 2 ^ 52 + bits.toNat := by
  rw [BitVec.toNat_append, ← Nat.shiftLeft_add_eq_or_of_lt bits.isLt]
  simp [Nat.shiftLeft_eq]

theorem field_inside {bits : BitVec Format.binary64.exponentBits} (positive : 0 < bits.toNat)
    (finite : bits.toNat < 2047) : bits ≠ -1#_ ∧ bits ≠ 0#_ := by
  constructor
  · rintro rfl
    simp at finite
  · rintro rfl
    simp at positive

theorem represents_unpack {bits : BitVec Format.binary64.numBits}
    (positive : 0 < (unpackExponent bits).toNat) (finite : (unpackExponent bits).toNat < 2047) :
    Represents (2 ^ 52 + (unpackMantissa bits).toNat) ((unpackExponent bits).toNat - 1075)
      (UnpackedFloat.unpack Format.binary64 bits) := by
  obtain ⟨notLast, notZero⟩ := field_inside positive finite
  simp only [UnpackedFloat.unpack, if_neg notLast, if_neg notZero, Represents]
  exact ⟨toNat_append_one _, rfl⟩

theorem represents_pack {unpacked : UnpackedFloat} {mantissa : Nat} {exponent : Int}
    (represents : Represents mantissa exponent unpacked) (low : 2 ^ 52 ≤ mantissa)
    (high : mantissa < 2 ^ 53) (least : -1074 ≤ exponent) (greatest : exponent ≤ 971) :
    Represents mantissa exponent (UnpackedFloat.unpack Format.binary64
      (UnpackedFloat.pack Format.binary64 unpacked)) := by
  cases unpacked with
  | finite sign digits power pos =>
      obtain ⟨rfl, rfl⟩ := represents
      have bits : digits.log2 + 1 = Format.binary64.mantissaBits := by
        have below : 52 ≤ digits.log2 := (Nat.le_log2 (by omega)).mpr low
        have above : digits.log2 < 53 := (Nat.log2_lt (by omega)).mpr high
        change digits.log2 + 1 = 1 + 52
        omega
      have fits : ¬2 ^ Format.binary64.exponentBits ≤
          (power + Format.binary64.exponentBias + Format.binary64.mantissaBitsWithoutImplicit).toNat
            + 1 := by
        change ¬2048 ≤ (power + 1023 + 52).toNat + 1
        omega
      simp only [UnpackedFloat.pack, if_neg fits, if_pos bits]
      have field :
          (BitVec.ofNat Format.binary64.exponentBits (power + Format.binary64.exponentBias +
          Format.binary64.mantissaBitsWithoutImplicit).toNat).toNat = (power + 1075).toNat := by
        change (power + 1023 + 52).toNat % 2048 = _
        omega
      have fraction : (BitVec.ofNat Format.binary64.mantissaBitsWithoutImplicit digits).toNat =
          digits - 2 ^ 52 := by
        change digits % 2 ^ 52 = _
        omega
      generalize BitVec.ofNat Format.binary64.exponentBits _ = exponentBits at field ⊢
      generalize BitVec.ofNat Format.binary64.mantissaBitsWithoutImplicit _ = fractionBits
        at fraction ⊢
      have unpacked := @represents_unpack
        (packComponents Format.binary64 sign exponentBits fractionBits)
        (by rw [unpackExponent_packComponents, field]; omega)
        (by rw [unpackExponent_packComponents, field]; omega)
      rw [unpackExponent_packComponents, unpackMantissa_packComponents, field, fraction] at unpacked
      convert unpacked using 1 <;> omega
  | _ => exact represents.elim

theorem represents_ofMagnitude {field fraction : Nat} (positive : 0 < field)
    (finite : field < 2047) (within : fraction < 2 ^ 52) :
    Represents (2 ^ 52 + fraction) (field - 1075)
      (ofMagnitude false (field * 2 ^ 52 + fraction)).toFloat.toModel.unpack := by
  have exponent := unpackExponent_ofNat (field * 2 ^ 52 + fraction)
  have mantissa := unpackMantissa_ofNat (field * 2 ^ 52 + fraction)
  rw [Nat.mul_comm, Nat.mul_add_mod, Nat.mod_eq_of_lt within] at mantissa
  rw [Nat.mul_comm, Nat.mul_add_div (by decide), Nat.div_eq_of_lt within, Nat.add_zero,
    Nat.mod_eq_of_lt (by omega)] at exponent
  have unpacked := @represents_unpack (UInt64.ofNat (2 ^ 52 * field + fraction)).toBitVec
    (by rw [exponent]; exact positive) (by rw [exponent]; exact finite)
  rw [exponent, mantissa] at unpacked
  rw [Nat.mul_comm]
  exact represents_pack unpacked (by omega) (by omega) (by omega) (by omega)

end Packing

section Whole

theorem roundedQuotient_bounds (dividend divisor : Nat) :
    dividend / divisor ≤ roundedQuotient dividend divisor ∧
      2 * (roundedQuotient dividend divisor * divisor) ≤ 2 * dividend + divisor := by
  have split := Nat.div_add_mod' dividend divisor
  simp only [roundedQuotient]
  generalize dividend / divisor = quotient at split ⊢
  split
  · rename_i up
    refine ⟨by omega, ?_⟩
    rw [Nat.add_mul, Nat.one_mul]
    omega
  · exact ⟨Nat.le_refl _, by omega⟩

theorem roundedDigits {units power : Nat} (log : units.log2 = power + 52) :
    2 ^ 52 ≤ roundedQuotient units (2 ^ power) ∧ roundedQuotient units (2 ^ power) ≤ 2 ^ 53 ∧
      roundedQuotient units (2 ^ power) * 2 ^ power * 2 ^ 53 ≤ units * (2 ^ 53 + 1) := by
  have nonzero : units ≠ 0 := by
    rintro rfl
    simp at log
  have low : 2 ^ 52 * 2 ^ power ≤ units := by
    rw [← Nat.pow_add, Nat.add_comm, ← log]
    exact Nat.log2_self_le nonzero
  have high : units < 2 ^ 53 * 2 ^ power := by
    rw [← Nat.pow_add, show 53 + power = units.log2 + 1 by omega]
    exact Nat.lt_log2_self
  have width : 0 < 2 ^ power := Nat.two_pow_pos power
  obtain ⟨below, near⟩ := roundedQuotient_bounds units (2 ^ power)
  generalize roundedQuotient units (2 ^ power) = digits at below near ⊢
  refine ⟨?_, ?_, ?_⟩
  · exact ((Nat.le_div_iff_mul_le width).mpr low).trans below
  · by_contra more
    have exceeds : (2 ^ 53 + 1) * 2 ^ power ≤ digits * 2 ^ power :=
      Nat.mul_le_mul_right _ (by omega)
    omega
  · omega

theorem twoTo_eq (exponent : Nat) : twoTo exponent = 2 ^ exponent := rfl

theorem twoTo_add (first second : Nat) : twoTo (first + second) = twoTo first * twoTo second :=
  Nat.pow_add 2 first second

theorem twoTo_mono {first second : Nat} (le : first ≤ second) : twoTo first ≤ twoTo second :=
  Nat.pow_le_pow_right (by decide) le

theorem tenTo_pos (exponent : Nat) : 0 < tenTo exponent := Nat.pow_pos (by decide)

theorem tenTo_mono {first second : Nat} (le : first ≤ second) : tenTo first ≤ tenTo second :=
  Nat.pow_le_pow_right (by decide) le

theorem le_log2_of_twoTo_le {exponent number : Nat} (le : twoTo exponent ≤ number) :
    exponent ≤ number.log2 :=
  (Nat.le_log2 (Nat.ne_of_gt (Nat.lt_of_lt_of_le (Nat.two_pow_pos exponent) le))).mpr le

theorem log2_lt_of_lt {number bound : Nat} (less : number < twoTo bound) (positive : 0 < bound) :
    number.log2 < bound := by
  by_cases zero : number = 0
  · simpa [zero] using positive
  · exact (Nat.log2_lt zero).mpr less

theorem greatestPower_lt : tenTo 308 * unitsPerOne < twoTo 2098 := by decide +kernel

theorem greatestPower_room :
    tenTo 308 * unitsPerOne * (twoTo 53 + 1) < twoTo 53 * twoTo 2045 * twoTo 53 := by
  decide +kernel

theorem represents_units {units power : Nat} (log : units.log2 = power + 52)
    (greatest : units ≤ tenTo 308 * unitsPerOne) :
    ∃ (mantissa shift : Nat), Represents mantissa ((shift : Int) - 1074)
        (ofMagnitude false (min (power * twoTo 52 + roundedQuotient units (twoTo power))
          infiniteMagnitude)).toFloat.toModel.unpack ∧
      2 ^ 52 ≤ mantissa ∧ mantissa < 2 ^ 53 ∧ power ≤ shift ∧
      mantissa * twoTo shift * twoTo 53 ≤ units * (twoTo 53 + 1) := by
  obtain ⟨low, high, near⟩ := roundedDigits log
  have infinite : infiniteMagnitude = 2047 * 2 ^ 52 := rfl
  rw [infinite, twoTo_eq, twoTo_eq]
  have fits : power ≤ 2044 ∨ power = 2045 ∧ roundedQuotient units (2 ^ power) < 2 ^ 53 := by
    have below : units.log2 < 2098 :=
      log2_lt_of_lt (Nat.lt_of_le_of_lt greatest greatestPower_lt) (by decide)
    rcases Nat.lt_or_ge power 2045 with less | more
    · exact .inl (by omega)
    · refine .inr ⟨by omega, Nat.lt_of_le_of_ne high fun carried => ?_⟩
      have last : power = 2045 := by omega
      rw [carried, last, ← twoTo_eq, ← twoTo_eq] at near
      exact Nat.not_le.mpr greatestPower_room (near.trans (Nat.mul_le_mul_right _ greatest))
  clear greatest log
  generalize roundedQuotient units (2 ^ power) = digits at low high near fits ⊢
  rcases Nat.lt_or_eq_of_le high with inside | carried
  · refine ⟨digits, power, ?_, low, inside, Nat.le_refl _, near⟩
    have magnitude : min (power * 2 ^ 52 + digits) (2047 * 2 ^ 52) =
        (power + 1) * 2 ^ 52 + (digits - 2 ^ 52) := by omega
    rw [magnitude]
    convert represents_ofMagnitude (by omega : 0 < power + 1) (by omega)
      (by omega : digits - 2 ^ 52 < 2 ^ 52) using 1 <;> omega
  · refine ⟨2 ^ 52, power + 1, ?_, Nat.le_refl _, by omega, Nat.le_succ _, ?_⟩
    · have magnitude :
          min (power * 2 ^ 52 + digits) (2047 * 2 ^ 52) = (power + 2) * 2 ^ 52 + 0 := by
        omega
      rw [magnitude]
      convert represents_ofMagnitude (by omega : 0 < power + 2) (by omega)
        (by omega : 0 < 2 ^ 52) using 1 <;> omega
    · have same : 2 ^ 52 * twoTo (power + 1) = digits * twoTo power := by
        rw [carried, twoTo_eq, twoTo_eq]
        ring
      rw [same]
      exact near

theorem represents_ofRatio {number : Nat} (positive : 0 < number) (greatest : number ≤ tenTo 308) :
    ∃ (mantissa shift : Nat), Represents mantissa ((shift : Int) - 1074)
        (ofRatio false number 1).toFloat.toModel.unpack ∧
      2 ^ 52 ≤ mantissa ∧ mantissa < 2 ^ 53 ∧ 1022 ≤ shift ∧
      mantissa * twoTo shift * twoTo 53 ≤ number * unitsPerOne * (twoTo 53 + 1) := by
  have units : 1074 ≤ (number * unitsPerOne).log2 :=
    le_log2_of_twoTo_le (Nat.le_mul_of_pos_left _ positive)
  obtain ⟨power, log⟩ : ∃ power, (number * unitsPerOne).log2 = power + 52 :=
    ⟨(number * unitsPerOne).log2 - 52, by omega⟩
  obtain ⟨mantissa, shift, represents, low, high, least, near⟩ :=
    represents_units log (Nat.mul_le_mul_right _ greatest)
  refine ⟨mantissa, shift, ?_, low, high, by omega, near⟩
  simp only [ofRatio, Nat.div_one, log, Nat.add_sub_cancel, Nat.one_mul]
  exact represents

theorem ofDecimal_tenTo {exponent : Nat} (small : exponent ≤ 308) :
    ofDecimal false 1 exponent = ofRatio false (tenTo exponent) 1 := by
  have size : digitCount 1 = 1 := by decide
  have middle : ¬(1 = 0 ∨ (exponent : Int) + (1 : Nat) < -330) := by omega
  have inside : ¬310 < (exponent : Int) + (1 : Nat) := by omega
  have none : (-(exponent : Int)).toNat = 0 := by omega
  simp only [ofDecimal, size, if_neg middle, if_neg inside, Int.toNat_natCast, none, Nat.one_mul]
  rfl

end Whole

section Product

theorem shiftRight_mantissa (digits : ExtendedMantissa) (shift : Nat) :
    (digits >>> shift).mantissa = digits.mantissa / 2 ^ shift := by
  induction shift with
  | zero => simp [HShiftRight.hShiftRight, Nat.repeat]
  | succ shift ih =>
      change (digits >>> shift).mantissa / 2 = _
      rw [ih, Nat.div_div_eq_div_mul, Nat.pow_succ]

theorem shiftRight_roundBit (digits : ExtendedMantissa) (shift : Nat) :
    (digits >>> (shift + 1)).roundBit = (digits.mantissa / 2 ^ shift % 2 != 0) := by
  change ((digits >>> shift).mantissa % 2 != 0) = _
  rw [shiftRight_mantissa]

theorem roundedMantissa_cases (digits : ExtendedMantissa) :
    digits.roundedMantissa = digits.mantissa ∨
      digits.roundBit = true ∧ digits.roundedMantissa = digits.mantissa + 1 := by
  obtain ⟨mantissa, roundBit, stickyBit⟩ := digits
  cases roundBit <;> cases stickyBit <;>
    simp [ExtendedMantissa.roundedMantissa, ExtendedMantissa.accuracy, Accuracy.roundToNearestEven]
  omega

theorem shiftToTarget_small {mantissa : Nat} {exponent : Int} (high : mantissa < 2 ^ 53)
    (least : -1074 ≤ exponent) :
    shiftToTargetExponent Format.binary64 mantissa exponent .exact =
      (⟨mantissa, false, false⟩, exponent) := by
  have log : mantissa.log2 < 53 := log2_lt_of_lt high (by decide)
  have stays : (Format.binary64.targetExponent (totalExponent mantissa exponent) - exponent).toNat =
      0 := by
    simp only [Format.targetExponent, totalExponent, Format.mantissaBits, Format.minExponent]
    omega
  simp [shiftToTargetExponent, shiftToExponent, stays, HShiftRight.hShiftRight, Nat.repeat,
    ExtendedMantissa.ofMantissaAndAccuracy]

theorem shiftToTarget_carried {exponent : Int} (least : -1074 ≤ exponent) :
    shiftToTargetExponent Format.binary64 (2 ^ 53) exponent .exact =
      (⟨2 ^ 52, false, false⟩, exponent + 1) := by
  have moves : Format.binary64.targetExponent (totalExponent (2 ^ 53) exponent) = exponent + 1 := by
    simp only [Format.targetExponent, totalExponent, Nat.log2_two_pow, Format.mantissaBits,
      Format.minExponent]
    omega
  rw [shiftToTargetExponent, moves]
  simp [shiftToExponent, HShiftRight.hShiftRight, Nat.repeat, ExtendedMantissa.shiftRightOne,
    ExtendedMantissa.ofMantissaAndAccuracy]

theorem floor_bounds {mantissa shift : Nat} (log : mantissa.log2 = shift + 53) :
    2 ^ 52 ≤ mantissa / 2 ^ (shift + 1) ∧ mantissa / 2 ^ (shift + 1) < 2 ^ 53 := by
  have nonzero : mantissa ≠ 0 := by
    rintro rfl
    simp at log
  have width : 0 < 2 ^ (shift + 1) := Nat.two_pow_pos _
  constructor
  · rw [Nat.le_div_iff_mul_le width, ← Nat.pow_add, show 52 + (shift + 1) = shift + 53 by omega,
      ← log]
    exact Nat.log2_self_le nonzero
  · rw [Nat.div_lt_iff_lt_mul width, ← Nat.pow_add,
      show 53 + (shift + 1) = mantissa.log2 + 1 by omega]
    exact Nat.lt_log2_self

/-- Rounding a number of at least 54 digits gives a finite double unless it is too large. -/
theorem represents_round {sign : Sign} {mantissa shift : Nat} {exponent : Int}
    (log : mantissa.log2 = shift + 53) (least : -1074 ≤ exponent + shift + 1)
    (greatest : exponent + shift + 1 ≤ 971)
    (below : exponent + shift + 1 = 971 → mantissa / 2 ^ shift < 2 ^ 54 - 1) :
    ∃ digits power, Represents digits power
        (roundWithAccuracy Format.binary64 sign mantissa exponent .exact) ∧
      2 ^ 52 ≤ digits ∧ digits < 2 ^ 53 ∧ -1074 ≤ power ∧ power ≤ 971 := by
  have moves : (Format.binary64.targetExponent (totalExponent mantissa exponent) -
      exponent).toNat = shift + 1 := by
    simp only [Format.targetExponent, totalExponent, Format.mantissaBits, Format.minExponent, log]
    omega
  have first : shiftToTargetExponent Format.binary64 mantissa exponent .exact =
      ((⟨mantissa, false, false⟩ : ExtendedMantissa) >>> (shift + 1), exponent + shift + 1) := by
    simp only [shiftToTargetExponent, shiftToExponent, moves,
      ExtendedMantissa.ofMantissaAndAccuracy, Prod.mk.injEq, true_and]
    omega
  obtain ⟨low, high⟩ := floor_bounds log
  have halves : mantissa / 2 ^ (shift + 1) = mantissa / 2 ^ shift / 2 := by
    rw [Nat.pow_succ, Nat.div_div_eq_div_mul]
  have kept := shiftRight_mantissa ⟨mantissa, false, false⟩ (shift + 1)
  have half := shiftRight_roundBit ⟨mantissa, false, false⟩ shift
  have rounds :=
    roundedMantissa_cases ((⟨mantissa, false, false⟩ : ExtendedMantissa) >>> (shift + 1))
  simp only [kept, half] at rounds
  unfold roundWithAccuracy
  rw [first]
  simp only
  generalize ExtendedMantissa.roundedMantissa _ = digits at rounds ⊢
  have bound : digits ≤ 2 ^ 53 := by omega
  -- Without a carry the exponent stays; a carry at the greatest exponent is ruled out by `below`.
  rcases Nat.lt_or_eq_of_le bound with inside | carried
  · rw [shiftToTarget_small inside least]
    simp only
    rw [dif_neg (by omega)]
    exact ⟨digits, exponent + shift + 1, ⟨rfl, rfl⟩, by omega, inside, least, greatest⟩
  · rw [carried, shiftToTarget_carried least]
    simp only
    rw [dif_neg (by decide)]
    refine ⟨2 ^ 52, exponent + shift + 1 + 1, ⟨rfl, rfl⟩, Nat.le_refl _, by decide, by omega, ?_⟩
    rcases rounds with same | ⟨odd, up⟩
    · omega
    · simp only [bne_iff_ne] at odd
      by_contra large
      have less := below (by omega)
      omega

theorem lt_of_twoTo_lt {first second : Nat} (less : twoTo first < twoTo second) : first < second :=
  (Nat.pow_lt_pow_iff_right (by decide)).mp less

theorem Represents.finite {mantissa : Nat} {exponent : Int} {unpacked : UnpackedFloat}
    (represents : Represents mantissa exponent unpacked) :
    ∃ sign positive, unpacked = .finite sign mantissa exponent positive := by
  cases unpacked with
  | finite sign digits power positive =>
      obtain ⟨rfl, rfl⟩ := represents
      exact ⟨sign, positive, rfl⟩
  | _ => exact represents.elim

theorem Represents.not_isInfinite {mantissa : Nat} {exponent : Int} {result : Float}
    (represents : Represents mantissa exponent result.toModel.unpack) (operands : List Double) :
    isInfinite (Double.ofFloat result operands) = false := by
  obtain ⟨sign, positive, unpacked⟩ := represents.finite
  have number : result.isNaN = false := by
    change UnpackedFloat.isNaN result.toModel.unpack = false
    rw [unpacked]
    rfl
  have inside : result.toBits.toNat / twoTo 52 % twoTo 11 ≠ 2047 := by
    intro last
    have exponent := unpackExponent_ofNat result.toBits.toNat
    rw [UInt64.ofNat_toNat] at exponent
    have greatest : @unpackExponent Format.binary64 result.toBits.toBitVec = -1#_ :=
      BitVec.eq_of_toNat_eq (exponent.trans last)
    change UnpackedFloat.unpack Format.binary64 result.toBits.toBitVec = _ at unpacked
    simp only [UnpackedFloat.unpack, if_pos greatest] at unpacked
    split at unpacked <;> cases unpacked
  rw [Double.ofFloat, number, if_neg Bool.false_ne_true]
  simp only [isInfinite, shape, Shape.ofPattern, if_neg inside]
  by_cases least : result.toBits.toNat / twoTo 52 % twoTo 11 = 0
  · simp only [if_pos least]
  · simp only [if_neg least]

theorem unpack_mul {left right : Float} {leftSign rightSign : Sign} {first second : Nat}
    {firstExponent secondExponent : Int} {firstPos : 0 < first} {secondPos : 0 < second}
    (one : left.toModel.unpack = .finite leftSign first firstExponent firstPos)
    (two : right.toModel.unpack = .finite rightSign second secondExponent secondPos) :
    (left * right).toModel.unpack = UnpackedFloat.unpack Format.binary64
      (UnpackedFloat.pack Format.binary64 (roundWithAccuracy Format.binary64
        (leftSign * rightSign) (first * second) (firstExponent + secondExponent) .exact)) := by
  change UnpackedFloat.unpack _ (UnpackedFloat.pack _ (UnpackedFloat.mul _
    left.toModel.unpack right.toModel.unpack)) = _
  rw [one, two]
  rfl

theorem isInfinite_mul {left right : Double} {first second firstPower secondPower : Nat}
    (one : Represents first ((firstPower : Int) - 1074) left.toFloat.toModel.unpack)
    (two : Represents second ((secondPower : Int) - 1074) right.toFloat.toModel.unpack)
    (firstLow : 2 ^ 52 ≤ first) (secondLow : 2 ^ 52 ≤ second)
    (least : 2042 ≤ firstPower + secondPower)
    (small : first * second * twoTo (firstPower + secondPower) < (2 ^ 54 - 1) * twoTo 3118) :
    isInfinite (left * right) = false := by
  have low : 2 ^ 52 * 2 ^ 52 ≤ first * second := Nat.mul_le_mul firstLow secondLow
  generalize product : first * second = mantissa at low small
  obtain ⟨shift, log⟩ : ∃ shift, mantissa.log2 = shift + 53 := by
    have wide : 104 ≤ mantissa.log2 := (Nat.le_log2 (by omega)).mpr (by omega)
    exact ⟨mantissa.log2 - 53, by omega⟩
  have shiftLow : 51 ≤ shift := by
    have wide : 104 ≤ mantissa.log2 := (Nat.le_log2 (by omega)).mpr (by omega)
    omega
  have leading : twoTo (shift + 53) ≤ mantissa := log ▸ Nat.log2_self_le (by omega)
  have fits : shift + (firstPower + secondPower) ≤ 3118 := by
    have less : twoTo (shift + 53 + (firstPower + secondPower)) < twoTo (54 + 3118) := by
      rw [twoTo_add, twoTo_add 54]
      refine Nat.lt_of_le_of_lt (Nat.mul_le_mul_right _ leading) (Nat.lt_of_lt_of_le small ?_)
      exact Nat.mul_le_mul_right _ (Nat.sub_le _ _)
    have exponents := lt_of_twoTo_lt less
    omega
  have below : shift + (firstPower + secondPower) = 3118 → mantissa / 2 ^ shift < 2 ^ 54 - 1 := by
    intro last
    rw [Nat.div_lt_iff_lt_mul (Nat.two_pow_pos _)]
    rw [← last, twoTo_add shift, ← Nat.mul_assoc] at small
    exact Nat.lt_of_mul_lt_mul_right small
  obtain ⟨leftSign, leftPos, leftShape⟩ := one.finite
  obtain ⟨rightSign, rightPos, rightShape⟩ := two.finite
  obtain ⟨digits, power, rounded, digitsLow, digitsHigh, powerLow, powerHigh⟩ :=
    @represents_round (leftSign * rightSign) _ _ _ log
      (by omega : (-1074 : Int) ≤ (firstPower - 1074) + (secondPower - 1074) + shift + 1)
      (by omega) (by omega)
  have packed := represents_pack rounded digitsLow digitsHigh powerLow powerHigh
  rw [← product, ← unpack_mul leftShape rightShape] at packed
  exact packed.not_isInfinite [left, right]

theorem product_room :
    ((2 ^ 54 - 7) * twoTo 2045) * (unitsPerOne * unitsPerOne * ((twoTo 53 + 1) * (twoTo 53 + 1))) <
      (2 ^ 54 - 1) * twoTo 3118 * (twoTo 53 * twoTo 53 * (2 * unitsPerOne)) := by
  decide +kernel

theorem product_lt {first second number scale room unit half top limit bound : Nat}
    (firstNear : first * room ≤ number * unit * (room + 1))
    (secondNear : second * room ≤ scale * unit * (room + 1))
    (below : number * scale * half ≤ limit)
    (less : limit * (unit * unit * ((room + 1) * (room + 1))) <
      top * bound * (room * room * half)) :
    first * second < top * bound := by
  refine Nat.lt_of_mul_lt_mul_right (Nat.lt_of_le_of_lt ?_ less)
  calc first * second * (room * room * half)
      = first * room * (second * room) * half := by ring
    _ ≤ number * unit * (room + 1) * (scale * unit * (room + 1)) * half :=
        Nat.mul_le_mul_right _ (Nat.mul_le_mul firstNear secondNear)
    _ = number * scale * half * (unit * unit * ((room + 1) * (room + 1))) := by ring
    _ ≤ limit * (unit * unit * ((room + 1) * (room + 1))) := Nat.mul_le_mul_right _ below

theorem isInfinite_scaled {number exponent : Nat} (positive : 0 < number)
    (bounded : number ≤ tenTo 308)
    (small : exponent ≤ 308)
    (below : number * tenTo exponent * (2 * unitsPerOne) ≤ (2 ^ 54 - 7) * twoTo 2045) :
    isInfinite (ofNat number * ofDecimal false 1 exponent) = false := by
  rw [ofDecimal_tenTo small, ofNat]
  obtain ⟨first, firstPower, one, firstLow, firstHigh, firstLeast, firstNear⟩ :=
    represents_ofRatio positive bounded
  obtain ⟨second, secondPower, two, secondLow, secondHigh, secondLeast, secondNear⟩ :=
    represents_ofRatio (tenTo_pos exponent) (tenTo_mono small)
  refine isInfinite_mul one two firstLow secondLow (by omega) ?_
  have less := product_lt firstNear secondNear below product_room
  rw [twoTo_add, Nat.mul_mul_mul_comm]
  exact less

end Product

end EventScript.Number
