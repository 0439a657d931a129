import AbilityHooks.Decimal.Layout
import AbilityHooks.Json.Printer
import AbilityHooks.Proofs.ShortestDecimal

/-!
# The text of a positive double

The bits of a positive finite double have no sign, and they are neither all zero nor those of an
infinity. So its text is that of a positive decimal.
-/

namespace AbilityHooks.Double

open Float.Model (UnpackedFloat Format)
open Float.Model.UnpackedFloat

/-- A positive finite double is unpacked as a finite one with a positive sign. -/
theorem unpack_of_positive {x : Float} (finite : x.isFinite = true) (positive : 0 < x) :
    ∃ mantissa exponent nonzero,
      x.toModel.unpack = .finite .positive mantissa exponent nonzero := by
  have known : x.toModel.unpack.isFinite = true := finite
  have zero : (0 : Float).toModel.unpack = .zero .positive := rfl
  have compared : ((0 : Float).toModel.unpack.compare x.toModel.unpack == some .lt) = true :=
    of_decide_eq_true positive
  rw [zero] at compared
  cases unpacked : x.toModel.unpack with
  | infinity sign => rw [unpacked] at known; cases known
  | notANumber => rw [unpacked] at known; cases known
  | zero sign => rw [unpacked] at compared; cases sign <;> cases compared
  | finite sign mantissa exponent nonzero =>
    cases sign with
    | negative => rw [unpacked] at compared; cases compared
    | positive => exact ⟨mantissa, exponent, nonzero, rfl⟩

/-- The exponent field of a double is read off its bits. -/
theorem unpackExponent_toNat (bits : BitVec Format.binary64.numBits) :
    (unpackExponent bits).toNat = bits.toNat / unitSignificand % 2048 := by
  change (bits.toNat >>> 52) % 2 ^ 11 = _
  rw [Nat.shiftRight_eq_div_pow]
  rfl

/-- The mantissa field of a double is read off its bits. -/
theorem unpackMantissa_toNat (bits : BitVec Format.binary64.numBits) :
    (unpackMantissa bits).toNat = bits.toNat % unitSignificand := by
  change (bits.toNat >>> 0) % 2 ^ 52 = _
  rw [Nat.shiftRight_zero]
  rfl

/-- The sign of a double is read off its bits. -/
theorem unpackSign_toNat (bits : BitVec Format.binary64.numBits) :
    (unpackSign bits).toNat = bits.toNat / 2 ^ 63 % 2 := by
  change (bits.toNat >>> 63) % 2 ^ 1 = _
  rw [Nat.shiftRight_eq_div_pow]

/-- The positive sign is the bit zero. -/
theorem toNat_of_positive {bit : BitVec 1} (positive : Sign.ofBitVec bit = .positive) :
    bit.toNat = 0 := by
  unfold Sign.ofBitVec at positive
  split at positive
  · rename_i zero
    rw [zero]
    rfl
  · cases positive

/-- What is unpacked as a finite double with a positive sign has the bit of that sign, an exponent
field that is not the top one, and not both fields empty. -/
theorem fields_of_unpack {bits : BitVec Format.binary64.numBits} {mantissa : Nat} {exponent : Int}
    {nonzero : 0 < mantissa}
    (unpacked : UnpackedFloat.unpack Format.binary64 bits =
      .finite .positive mantissa exponent nonzero) :
    Sign.ofBitVec (unpackSign bits) = .positive ∧ unpackExponent bits ≠ -1#_ ∧
      ¬ (unpackExponent bits = 0#_ ∧ unpackMantissa bits = 0#_) := by
  delta UnpackedFloat.unpack at unpacked
  dsimp only at unpacked
  by_cases top : unpackExponent bits = -1#_
  · rw [if_pos top] at unpacked
    by_cases infinite : unpackMantissa bits = 0#_
    · rw [if_pos infinite] at unpacked
      cases unpacked
    · rw [if_neg infinite] at unpacked
      cases unpacked
  · rw [if_neg top] at unpacked
    by_cases subnormal : unpackExponent bits = 0#_
    · rw [if_pos subnormal] at unpacked
      by_cases empty : unpackMantissa bits = 0#_
      · rw [dif_pos empty] at unpacked
        cases unpacked
      · rw [dif_neg empty] at unpacked
        exact ⟨(UnpackedFloat.finite.inj unpacked).1, top, fun both => empty both.2⟩
    · rw [if_neg subnormal] at unpacked
      exact ⟨(UnpackedFloat.finite.inj unpacked).1, top, fun both => subnormal both.1⟩

/-- The bits of a positive finite double are above those of zero and below those of infinity. -/
theorem toBits_of_positive {x : Float} (finite : x.isFinite = true) (positive : 0 < x) :
    0 < x.toBits.toNat ∧ x.toBits.toNat < 2047 * unitSignificand := by
  obtain ⟨mantissa, exponent, nonzero, unpacked⟩ := unpack_of_positive finite positive
  obtain ⟨sign, top, filled⟩ := fields_of_unpack unpacked
  have size : x.toBits.toNat < 2 ^ 64 := x.toBits.toNat_lt
  have signField : 0 = x.toBits.toNat / 2 ^ 63 % 2 :=
    (toNat_of_positive sign).symm.trans (unpackSign_toNat x.toBits.toBitVec)
  have below : x.toBits.toNat / unitSignificand % 2048 ≠ 2047 :=
    fun last => top (BitVec.eq_of_toNat_eq ((unpackExponent_toNat x.toBits.toBitVec).trans last))
  have above : ¬ (x.toBits.toNat / unitSignificand % 2048 = 0 ∧
      x.toBits.toNat % unitSignificand = 0) := fun ⟨noExponent, noMantissa⟩ =>
    filled ⟨BitVec.eq_of_toNat_eq ((unpackExponent_toNat x.toBits.toBitVec).trans noExponent),
      BitVec.eq_of_toNat_eq ((unpackMantissa_toNat x.toBits.toBitVec).trans noMantissa)⟩
  rw [unitSignificand] at *
  omega

/-- The sign bit of a positive finite double is not set. -/
theorem isNegative_of_positive {x : Float} (finite : x.isFinite = true) (positive : 0 < x) :
    isNegative x = false := by
  obtain ⟨-, below⟩ := toBits_of_positive finite positive
  rw [unitSignificand] at below
  rw [isNegative, decide_eq_false_iff_not, Nat.pow_eq]
  omega

/-- A positive finite double does not count as zero. -/
theorem beq_zero_of_positive {x : Float} (finite : x.isFinite = true) (positive : 0 < x) :
    (x == 0) = false := by
  obtain ⟨mantissa, exponent, nonzero, unpacked⟩ := unpack_of_positive finite positive
  change (x.toModel.unpack.compare (0 : Float).toModel.unpack == some .eq) = false
  rw [unpacked]
  rfl

/-- The significand of a positive finite double has one to 53 bits. -/
theorem sized_of_positive {x : Float} (finite : x.isFinite = true) (positive : 0 < x) :
    (decode x).Sized := by
  obtain ⟨above, below⟩ := toBits_of_positive finite positive
  have magnitude : x.toBits.toNat % Nat.pow 2 63 = x.toBits.toNat := by
    rw [unitSignificand] at below
    rw [Nat.pow_eq]
    omega
  have fraction : x.toBits.toNat % unitSignificand < unitSignificand := Nat.mod_lt _ (by decide)
  have double : 2 * unitSignificand = 2 ^ 53 := by decide
  simp only [decode, magnitude]
  split
  · rename_i subnormal
    have whole := Nat.div_add_mod x.toBits.toNat unitSignificand
    rw [subnormal, Nat.mul_zero, Nat.zero_add] at whole
    exact ⟨by dsimp only; omega, by dsimp only; omega, by simp⟩
  · refine ⟨Nat.lt_add_left _ (by decide), by dsimp only; omega, fun narrow => ?_⟩
    simp only [Bool.and_eq_true, beq_iff_eq] at narrow
    simp only [narrow.1, Nat.zero_add]

end AbilityHooks.Double

namespace AbilityHooks

/-- The text of a positive finite double is that of a positive decimal that rounds to it. -/
theorem Json.doubleText_of_positive {x : Float} (finite : x.isFinite = true) (positive : 0 < x) :
    Json.doubleText x = String.ofList (Decimal.shortest x).layout ∧
      0 < (Decimal.shortest x).digits := by
  constructor
  · rw [Json.doubleText, if_pos finite, Decimal.floatText,
      Double.isNegative_of_positive finite positive, Double.beq_zero_of_positive finite positive]
    rfl
  · exact Decimal.shortest_pos (Double.sized_of_positive finite positive)

end AbilityHooks
