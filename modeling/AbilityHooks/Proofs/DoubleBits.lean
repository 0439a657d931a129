import AbilityHooks.Proofs.PositiveDouble

/-!
# The bits of a double

A double is put together from three fields and taken apart into them. Bits that are made into a
double are found in it again, unless they stand for no number; so the doubles without a sign are
counted by their bits, from zero to the infinity.
-/

namespace AbilityHooks.Double

open Float.Model (Format UnpackedFloat)
open Float.Model.UnpackedFloat

/-- The bits of the positive infinity. -/
def infinityBits : Nat := 2047 * unitSignificand

/-- Whether a double has no sign and stands for a number or for more than every number. -/
def IsUnsigned (x : Float) : Prop := x.toBits.toNat ≤ infinityBits

variable {x y : Float}

/-- A double is put together from its fields, one above the other. -/
theorem packComponents_toNat (sign : Sign) (exponent : BitVec 11) (mantissa : BitVec 52) :
    (packComponents Format.binary64 sign exponent mantissa).toNat =
      (sign.toBitVec.toNat * 2048 + exponent.toNat) * unitSignificand + mantissa.toNat := by
  change (sign.toBitVec ++ exponent ++ mantissa).toNat = _
  rw [BitVec.toNat_append, BitVec.toNat_append, ← Nat.shiftLeft_add_eq_or_of_lt mantissa.isLt,
    ← Nat.shiftLeft_add_eq_or_of_lt exponent.isLt, Nat.shiftLeft_eq, Nat.shiftLeft_eq]
  rfl

/-- A double is put together from its fields. -/
theorem packComponents_fields (bits : BitVec Format.binary64.numBits) :
    packComponents Format.binary64 (Sign.ofBitVec (unpackSign bits)) (unpackExponent bits)
      (unpackMantissa bits) = bits := by
  have sign : (Sign.ofBitVec (unpackSign bits)).toBitVec = unpackSign bits := by
    generalize unpackSign bits = field
    revert field
    decide
  have size : bits.toNat < 2 ^ 64 := bits.isLt
  refine BitVec.eq_of_toNat_eq ?_
  rw [packComponents_toNat, sign, unpackExponent_toNat, unpackMantissa_toNat, unpackSign_toNat,
    unitSignificand]
  omega

/-- Packing undoes unpacking, except where the exponent field is the top one. -/
theorem pack_unpack {bits : BitVec Format.binary64.numBits}
    (number : unpackExponent bits = -1#_ → unpackMantissa bits = 0#_) :
    pack Format.binary64 (unpack Format.binary64 bits) = bits := by
  have fields := packComponents_fields bits
  have bias : (Format.binary64.exponentBias : Int) = 1023 := rfl
  delta unpack
  dsimp only
  by_cases top : unpackExponent bits = -1#_
  · rw [if_pos top, if_pos (number top)]
    rw [top, number top] at fields
    exact fields
  rw [if_neg top]
  have below : (unpackExponent bits).toNat ≠ 2047 := fun last => top (BitVec.eq_of_toNat_eq last)
  have size := (unpackExponent bits).isLt
  by_cases subnormal : unpackExponent bits = 0#_
  · rw [if_pos subnormal]
    rw [subnormal] at fields
    by_cases empty : unpackMantissa bits = 0#_
    · rw [dif_pos empty]
      rw [empty] at fields
      exact fields
    · rw [dif_neg empty]
      have narrow : (unpackMantissa bits).toNat.log2 + 1 ≠ Format.binary64.mantissaBits := by
        have := (Nat.log2_lt (fun zero => empty (BitVec.eq_of_toNat_eq zero))).mpr
          (unpackMantissa bits).isLt
        change _ ≠ 53
        change _ < 52 at this
        omega
      delta pack
      dsimp only
      rw [subnormal, if_neg (by decide), if_neg narrow, BitVec.ofNat_toNat, BitVec.setWidth_eq]
      exact fields
  · rw [if_neg subnormal]
    have whole : (1#1 ++ unpackMantissa bits).toNat = 2 ^ 52 + (unpackMantissa bits).toNat := by
      rw [BitVec.toNat_append, ← Nat.shiftLeft_add_eq_or_of_lt (unpackMantissa bits).isLt]
      rfl
    have narrow : (unpackMantissa bits).toNat < 2 ^ 52 := (unpackMantissa bits).isLt
    have wide : (1#1 ++ unpackMantissa bits).toNat.log2 + 1 = Format.binary64.mantissaBits := by
      have log : (1#1 ++ unpackMantissa bits).toNat.log2 = 52 := by
        rw [whole, Nat.log2_eq_iff (by omega)]
        omega
      rw [log]
      rfl
    have biased : ((unpackExponent bits).toNat - (Format.binary64.exponentBias + (52 : Nat)) +
        Format.binary64.exponentBias + (52 : Nat) : Int).toNat = (unpackExponent bits).toNat := by
      rw [bias]
      omega
    have implicit : BitVec.ofNat 52 (1#1 ++ unpackMantissa bits).toNat = unpackMantissa bits := by
      refine BitVec.eq_of_toNat_eq ?_
      rw [whole, BitVec.toNat_ofNat, Nat.add_mod_left, Nat.mod_eq_of_lt narrow]
    have fits : ¬ 2 ^ 11 ≤ (unpackExponent bits).toNat + 1 := by
      change (unpackExponent bits).toNat < 2 ^ 11 at size
      omega
    delta pack
    dsimp only
    rw [biased, if_neg fits, if_pos wide, implicit, BitVec.ofNat_toNat, BitVec.setWidth_eq]
    exact fields

/-- Bits up to those of the infinity are those of the double that they make. -/
theorem toBits_ofBits {bits : Nat} (inside : bits ≤ infinityBits) :
    (Float.ofBits (UInt64.ofNat bits)).toBits.toNat = bits := by
  rw [infinityBits, unitSignificand] at inside
  let vector : BitVec Format.binary64.numBits := BitVec.ofNat 64 bits
  have known : vector.toNat = bits :=
    (BitVec.toNat_ofNat bits 64).trans (Nat.mod_eq_of_lt (by omega))
  have number : unpackExponent vector = -1#_ → unpackMantissa vector = 0#_ := by
    intro top
    have field : bits / unitSignificand % 2048 = 2047 := by
      rw [← known, ← unpackExponent_toNat, top]
      rfl
    refine BitVec.eq_of_toNat_eq ?_
    rw [unpackMantissa_toNat, known, BitVec.toNat_ofNat, Nat.zero_mod]
    rw [unitSignificand] at *
    omega
  change (pack Format.binary64 (unpack Format.binary64 vector)).toNat = bits
  rw [pack_unpack number, known]

/-- Doubles with the same bits are the same. -/
theorem eq_of_toBits (same : x.toBits.toNat = y.toBits.toNat) : x = y := by
  obtain ⟨⟨bits, valid⟩⟩ := x
  obtain ⟨⟨others, _⟩⟩ := y
  obtain rfl : bits = others := UInt64.toNat_inj.mp same
  rfl

/-- What is unpacked as a zero has empty fields. -/
theorem fields_of_zero {bits : BitVec Format.binary64.numBits} {sign : Sign}
    (unpacked : unpack Format.binary64 bits = .zero sign) :
    unpackExponent bits = 0#_ ∧ unpackMantissa bits = 0#_ := by
  delta unpack at unpacked
  dsimp only at unpacked
  by_cases top : unpackExponent bits = -1#_
  · rw [if_pos top] at unpacked
    split at unpacked <;> cases unpacked
  rw [if_neg top] at unpacked
  by_cases subnormal : unpackExponent bits = 0#_
  · rw [if_pos subnormal] at unpacked
    by_cases empty : unpackMantissa bits = 0#_
    · exact ⟨subnormal, empty⟩
    · rw [dif_neg empty] at unpacked
      cases unpacked
  · rw [if_neg subnormal] at unpacked
    cases unpacked

/-- A double without a sign counts as zero exactly if it has no bits. -/
theorem beq_zero_iff (unsigned : IsUnsigned x) : (x == 0) = true ↔ x.toBits.toNat = 0 := by
  constructor
  · intro counts
    have compared : (x.toModel.unpack.compare (0 : Float).toModel.unpack == some .eq) = true :=
      counts
    have zero : (0 : Float).toModel.unpack = .zero .positive := rfl
    rw [zero] at compared
    cases unpacked : x.toModel.unpack with
    | infinity sign => rw [unpacked] at compared; cases sign <;> cases compared
    | notANumber => rw [unpacked] at compared; cases compared
    | finite sign mantissa exponent nonzero =>
      rw [unpacked] at compared
      cases sign <;> cases compared
    | zero sign =>
      obtain ⟨exponent, mantissa⟩ := fields_of_zero unpacked
      have noExponent : x.toBits.toNat / unitSignificand % 2048 = 0 :=
        (unpackExponent_toNat x.toBits.toBitVec).symm.trans (congrArg BitVec.toNat exponent)
      have noMantissa : x.toBits.toNat % unitSignificand = 0 :=
        (unpackMantissa_toNat x.toBits.toBitVec).symm.trans (congrArg BitVec.toNat mantissa)
      rw [IsUnsigned, infinityBits] at unsigned
      rw [unitSignificand] at *
      omega
  · intro none
    have zero : (0 : Float).toBits.toNat = 0 := rfl
    rw [eq_of_toBits (none.trans zero.symm)]
    rfl

end AbilityHooks.Double
