import Mathlib
import Storyweave.Number.Binary64

/-!
# Doubles and their bits

A double is given by its bits, and the bits of a finite one spell a magnitude below infinity.
Results:
1. `ofMagnitude_magnitude`: a double is made again from its sign and its magnitude.
2. `magnitude_lt_infinityBits`: the magnitude of a finite double is below infinity.
3. `beq_self_of_isFinite`: a finite double equals itself.
-/

namespace Storyweave.Number

open Float.Model Float.Model.UnpackedFloat

theorem exponent_lt (b : BitVec Format.binary64.numBits) : (unpackExponent b).toNat < 2048 :=
  (unpackExponent b).isLt

theorem mantissa_lt (b : BitVec Format.binary64.numBits) : (unpackMantissa b).toNat < hiddenBit :=
  (unpackMantissa b).isLt

/-- The bits of a magnitude are those of the exponent and of the mantissa. -/
theorem magnitude_eq (x : Float) :
    magnitude x = (@unpackExponent Format.binary64 x.toBits.toBitVec).toNat * hiddenBit +
      (@unpackMantissa Format.binary64 x.toBits.toBitVec).toNat := by
  have hlt : x.toBits.toNat < 2 ^ 64 := x.toBits.toNat_lt
  simp only [magnitude, unpackExponent, unpackMantissa, signBit, hiddenBit, BitVec.toNat_cast,
    BitVec.extractLsb_toNat, UInt64.toNat_toBitVec, Nat.shiftRight_eq_div_pow]
  omega

theorem ofMagnitude_magnitude (x : Float) : ofMagnitude (isNegative x) (magnitude x) = x := by
  have hlt : x.toBits.toNat < 2 ^ 64 := x.toBits.toNat_lt
  have hbits : (if isNegative x then signBit + magnitude x else magnitude x) = x.toBits.toNat := by
    unfold isNegative magnitude signBit
    by_cases hsign : 9223372036854775808 ≤ x.toBits.toNat
    · rw [if_pos (decide_eq_true hsign)]
      omega
    · rw [if_neg (by simpa using hsign)]
      omega
  rw [ofMagnitude, hbits, UInt64.ofNat_toNat, Float.ofBits_toBits]

/-! ## Finite doubles -/

/-- What has the largest exponent is not finite. -/
theorem exponent_ne_of_isFinite {x : Float} (h : x.isFinite = true) :
    @unpackExponent Format.binary64 x.toBits.toBitVec ≠ -1#_ := by
  intro hexp
  have hfinite : (UnpackedFloat.unpack Format.binary64 x.toBits.toBitVec).isFinite = true := h
  dsimp only [UnpackedFloat.unpack] at hfinite
  rw [if_pos hexp] at hfinite
  split at hfinite <;> cases hfinite

theorem magnitude_lt_infinityBits {x : Float} (h : x.isFinite = true) :
    magnitude x < infinityBits := by
  have hexp := exponent_lt x.toBits.toBitVec
  have hmantissa := mantissa_lt x.toBits.toBitVec
  -- the largest exponent is that of infinity
  have hlast : (@unpackExponent Format.binary64 x.toBits.toBitVec).toNat ≠ 2047 :=
    fun heq => exponent_ne_of_isFinite h (BitVec.eq_of_toNat_eq heq)
  rw [magnitude_eq]
  unfold infinityBits hiddenBit at *
  omega

/-- A double is a finite number, or infinite, or no number. -/
theorem isFinite_eq (x : Float) : x.isFinite = !(x.isNaN || x.isInf) := by
  show x.toModel.unpack.isFinite = !(x.toModel.unpack.isNaN || x.toModel.unpack.isInf)
  cases x.toModel.unpack <;> rfl

theorem isInf_eq_false_of_isNaN {x : Float} (h : x.isNaN = true) : x.isInf = false := by
  have hnan : x.toModel.unpack.isNaN = true := h
  show x.toModel.unpack.isInf = false
  cases hx : x.toModel.unpack with
  | infinity sign => rw [hx] at hnan; cases hnan
  | _ => rfl

theorem beq_self_of_isFinite {x : Float} (h : x.isFinite = true) : (x == x) = true := by
  rw [isFinite_eq, Bool.not_eq_true', Bool.or_eq_false_iff] at h
  rw [Float.beq_self_iff]
  rintro rfl
  cases h.1

end Storyweave.Number
