/-!
# Binary floating point numbers

A finite double without its sign is a whole number of *units*, the smallest positive double.
The bits of a magnitude grow with its value, so a magnitude is handled as the number that its
bits spell. `nearest` rounds a quotient of naturals to a magnitude; `nearest_units` says that
it leaves a double as it is.
-/

namespace Storyweave.Number

/-- The least significand of 53 binary digits. The bits of a magnitude do not hold its first
digit. -/
def hiddenBit : Nat := 4503599627370496

/-- The bit of the sign of a double. -/
def signBit : Nat := 9223372036854775808

/-- The bits of infinity: every smaller number spells a finite magnitude. -/
def infinityBits : Nat := 2047 * hiddenBit

/-- The smallest positive double is `2 ^ (-finest)`. -/
def finest : Nat := 1074

/-- How many units one holds. -/
def unitsPerOne : Nat := 1 <<< finest

/-- How often the significand of a magnitude is doubled. -/
def scaleOf (bits : Nat) : Nat := bits / hiddenBit - 1

/-- The significand of a magnitude. It has 53 binary digits, or fewer where it is not doubled. -/
def significandOf (bits : Nat) : Nat := bits - scaleOf bits * hiddenBit

/-- A finite magnitude as a number of units. -/
def units (bits : Nat) : Nat := significandOf bits <<< scaleOf bits

/-- The natural number nearest to `num / den`; a half goes to the even neighbour. -/
def roundEven (num den : Nat) : Nat :=
  let rest := num % den
  if den < 2 * rest ∨ (den = 2 * rest ∧ num / den % 2 = 1) then num / den + 1 else num / den

/-- The bits of the magnitude nearest to `num / den`; a half goes to the even neighbour, and
what is too large for a finite double becomes infinity. -/
def nearest (num den : Nat) : Nat :=
  let count := num * unitsPerOne
  let scale := (count / den).log2 - 52
  min infinityBits (scale * hiddenBit + roundEven count (den <<< scale))

theorem hiddenBit_eq : hiddenBit = Nat.pow 2 52 := by decide

theorem shiftLeft_pos {n : Nat} (h : 0 < n) (scale : Nat) : 0 < n <<< scale := by
  rw [Nat.shiftLeft_eq]
  exact Nat.mul_pos h (Nat.two_pow_pos scale)

theorem unitsPerOne_pos : 0 < unitsPerOne := shiftLeft_pos Nat.one_pos finest

theorem roundEven_mul (q : Nat) {den : Nat} (h : 0 < den) : roundEven (q * den) den = q := by
  have hr : q * den % den = 0 := Nat.mul_mod_left q den
  have hq : q * den / den = q := Nat.mul_div_cancel q h
  simp only [roundEven, hr, hq]
  rw [if_neg]
  omega

theorem significandOf_lt (bits : Nat) : significandOf bits < 2 * hiddenBit := by
  unfold significandOf scaleOf hiddenBit
  omega

theorem le_significandOf {bits : Nat} (h : 0 < scaleOf bits) : hiddenBit ≤ significandOf bits := by
  unfold significandOf scaleOf hiddenBit at *
  omega

theorem scaleOf_mul_add (bits : Nat) : scaleOf bits * hiddenBit + significandOf bits = bits := by
  unfold significandOf scaleOf hiddenBit
  omega

/-- The scale of a magnitude can be read off its number of units. -/
theorem log2_units (bits : Nat) : (units bits).log2 - 52 = scaleOf bits := by
  have hbit : hiddenBit = 2 ^ 52 := hiddenBit_eq
  have hunits : units bits = significandOf bits * 2 ^ scaleOf bits := Nat.shiftLeft_eq _ _
  have hlt : significandOf bits < 2 ^ 53 := by
    have := significandOf_lt bits
    omega
  rcases Nat.eq_zero_or_pos (scaleOf bits) with h0 | hpos
  · rcases Nat.eq_zero_or_pos (significandOf bits) with hs | hs
    · simp [hunits, h0, hs]
    · have : (significandOf bits).log2 < 53 := (Nat.log2_lt (by omega)).2 hlt
      simp only [hunits, h0, Nat.pow_zero, Nat.mul_one]
      omega
  · have hle : 2 ^ 52 ≤ significandOf bits := hbit ▸ le_significandOf hpos
    have hne : units bits ≠ 0 := by
      have : 0 < units bits := shiftLeft_pos (by omega) _
      omega
    have hlow : 52 + scaleOf bits ≤ (units bits).log2 := by
      refine (Nat.le_log2 hne).2 ?_
      rw [Nat.pow_add, hunits]
      exact Nat.mul_le_mul_right _ hle
    have hhigh : (units bits).log2 < 53 + scaleOf bits := by
      refine (Nat.log2_lt hne).2 ?_
      rw [Nat.pow_add, hunits]
      exact Nat.mul_lt_mul_of_pos_right hlt (Nat.two_pow_pos _)
    omega

/-- A finite double is the nearest double to itself, however its value is written as a
quotient. -/
theorem nearest_units {bits c : Nat} (h : bits < infinityBits) (hc : 0 < c) :
    nearest (units bits * c) (unitsPerOne * c) = bits := by
  have hpos : 0 < unitsPerOne * c := Nat.mul_pos unitsPerOne_pos hc
  have hcount : units bits * c * unitsPerOne = units bits * (unitsPerOne * c) := by
    rw [Nat.mul_assoc, Nat.mul_comm c]
  have hround : units bits * (unitsPerOne * c) =
      significandOf bits * ((unitsPerOne * c) <<< scaleOf bits) := by
    rw [units, Nat.shiftLeft_eq, Nat.shiftLeft_eq, Nat.mul_assoc, Nat.mul_comm (2 ^ scaleOf bits)]
  simp only [nearest, hcount, Nat.mul_div_cancel _ hpos, log2_units]
  rw [hround, roundEven_mul _ (shiftLeft_pos hpos _), scaleOf_mul_add]
  exact Nat.min_eq_right (Nat.le_of_lt h)

/-- The double with a sign and the bits of a magnitude. -/
def ofMagnitude (negative : Bool) (bits : Nat) : Float :=
  Float.ofBits (UInt64.ofNat (if negative then signBit + bits else bits))

/-- The bits of a double without its sign. -/
def magnitude (x : Float) : Nat := x.toBits.toNat % signBit

/-- Whether the sign of a double is negative, also of a zero. -/
def isNegative (x : Float) : Bool := decide (signBit ≤ x.toBits.toNat)

/-- The larger of two numbers. What is not a number loses to any number, and of two equal
numbers, as the two zeros are, the second is taken. -/
def larger (x y : Float) : Float := if y.isNaN || decide (y < x) then x else y

/-- The smaller of two numbers, by the same rules as `larger`. -/
def smaller (x y : Float) : Float := if y.isNaN || decide (x < y) then x else y

end Storyweave.Number
