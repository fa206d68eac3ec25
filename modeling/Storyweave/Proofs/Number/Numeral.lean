import Storyweave.Number.Decimal
import Storyweave.Proofs.Number.Double

/-!
# Written numbers

A finite double is written as a numeral: digits, with a minus sign in front and a fraction
behind or without them. Results:
1. `ofChars_chars`: a decimal is read again from its digits.
2. `toFloat_decimalOf`: the decimal that is written for a finite double stands for that double.
3. `numeral_chars`: what is written for a finite double is a numeral.
-/

namespace Storyweave.Number

/-! ## Numerals -/

/-- One or more digits. -/
def Digits (cs : List Char) : Prop := cs ≠ [] ∧ ∀ c ∈ cs, c.isDigit = true

/-- Nothing, or a point and digits. -/
def Fraction (cs : List Char) : Prop := cs = [] ∨ ∃ digits, cs = '.' :: digits ∧ Digits digits

/-- A sign in front of a number. -/
def sign (negative : Bool) : List Char := if negative then ['-'] else []

/-- An optional minus sign, digits, and an optional fraction. -/
def Numeral (cs : List Char) : Prop :=
  ∃ negative whole fraction, cs = sign negative ++ (whole ++ fraction) ∧ Digits whole ∧
    Fraction fraction

theorem digits_toDigits (n : Nat) : Digits (Nat.toDigits 10 n) :=
  ⟨Nat.toDigits_ne_nil, fun _ h => Nat.isDigit_of_mem_toDigits (by decide) (by decide) h⟩

/-- A run of characters of one kind ends where a character of another kind follows. -/
theorem takeWhile_dropWhile_append {p : Char → Bool} {cs rest : List Char}
    (h : ∀ c ∈ cs, p c = true) (hrest : ∀ c ∈ rest.head?, p c = false) :
    (cs ++ rest).takeWhile p = cs ∧ (cs ++ rest).dropWhile p = rest := by
  have hstop : rest.takeWhile p = [] ∧ rest.dropWhile p = rest := by
    cases rest with
    | nil => exact ⟨rfl, rfl⟩
    | cons c more => simp [hrest c rfl]
  rw [List.takeWhile_append_of_pos h, List.dropWhile_append_of_pos h, hstop.1, hstop.2]
  exact ⟨List.append_nil cs, rfl⟩

theorem Fraction.head_not_digit {cs : List Char} (h : Fraction cs) :
    ∀ c ∈ cs.head?, c.isDigit = false := by
  rcases h with rfl | ⟨digits, rfl, -⟩
  · rintro c ⟨⟩
  · rintro c ⟨⟩
    rfl

namespace Decimal

/-! ## Decimals -/

/-- The part of a decimal behind its whole part. -/
def behindWhole (d : Decimal) : List Char := if d.places = 0 then [] else '.' :: d.fraction

theorem chars_eq (d : Decimal) :
    d.chars = sign d.negative ++
      (Nat.toDigits 10 (d.digits / Nat.pow 10 d.places) ++ d.behindWhole) := by
  unfold chars behindWhole sign
  by_cases hplaces : d.places = 0
  · simp only [if_pos hplaces, List.append_nil]
    split <;> rfl
  · simp only [if_neg hplaces]
    split <;> rfl

theorem length_fraction {d : Decimal} (h : d.places ≠ 0) : d.fraction.length = d.places := by
  have hlt : d.digits % 10 ^ d.places < 10 ^ d.places :=
    Nat.mod_lt _ (Nat.pow_pos (by decide))
  have hle := (Nat.length_toDigits_le_iff (b := 10) (by decide) (Nat.pos_of_ne_zero h)).2 hlt
  simp only [fraction, List.length_append, List.length_replicate, Nat.pow_eq]
  omega

theorem isDigit_of_mem_fraction {d : Decimal} {c : Char} (h : c ∈ d.fraction) :
    c.isDigit = true := by
  rcases List.mem_append.1 h with hzero | hdigit
  · rw [List.eq_of_mem_replicate hzero]
    rfl
  · exact (digits_toDigits _).2 c hdigit

theorem fraction_behindWhole (d : Decimal) : Fraction d.behindWhole := by
  unfold behindWhole
  by_cases hplaces : d.places = 0
  · rw [if_pos hplaces]
    exact .inl rfl
  · rw [if_neg hplaces]
    refine .inr ⟨d.fraction, rfl, fun hnil => hplaces ?_, fun c => isDigit_of_mem_fraction⟩
    rw [← length_fraction hplaces, hnil]
    rfl

/-- The whole part and the fraction of a decimal spell its digits. -/
theorem ofDigitChars_fraction {d : Decimal} (h : d.places ≠ 0) :
    Nat.ofDigitChars 10 (Nat.toDigits 10 (d.digits / Nat.pow 10 d.places) ++ d.fraction) 0 =
      d.digits := by
  have hlength : d.places - (Nat.toDigits 10 (d.digits % 10 ^ d.places)).length +
      (Nat.toDigits 10 (d.digits % 10 ^ d.places)).length = d.places := by
    have hfraction := length_fraction h
    simpa only [fraction, List.length_append, List.length_replicate, Nat.pow_eq] using hfraction
  rw [Nat.ofDigitChars_append, Nat.ofDigitChars_ten_toDigits, fraction, Nat.ofDigitChars_append,
    Nat.ofDigitChars_replicate_zero, Nat.ofDigitChars_eq_ofDigitChars_zero,
    Nat.ofDigitChars_ten_toDigits, Nat.pow_eq, ← Nat.mul_assoc, ← Nat.pow_add,
    Nat.add_comm (List.length _), hlength]
  exact Nat.div_add_mod d.digits (10 ^ d.places)

theorem ofUnsigned_behindWhole (d : Decimal) :
    ofUnsigned d.negative (Nat.toDigits 10 (d.digits / Nat.pow 10 d.places) ++ d.behindWhole) =
      d := by
  obtain ⟨hwhole, hbehind⟩ := takeWhile_dropWhile_append
    (digits_toDigits (d.digits / Nat.pow 10 d.places)).2 d.fraction_behindWhole.head_not_digit
  unfold ofUnsigned
  rw [hwhole, hbehind]
  unfold behindWhole
  by_cases hplaces : d.places = 0
  · obtain ⟨negative, digits, places⟩ := d
    obtain rfl : places = 0 := hplaces
    simp
  · rw [if_neg hplaces]
    simp only [List.tail_cons, ofDigitChars_fraction hplaces, length_fraction hplaces]

theorem ofChars_unsigned {cs : List Char} (h : Digits cs) (rest : List Char) :
    ofChars (sign false ++ (cs ++ rest)) = ofUnsigned false (cs ++ rest) := by
  cases cs with
  | nil => exact absurd rfl h.1
  | cons c more =>
    have hne : c ≠ '-' := by
      rintro rfl
      cases h.2 _ List.mem_cons_self
    show ofChars (c :: (more ++ rest)) = _
    rw [ofChars]
    · rfl
    · rintro _ ⟨⟩
      exact hne rfl

/-- A decimal is read again from its digits. -/
theorem ofChars_chars (d : Decimal) : ofChars d.chars = d := by
  have hread := d.ofUnsigned_behindWhole
  rw [chars_eq]
  cases hneg : d.negative with
  | true =>
    rw [hneg] at hread
    exact hread
  | false =>
    rw [hneg] at hread
    exact (ofChars_unsigned (digits_toDigits _) _).trans hread

end Decimal

/-! ## Doubles -/

theorem negative_shortest (negative : Bool) (bits : Nat) :
    (shortest negative bits).negative = negative := by
  unfold shortest
  cases hfound : (grids bits).findSome? fun exponent =>
      (neighbours negative bits exponent).find? (fun d => d.magnitude == bits) with
  | none => simp [hfound, exactDecimal]
  | some d =>
    obtain ⟨exponent, -, hd⟩ := List.exists_of_findSome?_eq_some hfound
    obtain ⟨count, -, rfl⟩ := List.mem_map.1 (List.mem_of_find?_eq_some hd)
    simp [hfound, Decimal.onGrid]

theorem nearest_zero : nearest 0 1 = 0 := by decide

/-- The decimal that is written for a finite double stands for that double. -/
theorem toFloat_decimalOf {x : Float} (h : x.isFinite = true) : (decimalOf x).toFloat = x := by
  have hparts : (decimalOf x).negative = isNegative x ∧ (decimalOf x).magnitude = magnitude x := by
    unfold decimalOf
    split
    · next hzero => exact ⟨rfl, nearest_zero.trans hzero.symm⟩
    · exact ⟨negative_shortest _ _, magnitude_shortest _ (magnitude_lt_infinityBits h)⟩
  rw [Decimal.toFloat, hparts.1, hparts.2, ofMagnitude_magnitude]

/-- A finite double is written as its decimal. -/
theorem chars_of_isFinite {x : Float} (h : x.isFinite = true) : chars x = (decimalOf x).chars := by
  rw [isFinite_eq, Bool.not_eq_true', Bool.or_eq_false_iff] at h
  simp only [chars, h.1, h.2, Bool.false_eq_true, if_false]

/-- What is written for a finite double is a numeral that spells this double. -/
theorem numeral_chars {x : Float} (h : x.isFinite = true) :
    Numeral (chars x) ∧ (Decimal.ofChars (chars x)).toFloat = x := by
  rw [chars_of_isFinite h, Decimal.ofChars_chars]
  exact ⟨⟨_, _, _, Decimal.chars_eq _, digits_toDigits _, Decimal.fraction_behindWhole _⟩,
    toFloat_decimalOf h⟩

end Storyweave.Number
