import Storyweave.Number.Binary64

/-!
# Decimal numerals

Numbers are written and read as decimals without an exponent. `text` writes a double with
the fewest digits that read back as the same double. Its main law is
`magnitude_shortest`: what is written reads back.
-/

namespace Storyweave.Number

/-- The decimal `± digits / 10 ^ places`. -/
structure Decimal where
  negative : Bool
  digits : Nat
  places : Nat
deriving DecidableEq, Repr

namespace Decimal

/-- The bits of the magnitude nearest to a decimal. -/
def magnitude (d : Decimal) : Nat := nearest d.digits (Nat.pow 10 d.places)

/-- The double nearest to a decimal. -/
def toFloat (d : Decimal) : Float := ofMagnitude d.negative d.magnitude

/-- The decimal point `count` steps of `10 ^ exponent` above zero. -/
def onGrid (negative : Bool) (count : Nat) (exponent : Int) : Decimal :=
  ⟨negative, count * Nat.pow 10 exponent.toNat, (-exponent).toNat⟩

/-- The fraction digits of a decimal, as many as it has places. -/
def fraction (d : Decimal) : List Char :=
  let digits := Nat.toDigits 10 (d.digits % Nat.pow 10 d.places)
  List.replicate (d.places - digits.length) '0' ++ digits

/-- A decimal in digits: a minus sign, the whole part, and the fraction after a point if there
are places for one. -/
def chars (d : Decimal) : List Char :=
  let whole := Nat.toDigits 10 (d.digits / Nat.pow 10 d.places)
  let unsigned := if d.places = 0 then whole else whole ++ '.' :: d.fraction
  if d.negative then '-' :: unsigned else unsigned

/-- The decimal that unsigned digits with an optional fraction spell. -/
def ofUnsigned (negative : Bool) (cs : List Char) : Decimal :=
  let whole := cs.takeWhile Char.isDigit
  let fraction := (cs.dropWhile Char.isDigit).tail
  ⟨negative, Nat.ofDigitChars 10 (whole ++ fraction) 0, fraction.length⟩

/-- The decimal that a numeral spells: an optional minus sign, digits, and an optional fraction
after a point. -/
def ofChars : List Char → Decimal
  | '-' :: cs => ofUnsigned true cs
  | cs => ofUnsigned false cs

end Decimal

/-- The two points of the grid of `10 ^ exponent` around a magnitude, the nearer one first;
of two equally near the larger one. -/
def neighbours (negative : Bool) (bits : Nat) (exponent : Int) : List Decimal :=
  let num := units bits * Nat.pow 10 (-exponent).toNat
  let den := unitsPerOne * Nat.pow 10 exponent.toNat
  let low := num / den
  let counts := if 2 * (num % den) < den then [low, low + 1] else [low + 1, low]
  counts.map (Decimal.onGrid negative · exponent)

/-- An exponent of ten that a magnitude does not reach, at most three above its first digit. -/
def exponentAbove (bits : Nat) : Int :=
  (((units bits).log2 + 1) * 30103 / 100000 : Nat) - 322

/-- The exponents of the grids on which a short decimal is looked for, the coarsest first.
Seventeen digits always suffice. -/
def grids (bits : Nat) : List Int :=
  (List.range 21).map fun n : Nat => exponentAbove bits - n

/-- A finite magnitude to its last digit. -/
def exactDecimal (negative : Bool) (bits : Nat) : Decimal :=
  ⟨negative, units bits * Nat.pow 5 finest, finest⟩

/-- The decimal of the fewest digits that reads back as a magnitude, and of those the nearest
to it. -/
def shortest (negative : Bool) (bits : Nat) : Decimal :=
  let readsBack (d : Decimal) : Bool := d.magnitude == bits
  ((grids bits).findSome? fun exponent => (neighbours negative bits exponent).find? readsBack).getD
    (exactDecimal negative bits)

theorem ten_pow (n : Nat) : Nat.pow 10 n = 1 <<< n * Nat.pow 5 n := by
  simp only [Nat.pow_eq, Nat.shiftLeft_eq, Nat.one_mul, ← Nat.mul_pow]

theorem five_pow_pos (n : Nat) : 0 < Nat.pow 5 n := Nat.pow_pos (by decide)

theorem magnitude_exactDecimal (negative : Bool) {bits : Nat} (h : bits < infinityBits) :
    (exactDecimal negative bits).magnitude = bits := by
  have hden : Nat.pow 10 finest = unitsPerOne * Nat.pow 5 finest := by
    rw [ten_pow, unitsPerOne]
  have hexact := nearest_units h (five_pow_pos finest)
  simpa only [exactDecimal, Decimal.magnitude, hden] using hexact

/-- The decimal that is written for a finite magnitude reads back as that magnitude. -/
theorem magnitude_shortest (negative : Bool) {bits : Nat} (h : bits < infinityBits) :
    (shortest negative bits).magnitude = bits := by
  unfold shortest
  cases hfound : (grids bits).findSome? fun exponent =>
      (neighbours negative bits exponent).find? (fun d => d.magnitude == bits) with
  | none => simpa [hfound] using magnitude_exactDecimal negative h
  | some d =>
    obtain ⟨exponent, -, hd⟩ := List.exists_of_findSome?_eq_some hfound
    simpa [hfound] using List.find?_some hd

/-- The decimal that is written for a finite double. -/
def decimalOf (x : Float) : Decimal :=
  if magnitude x = 0 then ⟨isNegative x, 0, 0⟩ else shortest (isNegative x) (magnitude x)

/-- The digits of a double: the fewest that read back as the same double, never with an
exponent, or a word for what is not a finite number. -/
def chars (x : Float) : List Char :=
  if x.isNaN then "NaN".toList
  else if x.isInf then (if isNegative x then "-inf" else "inf").toList
  else (decimalOf x).chars

/-- A double as text. -/
def text (x : Float) : String := String.ofList (chars x)

end Storyweave.Number
