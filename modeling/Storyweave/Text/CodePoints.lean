/-!
# Tables of code points

A property of characters is a list of stretches in ascending order. A stretch may leave out
every second code point, because in many scripts small and capital letters alternate.
-/

namespace Storyweave.Text

/-- The code points `first`, `first + step`, `first + 2 * step`, …, up to `last`. -/
structure Stretch where
  first : Nat
  last : Nat
  step : Nat
deriving DecidableEq, Repr

namespace Stretch

/-- Whether a code point lies in the stretch. -/
def covers (s : Stretch) (code : Nat) : Bool :=
  s.first ≤ code && code ≤ s.last && (code - s.first) % s.step == 0

/-- Whether some stretch of an ascending table covers a code point. The search ends at the
first stretch that begins beyond it. -/
def anyCovers : List Stretch → Nat → Bool
  | [], _ => false
  | s :: rest, code => if code < s.first then false else s.covers code || anyCovers rest code

/-- On an ascending table, ending the search early loses nothing. -/
theorem anyCovers_eq_any {table : List Stretch} (h : table.Pairwise (·.first ≤ ·.first))
    (code : Nat) : anyCovers table code = table.any (·.covers code) := by
  induction table with
  | nil => rfl
  | cons s rest ih =>
    simp only [anyCovers, List.any_cons]
    split
    case isTrue hlt =>
      have later : rest.any (·.covers code) = false := by
        refine List.any_eq_false.2 fun t ht hc => ?_
        have := (List.pairwise_cons.1 h).1 t ht
        simp only [covers, Bool.and_eq_true, decide_eq_true_eq] at hc
        omega
      have here : s.covers code = false := by
        simp only [covers, Bool.and_eq_false_iff, decide_eq_false_iff_not]
        exact .inl (.inl (by omega))
      rw [here, later]
      rfl
    case isFalse => rw [ih (List.pairwise_cons.1 h).2]

end Stretch

/-- A stretch of code points and how far the other case of each lies from it. -/
structure CaseShift where
  stretch : Stretch
  offset : Int

/-- The character of an ascending table of shifts that a character turns into, itself if no
shift covers it. -/
def CaseShift.apply : List CaseShift → Char → Char
  | [], c => c
  | s :: rest, c =>
    if c.toNat < s.stretch.first then c
    else if s.stretch.covers c.toNat then Char.ofNat (c.toNat + s.offset).toNat
    else apply rest c

end Storyweave.Text
