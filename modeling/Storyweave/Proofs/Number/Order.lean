import Mathlib
import Storyweave.Number.Binary64

/-!
# The order of doubles

Every double that is a number has a place, and it is less than another one if its place is. What is
no number is neither less nor greater than anything. Results:
1. `lt_iff_place`: the order of doubles is the order of their places.
2. `AtLeast.trans`: so it is transitive to be at least another double, also where some of them are
   no numbers.
3. `Greatest.larger`: the larger of a greatest of some doubles and another one is a greatest of all.
4. `Greatest.foldl_larger`: so what is left of doubles after taking the larger one over and over is
   a greatest of them.
-/

namespace Storyweave.Number

open Float.Model Float.Model.UnpackedFloat

variable {x y z : Float}

/-! ## Places -/

/-- The place of an unpacked double, first by its kind and then by its exponent and its mantissa.
What is no number is put beside the zeros. -/
def placeOf : UnpackedFloat → ℤ ×ₗ ℤ ×ₗ ℤ
  | .infinity .negative => toLex (-2, toLex (0, 0))
  | .finite .negative mantissa exponent _ => toLex (-1, toLex (-exponent, -(mantissa : ℤ)))
  | .zero _ | .notANumber => toLex (0, toLex (0, 0))
  | .finite .positive mantissa exponent _ => toLex (1, toLex (exponent, (mantissa : ℤ)))
  | .infinity .positive => toLex (2, toLex (0, 0))

/-- Where a number stands among all numbers. -/
def place (x : Float) : ℤ ×ₗ ℤ ×ₗ ℤ := placeOf x.toModel.unpack

theorem unpacked_lt_iff (a b : UnpackedFloat) :
    a.lt b = true ↔ a.isNaN = false ∧ b.isNaN = false ∧ placeOf a < placeOf b := by
  have hsigns : compare Sign.negative Sign.positive = .lt := rfl
  rw [UnpackedFloat.lt, beq_iff_eq]
  rcases a with (_ | _) | _ | _ | ⟨_ | _, m, e, hm⟩ <;>
    rcases b with (_ | _) | _ | _ | ⟨_ | _, n, d, hn⟩ <;>
    simp [UnpackedFloat.compare, UnpackedFloat.isNaN, placeOf, Prod.Lex.toLex_lt_toLex,
      Ordering.then_eq_lt, Ordering.swap_then, compare_lt_iff_lt, compare_gt_iff_gt, hsigns]

theorem lt_iff_place : x < y ↔ x.isNaN = false ∧ y.isNaN = false ∧ place x < place y := by
  have hlt : x < y ↔ x.toModel.unpack.lt y.toModel.unpack = true := by
    show decide (x.toModel < y.toModel) = true ↔ _
    rw [decide_eq_true_iff]
    rfl
  rw [hlt, unpacked_lt_iff]
  rfl

theorem not_lt_self (x : Float) : ¬x < x := fun h => absurd (lt_iff_place.1 h).2.2 (lt_irrefl _)

theorem not_lt_of_lt (h : x < y) : ¬y < x := fun hback =>
  absurd (lt_iff_place.1 hback).2.2 (lt_iff_place.1 h).2.2.asymm

theorem not_lt_of_isNaN_right (h : y.isNaN = true) (x : Float) : ¬x < y := fun hlt =>
  Bool.noConfusion (h.symm.trans (lt_iff_place.1 hlt).2.1)

/-! ## Doubles that are at least another one -/

/-- One double is at least another one. What is no number is at least what is none either. -/
def AtLeast (x y : Float) : Prop := ¬x < y ∧ (x.isNaN = true → y.isNaN = true)

theorem atLeast_iff : AtLeast x y ↔ y.isNaN = true ∨ x.isNaN = false ∧ place y ≤ place x := by
  rw [AtLeast, lt_iff_place]
  cases x.isNaN <;> cases y.isNaN <;> simp

theorem AtLeast.refl (x : Float) : AtLeast x x := ⟨not_lt_self x, id⟩

theorem AtLeast.trans (hxy : AtLeast x y) (hyz : AtLeast y z) : AtLeast x z := by
  rw [atLeast_iff] at *
  rcases hyz with hz | ⟨hy, hzy⟩
  · exact .inl hz
  · rcases hxy with hnan | ⟨hx, hyx⟩
    · rw [hnan] at hy
      cases hy
    · exact .inr ⟨hx, hzy.trans hyx⟩

theorem larger_eq (x y : Float) : larger x y = x ∨ larger x y = y := by
  unfold larger
  split
  · exact .inl rfl
  · exact .inr rfl

theorem larger_atLeast (x y : Float) : AtLeast (larger x y) x ∧ AtLeast (larger x y) y := by
  unfold larger
  split
  case isTrue hkeep =>
    refine ⟨.refl x, ?_⟩
    rw [Bool.or_eq_true, decide_eq_true_iff] at hkeep
    rcases hkeep with hnan | hless
    · exact ⟨not_lt_of_isNaN_right hnan x, fun _ => hnan⟩
    · exact ⟨not_lt_of_lt hless, fun hx => absurd hless (not_lt_of_isNaN_right hx y)⟩
  case isFalse htake =>
    rw [Bool.or_eq_true, decide_eq_true_iff, not_or] at htake
    exact ⟨⟨htake.2, fun hnan => absurd hnan htake.1⟩, .refl y⟩

/-! ## Greatest doubles -/

/-- One of some doubles that is at least each of them. -/
structure Greatest (xs : List Float) (w : Float) : Prop where
  mem : w ∈ xs
  atLeast : ∀ x ∈ xs, AtLeast w x

namespace Greatest

variable {xs others : List Float} {w : Float}

theorem singleton (w : Float) : Greatest [w] w :=
  ⟨List.mem_singleton_self w, List.forall_mem_singleton.2 (.refl w)⟩

theorem larger (h : Greatest xs w) (y : Float) : Greatest (xs ++ [y]) (larger w y) := by
  obtain ⟨hleft, hright⟩ := larger_atLeast w y
  constructor
  · rcases larger_eq w y with heq | heq <;> rw [heq]
    · exact List.mem_append_left _ h.mem
    · exact List.mem_append_right _ (List.mem_singleton_self y)
  · refine List.forall_mem_append.2 ⟨fun x hx => ?_, List.forall_mem_singleton.2 hright⟩
    exact hleft.trans (h.atLeast x hx)

theorem foldl_larger (h : Greatest xs w) (others : List Float) :
    Greatest (xs ++ others) (others.foldl Number.larger w) := by
  induction others generalizing xs w with
  | nil => rwa [List.append_nil]
  | cons y others ih =>
    rw [List.append_cons, List.foldl_cons]
    exact ih (h.larger y)

/-- A greatest of some doubles is a greatest of more of them if each of the others has one of the
first that is at least as great. -/
theorem of_subset (h : Greatest xs w) (hsub : xs ⊆ others)
    (hcover : ∀ y ∈ others, ∃ x ∈ xs, AtLeast x y) : Greatest others w := by
  refine ⟨hsub h.mem, fun y hy => ?_⟩
  obtain ⟨x, hx, hxy⟩ := hcover y hy
  exact (h.atLeast x hx).trans hxy

end Greatest

end Storyweave.Number
