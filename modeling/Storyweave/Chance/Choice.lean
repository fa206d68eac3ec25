import Storyweave.Chance.Stream

/-!
# Weighted choices

A choice among alternatives of given weights takes a word of 32 bits for every number below
the total weight equally often. The product of a word and the total is split into a high and
a low half; words whose low half lies beyond a bound are passed over, and the high half of
the first other word is the number that decides. Some weights are refused, and a stream could be
such that no word of it may decide: these are two outcomes besides a choice.
-/

namespace Storyweave.Chance

/-- The number of words. -/
def wordCount : Nat := 4294967296

/-- How many low halves are passed over for a total. -/
def rejected (total : Nat) : Nat := (wordCount - total) % total

/-- Whether a word may decide about a number below a total. -/
def accepts (total : Nat) (word : UInt32) : Bool :=
  word.toNat * total % wordCount ≤ wordCount - 1 - rejected total

/-- The number below a total that a word stands for. -/
def scaled (total : Nat) (word : UInt32) : Nat := word.toNat * total / wordCount

/-- The stream of a seed repeats after so many words. -/
def period : Nat := 1 <<< 68

/-- The first word that satisfies a test among the next `count` words, and the place behind
it. -/
def firstAccepted (test : UInt32 → Bool) : (count : Nat) → Chance → Option (UInt32 × Chance)
  | 0, _ => none
  | count + 1, c =>
    let (word, c) := c.next
    if test word then some (word, c) else firstAccepted test count c

/-- The first alternative whose weight, added to those before it, exceeds a number. -/
def indexAt : List Nat → Nat → Nat
  | [], _ => 0
  | weight :: weights, number =>
    if number < weight then 0 else 1 + indexAt weights (number - weight)

/-- What some weights come to. -/
def totalOf (weights : List Nat) : Nat := weights.foldr (· + ·) 0

/-- The largest total of weights among which a choice can be made. -/
def maxTotal : Nat := wordCount - 1

/-- The alternative of some weights that a word chooses, by its place among them. -/
def chosenBy (weights : List Nat) (word : UInt32) : Nat :=
  indexAt weights (scaled (totalOf weights) word)

/-- What comes of a choice. -/
inductive Choice where
  /-- The weights come to nothing, or to more than a word holds. No word is drawn. -/
  | refused
  /-- No word of the stream may decide, and so the search for one has no end. -/
  | endless
  /-- An alternative, by its place, and the place in the stream behind the word that chose it. -/
  | chosen (index : Nat) (later : Chance)
deriving DecidableEq, Repr

/-- Chooses an alternative by its weight. -/
def choose (weights : List Nat) (c : Chance) : Choice :=
  let total := totalOf weights
  if 0 < total ∧ total ≤ maxTotal then
    match firstAccepted (accepts total) period c with
    | some (word, later) => .chosen (chosenBy weights word) later
    | none => .endless
  else .refused

/-! ## Totals and places -/

@[simp] theorem totalOf_nil : totalOf [] = 0 := rfl

@[simp] theorem totalOf_cons (weight : Nat) (weights : List Nat) :
    totalOf (weight :: weights) = weight + totalOf weights := rfl

theorem totalOf_append (weights others : List Nat) :
    totalOf (weights ++ others) = totalOf weights + totalOf others := by
  induction weights with
  | nil => simp
  | cons weight weights ih => rw [List.cons_append, totalOf_cons, totalOf_cons, ih, Nat.add_assoc]

/-- The sums on the way to a total are within it. -/
theorem totalOf_take_le (count : Nat) (weights : List Nat) :
    totalOf (weights.take count) ≤ totalOf weights := by
  have hsplit := totalOf_append (weights.take count) (weights.drop count)
  rw [List.take_append_drop] at hsplit
  omega

/-- A number below the total of the weights falls on one of them. -/
theorem indexAt_lt {weights : List Nat} {number : Nat} (h : number < totalOf weights) :
    indexAt weights number < weights.length := by
  induction weights generalizing number with
  | nil => exact absurd h (Nat.not_lt_zero number)
  | cons weight weights ih =>
    rw [totalOf_cons] at h
    rw [indexAt, List.length_cons]
    split
    · exact Nat.zero_lt_succ _
    · have hrest : number - weight < totalOf weights := by omega
      have := ih hrest
      omega

theorem scaled_lt {total : Nat} (h : 0 < total) (word : UInt32) : scaled total word < total :=
  Nat.div_lt_of_lt_mul (Nat.mul_lt_mul_of_pos_right word.toNat_lt h)

/-- What a word chooses is one of the weights. -/
theorem chosenBy_lt {weights : List Nat} (h : 0 < totalOf weights) (word : UInt32) :
    chosenBy weights word < weights.length :=
  indexAt_lt (scaled_lt h word)

end Storyweave.Chance
