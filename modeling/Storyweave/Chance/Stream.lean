/-!
# A stream of random words

The words are those of the ChaCha cipher with twelve rounds, under a key that is spun from a
seed. A source of chance is a place in such a stream, so its whole future is a function of
the seed and of how many words were drawn.
-/

namespace Storyweave.Chance

/-- A word rotated to the right. -/
def rotateRight (x : UInt32) (count : UInt32) : UInt32 := (x >>> count) ||| (x <<< (32 - count))

/-- A word rotated to the left. -/
def rotateLeft (x : UInt32) (count : UInt32) : UInt32 := (x <<< count) ||| (x >>> (32 - count))

/-! ## The key -/

/-- The step of the linear congruence that spins a seed. -/
def spin (state : UInt64) : UInt64 := state * 6364136223846793005 + 11634580027462260723

/-- The word that a spun state yields: its middle bits, rotated by its highest ones. -/
def yield (state : UInt64) : UInt32 :=
  rotateRight (((state >>> 18) ^^^ state) >>> 27).toUInt32 (state >>> 59).toUInt32

/-- So many words spun from a state. -/
def spinWords : Nat → UInt64 → List UInt32
  | 0, _ => []
  | count + 1, state => yield (spin state) :: spinWords count (spin state)

/-! ## Blocks -/

/-- The sixteen words of a block. -/
abbrev Block := Vector UInt32 16

/-- Mixes four words of a block. -/
def quarterRound (b : Block) (i j k l : Fin 16) : Block :=
  let b := b.set i (b[i] + b[j])
  let b := b.set l (rotateLeft (b[l] ^^^ b[i]) 16)
  let b := b.set k (b[k] + b[l])
  let b := b.set j (rotateLeft (b[j] ^^^ b[k]) 12)
  let b := b.set i (b[i] + b[j])
  let b := b.set l (rotateLeft (b[l] ^^^ b[i]) 8)
  let b := b.set k (b[k] + b[l])
  b.set j (rotateLeft (b[j] ^^^ b[k]) 7)

/-- Mixes the columns of a block and then its diagonals. -/
def doubleRound (b : Block) : Block :=
  let b := quarterRound b 0 4 8 12
  let b := quarterRound b 1 5 9 13
  let b := quarterRound b 2 6 10 14
  let b := quarterRound b 3 7 11 15
  let b := quarterRound b 0 5 10 15
  let b := quarterRound b 1 6 11 12
  let b := quarterRound b 2 7 8 13
  quarterRound b 3 4 9 14

/-- A block before it is mixed: four constants, the key, a counter of two words, and zeros. -/
def plainBlock (seed : UInt64) (counter : Nat) : Block :=
  let constants : List UInt32 := [0x61707865, 0x3320646e, 0x79622d32, 0x6b206574]
  let words := (constants ++ spinWords 8 seed).toArray
  Vector.ofFn fun i =>
    if i.val = 12 then UInt32.ofNat counter
    else if i.val = 13 then UInt32.ofNat (counter >>> 32)
    else words.getD i.val 0

/-- A block of the stream: the plain block mixed in twelve rounds and added to itself. -/
def block (seed : UInt64) (counter : Nat) : Block :=
  let plain := plainBlock seed counter
  Vector.zipWith (· + ·) (Nat.repeat doubleRound 6 plain) plain

/-- A word of the stream of a seed. -/
def word (seed : UInt64) (index : Nat) : UInt32 :=
  have : index % 16 < 16 := Nat.mod_lt _ (by decide)
  (block seed (index / 16))[index % 16]

end Storyweave.Chance

namespace Storyweave

/-- A place in the stream of a seed. -/
structure Chance where
  seed : UInt64
  /-- How many words were drawn so far. -/
  drawn : Nat
deriving DecidableEq, Repr

end Storyweave

namespace Storyweave.Chance

/-- The beginning of the stream of a seed. -/
def ofSeed (seed : UInt64) : Chance := ⟨seed, 0⟩

/-- The word that comes behind so many others. -/
def wordAt (c : Chance) (ahead : Nat) : UInt32 := word c.seed (c.drawn + ahead)

/-- The place behind so many more words. -/
def skip (c : Chance) (count : Nat) : Chance := { c with drawn := c.drawn + count }

/-- The next word, and the place behind it. -/
def next (c : Chance) : UInt32 × Chance := (word c.seed c.drawn, { c with drawn := c.drawn + 1 })

theorem wordAt_skip_one (c : Chance) (ahead : Nat) :
    (c.skip 1).wordAt ahead = c.wordAt (ahead + 1) := by
  rw [wordAt, wordAt, skip, Nat.add_assoc, Nat.add_comm 1]

theorem skip_one_skip (c : Chance) (count : Nat) : (c.skip 1).skip count = c.skip (count + 1) := by
  rw [skip, skip, skip, Nat.add_assoc, Nat.add_comm 1]

example : ((ofSeed 0).next.1, (ofSeed 0).next.2.next.1) = (3442241407, 3140108210) := by
  decide +kernel

example : (ofSeed 42).next.1 = 572990626 := by decide +kernel

end Storyweave.Chance
