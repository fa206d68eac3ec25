import Storyweave.Chance.Choice

/-!
# Where a search for a word ends

A choice takes one word of the stream after another until one may decide. Results:
1. `firstAccepted_eq_some_iff`, `firstAccepted_eq_none_iff`: what a search finds is the first word
   that passes its test, and the search goes on from behind it.
2. `wordAt_add_period`: the words of a stream come again, so that a search through all of them
   (`firstAccepted_period_eq_some_iff`, `firstAccepted_period_eq_none_iff`) misses none.
3. `choose_eq_chosen_iff`, `choose_eq_endless_iff`, `choose_eq_refused_iff`: when a choice comes to
   what.
-/

namespace Storyweave.Chance

variable {test : UInt32 → Bool} {c later : Chance} {word : UInt32}

/-- The first word from a place on that passes a test is the one behind so many others. -/
structure FirstAt (test : UInt32 → Bool) (c : Chance) (ahead : Nat) : Prop where
  failed : ∀ before < ahead, test (c.wordAt before) = false
  passes : test (c.wordAt ahead) = true

theorem firstAt_zero_iff : FirstAt test c 0 ↔ test (c.wordAt 0) = true :=
  ⟨FirstAt.passes, fun h => ⟨nofun, h⟩⟩

/-- Where the next word fails the test, the first one that passes comes behind it. -/
theorem firstAt_succ_iff {ahead : Nat} :
    FirstAt test c (ahead + 1) ↔ test (c.wordAt 0) = false ∧ FirstAt test (c.skip 1) ahead := by
  constructor
  · intro h
    refine ⟨h.failed 0 (Nat.zero_lt_succ _), fun before hbefore => ?_, ?_⟩
    · rw [wordAt_skip_one]
      exact h.failed _ (Nat.succ_lt_succ hbefore)
    · rw [wordAt_skip_one]
      exact h.passes
  · rintro ⟨hnext, h⟩
    refine ⟨fun before hbefore => ?_, wordAt_skip_one c ahead ▸ h.passes⟩
    cases before with
    | zero => exact hnext
    | succ before =>
      rw [← wordAt_skip_one]
      exact h.failed before (Nat.lt_of_succ_lt_succ hbefore)

/-! ## Searching among the next words -/

theorem firstAccepted_succ (test : UInt32 → Bool) (count : Nat) (c : Chance) :
    firstAccepted test (count + 1) c =
      if test (c.wordAt 0) = true then some (c.wordAt 0, c.skip 1)
      else firstAccepted test count (c.skip 1) := rfl

/-- What is found is the first word that passes the test, and the place behind it. -/
theorem firstAccepted_eq_some_iff {count : Nat} :
    firstAccepted test count c = some (word, later) ↔
      ∃ ahead < count, FirstAt test c ahead ∧ c.wordAt ahead = word ∧
        c.skip (ahead + 1) = later := by
  induction count generalizing c with
  | zero => exact iff_of_false nofun nofun
  | succ count ih =>
    rw [firstAccepted_succ]
    split
    case isTrue hpasses =>
      constructor
      · rintro ⟨⟩
        exact ⟨0, Nat.zero_lt_succ _, firstAt_zero_iff.2 hpasses, rfl, rfl⟩
      · rintro ⟨ahead, -, hfirst, rfl, rfl⟩
        -- no word comes before the next one
        cases ahead with
        | zero => rfl
        | succ ahead => exact absurd hpasses (by rw [(firstAt_succ_iff.1 hfirst).1]; nofun)
    case isFalse hfails =>
      rw [ih]
      constructor
      · rintro ⟨ahead, hahead, hfirst, rfl, rfl⟩
        have hfirst' : FirstAt test c (ahead + 1) :=
          firstAt_succ_iff.2 ⟨eq_false_of_ne_true hfails, hfirst⟩
        exact ⟨ahead + 1, Nat.succ_lt_succ hahead, hfirst', (wordAt_skip_one c ahead).symm,
          (skip_one_skip c _).symm⟩
      · rintro ⟨ahead, hahead, hfirst, rfl, rfl⟩
        cases ahead with
        | zero => exact absurd hfirst.passes hfails
        | succ ahead =>
          exact ⟨ahead, Nat.lt_of_succ_lt_succ hahead, (firstAt_succ_iff.1 hfirst).2,
            wordAt_skip_one c ahead, skip_one_skip c _⟩

/-- Nothing is found exactly if each of the next words fails the test. -/
theorem firstAccepted_eq_none_iff {count : Nat} :
    firstAccepted test count c = none ↔ ∀ ahead < count, test (c.wordAt ahead) = false := by
  induction count generalizing c with
  | zero => exact iff_of_true rfl nofun
  | succ count ih =>
    rw [firstAccepted_succ, Nat.forall_lt_succ_left]
    split
    case isTrue hpasses => exact iff_of_false nofun fun h => by rw [h.1] at hpasses; cases hpasses
    case isFalse hfails =>
      rw [ih, and_iff_right (eq_false_of_ne_true hfails)]
      simp only [wordAt_skip_one]

/-! ## Searching through a whole stream -/

/-- The counter of a block has two words, so the blocks come again. -/
theorem block_add (seed : UInt64) (counter : Nat) :
    block seed (counter + 1 <<< 64) = block seed counter := by
  have hlow : UInt32.ofNat (counter + 1 <<< 64) = UInt32.ofNat counter := by
    rw [← UInt32.toNat_inj]
    simp only [UInt32.toNat_ofNat', Nat.shiftLeft_eq]
    omega
  have hhigh : UInt32.ofNat ((counter + 1 <<< 64) >>> 32) = UInt32.ofNat (counter >>> 32) := by
    rw [← UInt32.toNat_inj]
    simp only [UInt32.toNat_ofNat', Nat.shiftLeft_eq, Nat.shiftRight_eq_div_pow]
    omega
  unfold block plainBlock
  rw [hlow, hhigh]

/-- The words of a stream come again. -/
theorem word_add_period (seed : UInt64) (index : Nat) :
    Chance.word seed (index + period) = Chance.word seed index := by
  have hblock : (index + period) / 16 = index / 16 + 1 <<< 64 := by
    simp only [period, Nat.shiftLeft_eq]
    omega
  have hplace : (index + period) % 16 = index % 16 := by
    simp only [period, Nat.shiftLeft_eq]
    omega
  unfold Chance.word
  simp only [hblock, hplace, block_add]

theorem wordAt_add_period (c : Chance) (ahead : Nat) :
    c.wordAt (ahead + period) = c.wordAt ahead := by
  rw [wordAt, ← Nat.add_assoc, word_add_period, wordAt]

/-- The first word that passes a test comes before the words repeat. -/
theorem FirstAt.lt_period {ahead : Nat} (h : FirstAt test c ahead) : ahead < period := by
  refine Nat.lt_of_not_ge fun hge => ?_
  obtain ⟨before, rfl⟩ := Nat.exists_eq_add_of_le' hge
  have hfailed := h.failed before (Nat.lt_add_of_pos_right (by decide))
  rw [← wordAt_add_period, h.passes] at hfailed
  cases hfailed

/-- A search through a whole period finds the first word of the stream that passes its test. -/
theorem firstAccepted_period_eq_some_iff :
    firstAccepted test period c = some (word, later) ↔
      ∃ ahead, FirstAt test c ahead ∧ c.wordAt ahead = word ∧ c.skip (ahead + 1) = later := by
  rw [firstAccepted_eq_some_iff]
  exact exists_congr fun ahead => and_iff_right_of_imp fun h => h.1.lt_period

/-- It finds nothing only if no word of the stream passes, however far ahead. -/
theorem firstAccepted_period_eq_none_iff :
    firstAccepted test period c = none ↔ ∀ ahead, test (c.wordAt ahead) = false := by
  rw [firstAccepted_eq_none_iff]
  refine ⟨fun h ahead => ?_, fun h ahead _ => h ahead⟩
  have hpos : 0 < period := by decide
  -- the word is one of the first period
  rw [← Nat.mod_add_div' ahead period]
  induction ahead / period with
  | zero =>
    rw [Nat.zero_mul]
    exact h _ (Nat.mod_lt _ hpos)
  | succ rounds ih => rw [Nat.succ_mul, ← Nat.add_assoc, wordAt_add_period, ih]

/-! ## What a choice comes to -/

variable {weights : List Nat}

/-- Weights are refused exactly if they come to nothing or to more than a word holds. -/
theorem choose_eq_refused_iff :
    choose weights c = .refused ↔ ¬(0 < totalOf weights ∧ totalOf weights ≤ maxTotal) := by
  rw [choose]
  split
  case isTrue h => exact iff_of_false (by split <;> nofun) (not_not_intro h)
  case isFalse h => exact iff_of_true rfl h

section

variable (hpos : 0 < totalOf weights) (hle : totalOf weights ≤ maxTotal)

include hpos hle

/-- Weights that are not refused leave the choice to the first word of the stream that may
decide. -/
theorem choose_eq_chosen_iff {index : Nat} :
    choose weights c = .chosen index later ↔ ∃ ahead, FirstAt (accepts (totalOf weights)) c ahead ∧
      chosenBy weights (c.wordAt ahead) = index ∧ c.skip (ahead + 1) = later := by
  rw [choose, if_pos ⟨hpos, hle⟩]
  constructor
  · intro h
    split at h
    case h_1 word place hfound =>
      obtain ⟨ahead, hfirst, rfl, rfl⟩ := firstAccepted_period_eq_some_iff.1 hfound
      cases h
      exact ⟨ahead, hfirst, rfl, rfl⟩
    case h_2 => cases h
  · rintro ⟨ahead, hfirst, rfl, rfl⟩
    rw [firstAccepted_period_eq_some_iff.2 ⟨ahead, hfirst, rfl, rfl⟩]

/-- The search for that word has no end exactly if no word of the stream may decide. -/
theorem choose_eq_endless_iff :
    choose weights c = .endless ↔ ∀ ahead, accepts (totalOf weights) (c.wordAt ahead) = false := by
  rw [choose, if_pos ⟨hpos, hle⟩, ← firstAccepted_period_eq_none_iff]
  split
  case h_1 hfound => exact iff_of_false nofun fun hnone => by rw [hnone] at hfound; cases hfound
  case h_2 hnone => exact iff_of_true rfl hnone

end

end Storyweave.Chance
