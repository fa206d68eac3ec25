import Mathlib
import Storyweave.Proofs.Template.Weights

/-!
# Fair shares

A choice turns a random word into a number below the total of the weights, and that number into an
alternative. The product of a word and the total is a multiple of the total, and a word decides for
a number if its product falls into the window of that number. All windows hold equally many
multiples of the total, whatever it is. Results:
1. `card_deciding`: every number below a total is decided for by equally many words.
2. `card_choosing`: so an alternative is chosen by as many words as its weight says.
3. `card_passedOver_lt`: fewer words are passed over than the total says.
4. `Table.generate_shares`: these are the shares of the alternatives of a category.
-/

namespace Storyweave.Chance

variable {total : Nat}

/-! ## Words that decide for a number -/

/-- How many words decide for each number below a total. -/
def share (total : Nat) : Nat := wordCount / total

/-- The words that decide for a number from `low` up to, but not including, `high`. -/
def deciding (total low high : Nat) : Finset UInt32 :=
  {word | accepts total word = true ∧ low ≤ scaled total word ∧ scaled total word < high}

/-- The words that may decide. -/
def accepted (total : Nat) : Finset UInt32 := {word | accepts total word = true}

/-- The words that are passed over. -/
def passedOver (total : Nat) : Finset UInt32 := {word | ¬accepts total word = true}

/-- The multiples of a total in a window whose length is a multiple of it. -/
theorem mem_window_iff (h : 0 < total) (start count x : Nat) :
    x ∈ Finset.Ico (start ⌈/⌉ total) (start ⌈/⌉ total + count) ↔
      start ≤ x * total ∧ x * total < start + count * total := by
  have hlow (y : Nat) : start ⌈/⌉ total ≤ y ↔ start ≤ y * total := by
    rw [ceilDiv_le_iff_le_mul h, Nat.mul_comm]
  rw [Finset.mem_Ico, hlow]
  refine and_congr_right fun hstart => ?_
  rcases Nat.lt_or_ge x count with hx | hx
  · have hproduct := Nat.mul_lt_mul_of_pos_right hx h
    exact iff_of_true (by omega) (by omega)
  · obtain ⟨y, rfl⟩ := Nat.exists_eq_add_of_le hx
    have := hlow y
    rw [Nat.add_mul]
    omega

/-- What is not passed over are as many low halves as there are multiples of the share. -/
theorem rejected_add_share (h : 0 < total) (hle : total ≤ maxTotal) :
    rejected total + share total * total = wordCount ∧ rejected total < total := by
  have hmod : wordCount % total = rejected total :=
    Nat.mod_eq_sub_mod (Nat.le_trans hle (Nat.sub_le ..))
  have hdiv := Nat.mod_add_div wordCount total
  rw [hmod, Nat.mul_comm] at hdiv
  exact ⟨hdiv, Nat.mod_lt _ h⟩

/-- A word decides for a number exactly if its product with the total lies in the window of that
number. -/
theorem decides_iff (h : 0 < total) (hle : total ≤ maxTotal) (word : UInt32) (number : Nat) :
    accepts total word = true ∧ scaled total word = number ↔
      word.toNat ∈ Finset.Ico (number * wordCount ⌈/⌉ total)
        (number * wordCount ⌈/⌉ total + share total) := by
  obtain ⟨hsplit, hrejected⟩ := rejected_add_share h hle
  rw [mem_window_iff h, accepts, scaled, decide_eq_true_eq]
  generalize word.toNat * total = product
  unfold maxTotal wordCount at *
  omega

theorem card_decides (h : 0 < total) (hle : total ≤ maxTotal) {number : Nat}
    (hnumber : number < total) :
    (Finset.univ.filter fun word => accepts total word = true ∧ scaled total word = number).card =
      share total := by
  have hcard := Nat.card_Ico (number * wordCount ⌈/⌉ total)
    (number * wordCount ⌈/⌉ total + share total)
  rw [Nat.add_sub_cancel_left] at hcard
  rw [← hcard]
  -- what lies in the window of a number below the total is a word
  have hword (x : Nat) (hx : x ∈ Finset.Ico (number * wordCount ⌈/⌉ total)
      (number * wordCount ⌈/⌉ total + share total)) : (UInt32.ofNat x).toNat = x := by
    obtain ⟨hsplit, -⟩ := rejected_add_share h hle
    have hhigh := ((mem_window_iff h _ _ x).1 hx).2
    have hnext := Nat.mul_le_mul_right wordCount hnumber
    refine UInt32.toNat_ofNat_of_lt' (Nat.lt_of_mul_lt_mul_right (a := total) ?_)
    show x * total < wordCount * total
    rw [Nat.succ_mul, Nat.mul_comm total] at hnext
    omega
  refine Finset.card_nbij' UInt32.toNat UInt32.ofNat ?_ ?_ ?_ ?_
  · intro word hmem
    exact (decides_iff h hle word number).1 (by simpa using hmem)
  · intro x hx
    rw [Finset.mem_coe] at hx
    simpa using (decides_iff h hle _ number).2 (by rwa [hword x hx])
  · exact fun word _ => UInt32.ofNat_toNat
  · exact hword

/-- Every number below a total is decided for by equally many words. -/
theorem card_deciding (h : 0 < total) (hle : total ≤ maxTotal) (low : Nat) {high : Nat}
    (hhigh : high ≤ total) : (deciding total low high).card = (high - low) * share total := by
  have hmaps : Set.MapsTo (scaled total) (deciding total low high) (Finset.Ico low high) := by
    intro word hmem
    simpa using (Finset.mem_filter.1 hmem).2.2
  rw [Finset.card_eq_sum_card_fiberwise hmaps, ← Nat.card_Ico]
  refine Finset.sum_const_nat fun number hnumber => ?_
  obtain ⟨hlow, hlt⟩ := Finset.mem_Ico.1 hnumber
  rw [← card_decides h hle (Nat.lt_of_lt_of_le hlt hhigh), deciding, Finset.filter_filter]
  refine congrArg Finset.card (Finset.filter_congr fun word _ => ?_)
  constructor
  · exact fun ⟨⟨haccepts, _⟩, hscaled⟩ => ⟨haccepts, hscaled⟩
  · rintro ⟨haccepts, rfl⟩
    exact ⟨⟨haccepts, hlow, hlt⟩, rfl⟩

/-! ## Words that choose an alternative -/

theorem totalOf_take_succ {weights : List Nat} {index : Nat} (h : index < weights.length) :
    totalOf (weights.take (index + 1)) = totalOf (weights.take index) + weights[index] := by
  rw [List.take_succ_eq_append_getElem h, totalOf_append]
  rfl

/-- The alternative at which the sum of the weights first exceeds a number. -/
theorem indexAt_eq_iff {weights : List Nat} {number index : Nat} (h : number < totalOf weights) :
    indexAt weights number = index ↔
      totalOf (weights.take index) ≤ number ∧ number < totalOf (weights.take (index + 1)) := by
  induction weights generalizing number index with
  | nil => exact absurd h (Nat.not_lt_zero number)
  | cons weight weights ih =>
    rw [totalOf_cons] at h
    rw [indexAt]
    cases index with
    | zero => split <;> simp <;> omega
    | succ index =>
      rw [List.take_succ_cons, List.take_succ_cons, totalOf_cons, totalOf_cons]
      split
      case isTrue hlt => omega
      case isFalse hge =>
        have hrest := @ih (number - weight) index (by omega)
        omega

/-- The words that may decide and choose an alternative of some weights. -/
def choosing (weights : List Nat) (index : Nat) : Finset UInt32 :=
  {word | accepts (totalOf weights) word = true ∧ chosenBy weights word = index}

theorem choosing_eq {weights : List Nat} (h : 0 < totalOf weights) (index : Nat) :
    choosing weights index = deciding (totalOf weights) (totalOf (weights.take index))
      (totalOf (weights.take (index + 1))) :=
  Finset.filter_congr fun word _ => by rw [chosenBy, indexAt_eq_iff (scaled_lt h word)]

/-- An alternative is chosen by as many words as its weight says. -/
theorem card_choosing {weights : List Nat} (h : 0 < totalOf weights)
    (hle : totalOf weights ≤ maxTotal) {index : Nat} (hindex : index < weights.length) :
    (choosing weights index).card = weights[index] * share (totalOf weights) := by
  rw [choosing_eq h, card_deciding h hle _ (totalOf_take_le _ _), totalOf_take_succ hindex,
    Nat.add_sub_cancel_left]

/-! ## Words that are passed over -/

theorem card_words : (Finset.univ : Finset UInt32).card = wordCount := by
  rw [Finset.card_univ, ← FinEnum.card_eq_fintypeCard, FinEnum.card_UInt32]
  rfl

theorem card_accepted (h : 0 < total) (hle : total ≤ maxTotal) :
    (accepted total).card = total * share total := by
  have heq : accepted total = deciding total 0 total :=
    Finset.filter_congr fun word _ => by simp [scaled_lt h word]
  rw [heq, card_deciding h hle 0 (Nat.le_refl total), Nat.sub_zero]

/-- Fewer words are passed over than the total says. -/
theorem card_passedOver_lt (h : 0 < total) (hle : total ≤ maxTotal) :
    (passedOver total).card < total := by
  have hsplit : (accepted total).card + (passedOver total).card = wordCount :=
    card_words ▸ Finset.card_filter_add_card_filter_not _
  obtain ⟨hshare, hrejected⟩ := rejected_add_share h hle
  rw [card_accepted h hle, Nat.mul_comm] at hsplit
  omega

end Storyweave.Chance

namespace Storyweave.Template

open Storyweave.Chance

/-! ## Shares of alternatives -/

/-- Choices among the alternatives of a category are fair, if these have weights that can be chosen
among. What the category yields is decided by the first word of the stream that is not passed over:
it is what the alternative that this word chooses is filled to, and the stream goes on behind that
word. Of the words that may decide, every alternative is chosen by its weight times as many as there
are for each number below the total. So its share of them is the share of its weight in the total,
and fewer words than the total says are passed over. -/
theorem Table.generate_shares {t : Table} {category : String}
    (h : Weighed (t.alternatives category)) (hne : t.alternatives category ≠ []) :
    let alternatives := t.alternatives category
    let weights := alternatives.map Alternative.weight
    let total := totalOf weights
    (∀ (chance : Chance) (ahead : Nat), FirstAt (accepts total) chance ahead →
      ∃ inside : chosenBy weights (chance.wordAt ahead) < alternatives.length, ∀ slots,
        t.generate category slots chance =
          (fill category slots alternatives[chosenBy weights (chance.wordAt ahead)].segments,
            chance.skip (ahead + 1))) ∧
    (∀ index (inside : index < alternatives.length),
      (choosing weights index).card = alternatives[index].weight * (4294967296 / total) ∧
      ((choosing weights index).card : ℚ) / (accepted total).card =
        alternatives[index].weight / total) ∧
    (passedOver total).card ≤ total - 1 := by
  intro alternatives weights total
  have hpos : 0 < total := h.weightOf_pos hne
  have hle : total ≤ maxTotal := h.within
  refine ⟨fun chance ahead hfirst => ?_, fun index inside => ?_, ?_⟩
  · exact generate_of_choose h hne ((choose_eq_chosen_iff hpos hle).2 ⟨ahead, hfirst, rfl, rfl⟩)
  · have hcard : (choosing weights index).card = alternatives[index].weight * share total := by
      rw [card_choosing hpos hle (by rwa [List.length_map]), List.getElem_map]
    have hshare : (share total : ℚ) ≠ 0 := by
      have hroom : total ≤ wordCount := Nat.le_trans hle (Nat.sub_le ..)
      exact_mod_cast (Nat.div_pos hroom hpos).ne'
    refine ⟨hcard, ?_⟩
    rw [hcard, card_accepted hpos hle, Nat.cast_mul, Nat.cast_mul, mul_div_mul_right _ _ hshare]
  · exact Nat.le_sub_one_of_lt (card_passedOver_lt hpos hle)

/-- A table with nine greetings of one kind to one of another, and with partings whose weights make
a choice pass over almost every other word. -/
def Table.greetings : Table :=
  let greet := ((addTemplates "greet" [⟨9, "hello"⟩, ⟨1, "hi"⟩]).outcome empty).2
  ((addTemplates "part" [⟨1300000000, "bye"⟩, ⟨847483649, "so long"⟩]).outcome greet).2

/-- Nine words to one, and fewer than ten are passed over. Behind the first word of the stream a
parting passes over a word that stands for the second one, and the word behind that decides for the
first. -/
theorem Table.generate_shares_nine_to_one :
    Weighed (greetings.alternatives "greet") ∧ greetings.alternatives "greet" ≠ [] ∧
      (choosing [9, 1] 0).card = 9 * 429496729 ∧ (choosing [9, 1] 1).card = 429496729 ∧
      ((choosing [9, 1] 0).card : ℚ) / (accepted 10).card = 9 / 10 ∧
      (passedOver 10).card ≤ 9 ∧
      (∀ slots, greetings.generate "greet" slots (ofSeed 0) = (.ok "hello", ⟨0, 1⟩)) ∧
      Weighed (greetings.alternatives "part") ∧ greetings.alternatives "part" ≠ [] ∧
      FirstAt (accepts 2147483649) ⟨0, 1⟩ 1 ∧
      chosenBy [1300000000, 847483649] ((⟨0, 1⟩ : Chance).wordAt 0) = 1 ∧
      ∀ slots, greetings.generate "part" slots ⟨0, 1⟩ = (.ok "bye", ⟨0, 3⟩) := by
  have hgreet : greetings.alternatives "greet" =
      [⟨9, [.literal "hello"]⟩, ⟨1, [.literal "hi"]⟩] := by cbv
  have hpart : greetings.alternatives "part" =
      [⟨1300000000, [.literal "bye"]⟩, ⟨847483649, [.literal "so long"]⟩] := by cbv
  have htotal : totalOf ((greetings.alternatives "part").map Alternative.weight) = 2147483649 := by
    rw [hpart]
    rfl
  have hselectable : greetings.Selectable :=
    (Selectable.empty.addTemplates "greet" _).addTemplates "part" _
  have hsome : greetings.alternatives "greet" ≠ [] := by simp [hgreet]
  have hothers : greetings.alternatives "part" ≠ [] := by simp [hpart]
  have hfirst : FirstAt (accepts 10) (ofSeed 0) 0 := firstAt_zero_iff.2 (by decide +kernel)
  have hsecond : FirstAt (accepts 2147483649) ⟨0, 1⟩ 1 :=
    ⟨by decide +kernel, by decide +kernel⟩
  obtain ⟨hdecided, hcards, hpassed⟩ := Table.generate_shares (hselectable "greet") hsome
  obtain ⟨hparted, -, -⟩ := Table.generate_shares (hselectable "part") hothers
  simp only [hgreet] at hdecided hcards hpassed
  obtain ⟨hnine, hshare⟩ := hcards 0 (by decide)
  obtain ⟨hone, -⟩ := hcards 1 (by decide)
  obtain ⟨_, hgreeted⟩ := hdecided (ofSeed 0) 0 hfirst
  obtain ⟨_, hparting⟩ := hparted ⟨0, 1⟩ 1 (htotal ▸ hsecond)
  have hchosen : chosenBy [9, 1] ((ofSeed 0).wordAt 0) = 0 := by decide +kernel
  have hpartedBy : chosenBy ((greetings.alternatives "part").map Alternative.weight)
      ((⟨0, 1⟩ : Chance).wordAt 1) = 0 := by
    rw [hpart]
    decide +kernel
  simp only [List.map_cons, List.map_nil, totalOf_cons, totalOf_nil, Nat.reduceAdd, Nat.reduceDiv,
    Nat.one_mul, Nat.cast_ofNat, List.getElem_cons_zero, List.getElem_cons_succ, hchosen]
    at hnine hshare hone hpassed hgreeted
  simp only [hpartedBy] at hparting
  simp only [hpart, List.getElem_cons_zero] at hparting
  exact ⟨hselectable "greet", hsome, hnine, hone, hshare, hpassed, hgreeted, hselectable "part",
    hothers, hsecond, by decide +kernel, hparting⟩

end Storyweave.Template
