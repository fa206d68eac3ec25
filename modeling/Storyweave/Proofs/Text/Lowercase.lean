import Storyweave.Proofs.Text.Spacing
import Storyweave.Proofs.Text.Uppercase
import Storyweave.Text.Lowercase

/-!
# Small forms

What the tables say about the small form of a character, and how a text in small letters is made of
words. Results:
1. `visible_of_mem_lowerChar`: a small form is not blank unless the character is.
2. `lowerChar_eq_self_or`: a character is its own small form, or that begins with no capital.
3. `lowerFrom_append_cons`: a blank separates the text before it from the text behind it.
4. `wordsOf_lowerFrom`: the words of a text in small letters are its words in small letters.
5. `lowerFrom_intercalate`: the same for words with spaces between them.
-/

namespace Storyweave.Text

/-! ## The tables of small forms -/

/-- No capital turns into a blank or a capital. -/
theorem lowerShifts_target : lowerShifts.all (fun s =>
    decide (0 ≤ s.stretch.first + s.offset) && s.target.valid &&
      (blanks ++ uppercaseLetters).all fun t => s.target.apart t || t.apart s.target) = true := by
  decide +kernel

/-- A blank has no case and no small form, and no rule looks through it. -/
theorem blanks_caseless : blanks.all (fun s => s.codes.all fun code =>
    !isCased (Char.ofNat code) && !isCaseIgnorable (Char.ofNat code) &&
      lowerChar (Char.ofNat code) == [Char.ofNat code] && Char.ofNat code != 'Σ') = true := by
  decide +kernel

/-! ## The small form of a character -/

variable {b c x : Char} {before : List Char}

theorem caseless_of_isBlank (h : isBlank b = true) :
    isCased b = false ∧ isCaseIgnorable b = false ∧ lowerChar b = [b] ∧ b ≠ 'Σ' := by
  obtain ⟨s, hs, hcovers⟩ := Stretch.exists_of_anyCovers h
  have hall := List.all_eq_true.1 (List.all_eq_true.1 blanks_caseless s hs) _
    (Stretch.mem_codes hcovers)
  simpa [Char.ofNat_toNat, and_assoc] using hall

/-- A small form is that of the dotted capital, a shifted character, or the character itself. -/
theorem lowerChar_cases (c : Char) :
    lowerChar c = ['i', '\u0307'] ∨
      (∃ s ∈ lowerShifts, s.stretch.covers c.toNat = true ∧
        lowerChar c = [Char.ofNat (c.toNat + s.offset).toNat]) ∨ lowerChar c = [c] := by
  unfold lowerChar
  split
  case isTrue => exact .inl rfl
  case isFalse =>
    rcases CaseShift.apply_cases lowerShifts c with hself | ⟨s, hs, hcovers, happly⟩
    · exact .inr (.inr (by rw [hself]))
    · exact .inr (.inl ⟨s, hs, hcovers, by rw [happly]⟩)

/-- What a capital turns into is neither a blank nor a capital. -/
theorem small_of_shift {s : CaseShift} (hs : s ∈ lowerShifts)
    (hcovers : s.stretch.covers c.toNat = true) :
    let small := Char.ofNat (c.toNat + s.offset).toNat
    isBlank small = false ∧ isUppercase small = false := by
  have htarget := List.all_eq_true.1 lowerShifts_target s hs
  simp only [Bool.and_eq_true, decide_eq_true_eq] at htarget
  obtain ⟨⟨hpositive, hvalid⟩, hapart⟩ := htarget
  have hcode := CaseShift.covers_target hpositive hcovers
  have outside {table : List Stretch} (hsub : table ⊆ blanks ++ uppercaseLetters) :
      Stretch.anyCovers table (c.toNat + s.offset).toNat = false := by
    rw [Bool.eq_false_iff]
    intro h
    obtain ⟨t, ht, hother⟩ := Stretch.exists_of_anyCovers h
    rcases Bool.or_eq_true_iff.1 (List.all_eq_true.1 hapart t (hsub ht)) with hnot | hnot
    · exact absurd hother (Bool.eq_false_iff.1 (Stretch.not_covers_of_apart hnot hcode))
    · exact absurd hcode (Bool.eq_false_iff.1 (Stretch.not_covers_of_apart hnot hother))
  constructor
  · rw [isBlank, toNat_ofNat hvalid hcode, outside (List.subset_append_left _ _)]
  · rw [isUppercase, toNat_ofNat hvalid hcode, outside (List.subset_append_right _ _)]

/-- No small form is empty. -/
theorem lowerChar_ne_nil (c : Char) : lowerChar c ≠ [] := by
  unfold lowerChar
  split <;> exact List.cons_ne_nil _ _

/-- A small form holds no blank unless the character is one. -/
theorem visible_of_mem_lowerChar (h : isBlank c = false) (hx : x ∈ lowerChar c) :
    isBlank x = false := by
  rcases lowerChar_cases c with hc | ⟨s, hs, hcovers, hc⟩ | hc
  · rw [hc] at hx
    have hboth : ['i', '\u0307'].all (!isBlank ·) = true := by decide +kernel
    simpa using List.all_eq_true.1 hboth x hx
  · rw [hc, List.mem_singleton] at hx
    exact hx ▸ (small_of_shift hs hcovers).1
  · rw [hc, List.mem_singleton] at hx
    exact hx ▸ h

/-- A character is its own small form, or that begins with a character that is no capital. -/
theorem lowerChar_eq_self_or (c : Char) :
    lowerChar c = [c] ∨ ∃ first rest, lowerChar c = first :: rest ∧ isUppercase first = false := by
  rcases lowerChar_cases c with hc | ⟨s, hs, hcovers, hc⟩ | hc
  · exact .inr ⟨_, _, hc, by decide +kernel⟩
  · exact .inr ⟨_, _, hc, (small_of_shift hs hcovers).2⟩
  · exact .inl hc

/-! ## The small form between its neighbours -/

variable {cs xs ys : List Char}

/-- Nothing behind a blank is a neighbour. -/
theorem nextIsCased_append_cons (hb : isBlank b = true) (xs ys : List Char) :
    nextIsCased (xs ++ b :: ys) = nextIsCased xs := by
  obtain ⟨hcased, hignorable, -, -⟩ := caseless_of_isBlank hb
  induction xs with
  | nil => simp [nextIsCased, hignorable, hcased]
  | cons x xs ih =>
    cases hx : isCaseIgnorable x with
    | true => simpa [nextIsCased, hx] using ih
    | false => simp [nextIsCased, hx]

/-- A character at the beginning of a word has the small form that it has alone. -/
theorem lowerAmong_nil (c : Char) (after : List Char) : lowerAmong [] c after = lowerChar c := by
  rw [lowerAmong]
  split
  case isTrue hc => simpa [nextIsCased, eq_of_beq hc] using by decide +kernel
  case isFalse => rfl

theorem lowerAmong_of_isBlank (hb : isBlank b = true) (before after : List Char) :
    lowerAmong before b after = [b] := by
  obtain ⟨-, -, hown, hsigma⟩ := caseless_of_isBlank hb
  rw [lowerAmong, if_neg (by simpa using hsigma), hown]

/-- Among its neighbours a character has its small form, or that of a final sigma. -/
theorem lowerAmong_cases (before : List Char) (c : Char) (after : List Char) :
    lowerAmong before c after = lowerChar c ∨ lowerAmong before c after = ['ς'] := by
  rw [lowerAmong]
  split
  case isTrue hc =>
    split
    · exact .inr rfl
    · exact .inl (by rw [eq_of_beq hc]; decide +kernel)
  case isFalse => exact .inl rfl

theorem visible_of_mem_lowerAmong {after : List Char} (h : isBlank c = false)
    (hx : x ∈ lowerAmong before c after) : isBlank x = false := by
  rcases lowerAmong_cases before c after with heq | heq
  · exact visible_of_mem_lowerChar h (heq ▸ hx)
  · rw [heq, List.mem_singleton] at hx
    exact hx ▸ by decide

theorem lowerAmong_ne_nil (before : List Char) (c : Char) (after : List Char) :
    lowerAmong before c after ≠ [] := by
  rcases lowerAmong_cases before c after with heq | heq
  · exact heq ▸ lowerChar_ne_nil c
  · exact heq ▸ List.cons_ne_nil _ _

/-! ## Texts -/

/-- What stands before a blank does not count behind it. -/
theorem lowerFrom_append_cons_left (hb : isBlank b = true) (front before cs : List Char) :
    lowerFrom (front ++ b :: before) cs = lowerFrom front cs := by
  induction cs generalizing front with
  | nil => rfl
  | cons c cs ih =>
    rw [lowerFrom, lowerFrom, lowerAmong, lowerAmong, nextIsCased_append_cons hb]
    exact congrArg _ (ih (c :: front))

/-- A blank separates the text before it from the text behind it. -/
theorem lowerFrom_append_cons (hb : isBlank b = true) (before xs ys : List Char) :
    lowerFrom before (xs ++ b :: ys) = lowerFrom before xs ++ b :: lowerFrom [] ys := by
  induction xs generalizing before with
  | nil =>
    rw [List.nil_append, lowerFrom.eq_2, lowerAmong_of_isBlank hb]
    exact congrArg (b :: ·) (lowerFrom_append_cons_left hb [] before ys)
  | cons x xs ih =>
    rw [List.cons_append, lowerFrom, lowerFrom, ih, lowerAmong, lowerAmong,
      nextIsCased_append_cons hb, List.append_assoc]

theorem visible_of_mem_lowerFrom (h : ∀ c ∈ cs, isBlank c = false)
    (hx : x ∈ lowerFrom before cs) : isBlank x = false := by
  induction cs generalizing before with
  | nil => cases hx
  | cons c cs ih =>
    rcases List.mem_append.1 hx with hx | hx
    · exact visible_of_mem_lowerAmong (h c List.mem_cons_self) hx
    · exact ih (fun d hd => h d (.tail _ hd)) hx

theorem lowerFrom_ne_nil (h : cs ≠ []) : lowerFrom before cs ≠ [] := by
  obtain ⟨c, cs, rfl⟩ := List.exists_cons_of_ne_nil h
  rw [lowerFrom]
  exact List.append_ne_nil_of_left_ne_nil (lowerAmong_ne_nil _ _ _) _

/-- The words of a text in small letters are its words in small letters. -/
theorem wordsOf_lowerFrom (cs : List Char) :
    wordsOf (lowerFrom [] cs) = (wordsOf cs).map (lowerFrom []) := by
  have hrun (xs : List Char) (hxs : ∀ x ∈ xs, isBlank x = false) :
      wordsOf (lowerFrom [] xs) = (wordsOf xs).map (lowerFrom []) := by
    cases xs with
    | nil => rfl
    | cons x xs =>
      rw [wordsOf_of_visible (lowerFrom_ne_nil (List.cons_ne_nil _ _))
        fun _ => visible_of_mem_lowerFrom hxs, wordsOf_of_visible (List.cons_ne_nil _ _) hxs]
      rfl
  induction cs using words_induction with
  | run xs hxs => exact hrun xs hxs
  | cut xs b ys hxs hb ih =>
    rw [lowerFrom_append_cons hb, wordsOf_append_cons hb, wordsOf_append_cons hb, hrun xs hxs, ih,
      List.map_append]

/-- Words with spaces between them are in small letters if each word is. -/
theorem lowerFrom_intercalate (words : List (List Char)) :
    lowerFrom [] ([' '].intercalate words) = [' '].intercalate (words.map (lowerFrom [])) := by
  induction words with
  | nil => rfl
  | cons word words ih =>
    cases words with
    | nil => simp
    | cons next words =>
      rw [List.intercalate_cons_cons, List.append_assoc, List.singleton_append,
        lowerFrom_append_cons (by decide), ih]
      simp [List.intercalate_cons_cons]

end Storyweave.Text
