import Mathlib.Data.List.Chain
import Mathlib.Data.List.TakeWhile
import Storyweave.Text.Blank

/-!
# Spacing

Blanks at the ends of a text, and words with one space between them. Results:
1. `trimChars_between`: trimming leaves trimmed pieces alone, and what stands between them.
2. `spaced_cons_of_visible`: what a character does to the text behind it, from which the rest
   follows by induction on the text.
3. `neat_spaced`: blanks stand between words only, and each of them is a single space.
4. `spaced_eq_self`: a text of that form is left as it is.
5. `filter_spaced`: nothing but blanks is lost or added.
6. `wordsOf_intercalate`: words with one space between them are read as those words.
-/

namespace Storyweave.Text

/-! ## Cutting off the ends -/

section Ends

variable {α : Type} {p q : α → Bool} {xs : List α} {x : α}

theorem dropEnd_nil : dropEnd p [] = [] := rfl

theorem dropEnd_concat (xs : List α) (x : α) :
    dropEnd p (xs ++ [x]) = if p x then dropEnd p xs else xs ++ [x] := by
  cases h : p x <;> simp [dropEnd, h]

/-- What is cut off at the end does not count where only elements of other kinds do. -/
theorem filter_dropEnd (h : ∀ x, p x = true → q x = false) (xs : List α) :
    (dropEnd p xs).filter q = xs.filter q := by
  induction xs using List.reverseRecOn with
  | nil => rfl
  | append_singleton xs x ih =>
    rw [dropEnd_concat]
    split
    case isTrue hx => simp [ih, h x hx]
    case isFalse => rfl

theorem filter_dropWhile (h : ∀ x, p x = true → q x = false) (xs : List α) :
    (xs.dropWhile p).filter q = xs.filter q := by
  induction xs with
  | nil => rfl
  | cons x xs ih =>
    cases hx : p x with
    | true => simp [hx, ih, h x hx]
    | false => simp [hx]

/-- Nothing is cut off behind an element of another kind. -/
theorem dropEnd_eq_self {xs : List α} (h : ∀ x ∈ xs.getLast?, p x = false) :
    dropEnd p xs = xs := by
  cases xs using List.reverseRecOn with
  | nil => rfl
  | append_singleton xs x => simp [dropEnd_concat, h x (by simp)]

theorem dropEnd_append (xs : List α) {ys : List α} (h : ys.all p = false) :
    dropEnd p (xs ++ ys) = xs ++ dropEnd p ys := by
  have hback : ys.reverse.all p = false := by simpa using h
  obtain ⟨last, rest, hdrop, -⟩ := exists_dropWhile_eq_cons hback
  have hleft : ¬(ys.reverse.dropWhile p).isEmpty = true := by simp [hdrop]
  rw [dropEnd, List.reverse_append, List.dropWhile_append, if_neg hleft, List.reverse_append,
    List.reverse_reverse, dropEnd]

theorem dropEnd_of_all (h : xs.all p = true) : dropEnd p xs = [] := by
  have hdrop : xs.reverse.dropWhile p = [] := List.dropWhile_eq_nil_iff.2 (by simpa using h)
  rw [dropEnd, hdrop, List.reverse_nil]

theorem not_of_mem_head?_dropWhile (h : x ∈ (xs.dropWhile p).head?) : p x = false := by
  have hnot := List.head?_dropWhile_not p xs
  rwa [Option.mem_def.1 h] at hnot

theorem not_of_mem_getLast?_dropEnd (h : x ∈ (dropEnd p xs).getLast?) : p x = false := by
  rw [dropEnd, List.getLast?_reverse] at h
  exact not_of_mem_head?_dropWhile h

end Ends

/-! ## Trimming -/

section Trimming

variable {cs xs ys : List Char}

theorem filter_trimChars {p : Char → Bool} (h : ∀ c, isBlank c = true → p c = false)
    (cs : List Char) : (trimChars cs).filter p = cs.filter p := by
  rw [trimChars, filter_dropEnd h, filter_dropWhile h]

/-- Nothing is trimmed where both ends show. -/
theorem trimChars_of_ends (hhead : ∀ c ∈ cs.head?, isBlank c = false)
    (hlast : ∀ c ∈ cs.getLast?, isBlank c = false) : trimChars cs = cs := by
  have hfront : cs.dropWhile isBlank = cs := by
    cases cs with
    | nil => rfl
    | cons c cs => simp [hhead c rfl]
  rw [trimChars, hfront, dropEnd_eq_self hlast]

/-- Cutting off the blanks at the end leaves those in front of the trimmed characters. -/
theorem dropEnd_eq_append (h : cs.all isBlank = false) :
    dropEnd isBlank cs = cs.takeWhile isBlank ++ trimChars cs := by
  obtain ⟨first, rest, hdrop, hfirst⟩ := exists_dropWhile_eq_cons h
  have hshows : (cs.dropWhile isBlank).all isBlank = false := by simp [hdrop, hfirst]
  rw [trimChars, ← dropEnd_append _ hshows, List.takeWhile_append_dropWhile]

theorem trimChars_ne_nil (h : cs.all isBlank = false) : trimChars cs ≠ [] := by
  obtain ⟨last, hlast, -⟩ := exists_getLast?_trimChars h
  exact List.ne_nil_of_mem (List.mem_of_mem_getLast? hlast)

theorem visible_of_mem_head?_trimChars {c : Char} (h : c ∈ (trimChars cs).head?) :
    isBlank c = false := by
  have hcut : trimChars cs <+: cs.dropWhile isBlank := by
    rw [trimChars, ← List.reverse_suffix, dropEnd, List.reverse_reverse]
    exact List.dropWhile_suffix isBlank
  obtain ⟨rest, hrest⟩ := hcut
  have hhead : c ∈ (cs.dropWhile isBlank).head? := by
    rw [← hrest, List.head?_append, Option.mem_def.1 h]
    rfl
  exact not_of_mem_head?_dropWhile hhead

theorem trimChars_trimChars (cs : List Char) : trimChars (trimChars cs) = trimChars cs :=
  trimChars_of_ends (fun _ => visible_of_mem_head?_trimChars)
    fun _ => not_of_mem_getLast?_dropEnd

/-- Nothing is trimmed of trimmed pieces, nor of what stands between them. -/
theorem trimChars_between (hx : xs.all isBlank = false) (hy : ys.all isBlank = false)
    (between : List Char) : trimChars (trimChars xs ++ between ++ trimChars ys) =
      trimChars xs ++ between ++ trimChars ys := by
  refine trimChars_of_ends (fun c hc => ?_) (fun c hc => ?_)
  · rw [List.append_assoc, List.head?_append_of_ne_nil _ (trimChars_ne_nil hx)] at hc
    exact visible_of_mem_head?_trimChars hc
  · rw [List.getLast?_append_of_ne_nil _ (trimChars_ne_nil hy)] at hc
    exact not_of_mem_getLast?_dropEnd hc

theorem all_isBlank_append_trimChars (xs : List Char) (h : ys.all isBlank = false) :
    (xs ++ trimChars ys).all isBlank = false := by
  obtain ⟨last, hlast, hend⟩ := exists_getLast?_trimChars h
  refine List.all_eq_false.2 ⟨last, ?_, by simp [hend]⟩
  exact List.mem_append_right _ (List.mem_of_mem_getLast? hlast)

end Trimming

/-! ## Neat texts -/

/-- A text whose blanks are spaces inside it, and whose neighbours are related. -/
structure Neat (R : Char → Char → Prop) (cs : List Char) : Prop where
  blank_eq : ∀ c ∈ cs, isBlank c = true → c = ' '
  head_visible : ∀ c ∈ cs.head?, isBlank c = false
  last_visible : ∀ c ∈ cs.getLast?, isBlank c = false
  neighbours : cs.IsChain R

namespace Neat

variable {R S : Char → Char → Prop} {cs : List Char}

theorem imp (h : ∀ a b, R a b → S a b) (hcs : Neat R cs) : Neat S cs :=
  { hcs with neighbours := hcs.neighbours.imp h }

theorem trimChars_eq_self (h : Neat R cs) : trimChars cs = cs :=
  trimChars_of_ends h.head_visible h.last_visible

/-- A neat text that holds anything shows something. -/
theorem all_isBlank_eq_false (h : Neat R cs) (hne : cs ≠ []) : cs.all isBlank = false := by
  obtain ⟨c, rest, rfl⟩ := List.exists_cons_of_ne_nil hne
  simp [h.head_visible c rfl]

end Neat

/-- No blank follows a space. -/
def SingleSpaced (a b : Char) : Prop := a = ' ' → isBlank b = false

/-! ## Words -/

/-- The words of a text with one space between them. -/
def spaced (cs : List Char) : List Char := [' '].intercalate (wordsOf cs)

variable {c : Char} {cs : List Char}

theorem wordsOf_cons_of_blank (h : isBlank c = true) : wordsOf (c :: cs) = wordsOf cs := by
  simp [wordsOf, h]

theorem spaced_cons_of_blank (h : isBlank c = true) : spaced (c :: cs) = spaced cs := by
  rw [spaced, wordsOf_cons_of_blank h, spaced]

/-- A character that shows begins a word, or stands before the first character of one. -/
theorem wordsOf_cons_of_visible (h : isBlank c = false) : wordsOf (c :: cs) =
    if cs.head?.all isBlank then [c] :: wordsOf cs else (wordsOf cs).modifyHead (c :: ·) := by
  cases cs with
  | nil => simp [wordsOf, h]
  | cons d cs =>
    rw [wordsOf.eq_def (c :: d :: cs)]
    simp only [h, Bool.false_eq_true, if_false]
    rfl

theorem wordsOf_eq_nil_iff : wordsOf cs = [] ↔ cs.all isBlank = true := by
  induction cs with
  | nil => simp [wordsOf]
  | cons c cs ih =>
    cases h : isBlank c with
    | true => simp [wordsOf_cons_of_blank h, h, ih]
    | false =>
      have hcs : cs.head?.all isBlank = false → wordsOf cs ≠ [] := by
        cases cs with
        | nil => simp
        | cons d cs => intro hd; simp_all
      rw [wordsOf_cons_of_visible h]
      split <;> simp_all

/-- A blank ends the word before it. -/
theorem wordsOf_append_cons {b : Char} (hb : isBlank b = true) (xs ys : List Char) :
    wordsOf (xs ++ b :: ys) = wordsOf xs ++ wordsOf ys := by
  induction xs with
  | nil => exact wordsOf_cons_of_blank hb
  | cons x xs ih =>
    cases hx : isBlank x with
    | true => rw [List.cons_append, wordsOf_cons_of_blank hx, wordsOf_cons_of_blank hx, ih]
    | false =>
      rw [List.cons_append, wordsOf_cons_of_visible hx, wordsOf_cons_of_visible hx, ih]
      cases xs with
      | nil => simp [wordsOf, hb]
      | cons y xs =>
        cases hy : isBlank y with
        | true => simp [hy]
        | false =>
          have hne : wordsOf (y :: xs) ≠ [] := by simp [wordsOf_eq_nil_iff, hy]
          obtain ⟨word, words, hwords⟩ := List.exists_cons_of_ne_nil hne
          simp [hy, hwords]

/-- Characters that all show are one word. -/
theorem wordsOf_of_visible {xs : List Char} (hne : xs ≠ []) (h : ∀ x ∈ xs, isBlank x = false) :
    wordsOf xs = [xs] := by
  induction xs with
  | nil => exact absurd rfl hne
  | cons x xs ih =>
    rw [wordsOf_cons_of_visible (h x List.mem_cons_self)]
    cases xs with
    | nil => rfl
    | cons y xs =>
      have hxs : ∀ z ∈ y :: xs, isBlank z = false := fun z hz => h z (.tail _ hz)
      simp [hxs y List.mem_cons_self, ih (List.cons_ne_nil _ _) hxs]

/-- A text is a run of characters that show, or has such a run up to its first blank. -/
theorem words_induction {motive : List Char → Prop}
    (run : ∀ xs, (∀ x ∈ xs, isBlank x = false) → motive xs)
    (cut : ∀ xs b ys, (∀ x ∈ xs, isBlank x = false) → isBlank b = true → motive ys →
      motive (xs ++ b :: ys)) (cs : List Char) : motive cs := by
  -- the characters in front are those of the run that have been passed
  suffices h : ∀ xs, (∀ x ∈ xs, isBlank x = false) → motive (xs ++ cs) from h [] (by simp)
  induction cs with
  | nil => intro xs hxs; simpa using run xs hxs
  | cons c cs ih =>
    intro xs hxs
    cases hc : isBlank c with
    | true => exact cut xs c cs hxs hc (ih [] (by simp))
    | false =>
      have hrun : ∀ x ∈ xs ++ [c], isBlank x = false := by
        simpa [or_imp, forall_and, hc] using hxs
      simpa using ih (xs ++ [c]) hrun

/-- A word holds something, and all of it shows. -/
theorem visible_of_mem_wordsOf {word : List Char} (h : word ∈ wordsOf cs) :
    word ≠ [] ∧ ∀ x ∈ word, isBlank x = false := by
  induction cs using words_induction with
  | run xs hxs =>
    cases xs with
    | nil => cases h
    | cons x xs =>
      rw [wordsOf_of_visible (List.cons_ne_nil _ _) hxs, List.mem_singleton] at h
      exact h ▸ ⟨List.cons_ne_nil _ _, hxs⟩
  | cut xs b ys hxs hb ih =>
    rw [wordsOf_append_cons hb, List.mem_append] at h
    refine h.elim (fun hword => ?_) ih
    cases xs with
    | nil => cases hword
    | cons x xs =>
      rw [wordsOf_of_visible (List.cons_ne_nil _ _) hxs, List.mem_singleton] at hword
      exact hword ▸ ⟨List.cons_ne_nil _ _, hxs⟩

/-- Words with one space between them are read as those words. -/
theorem wordsOf_intercalate {words : List (List Char)}
    (h : ∀ word ∈ words, word ≠ [] ∧ ∀ x ∈ word, isBlank x = false) :
    wordsOf ([' '].intercalate words) = words := by
  induction words with
  | nil => rfl
  | cons word words ih =>
    obtain ⟨hne, hword⟩ := h word List.mem_cons_self
    cases words with
    | nil => simpa using wordsOf_of_visible hne hword
    | cons next words =>
      rw [List.intercalate_cons_cons, List.append_assoc, List.singleton_append,
        wordsOf_append_cons (by decide), wordsOf_of_visible hne hword,
        ih fun w hw => h w (.tail _ hw), List.singleton_append]

theorem intercalate_modifyHead_cons {words : List (List Char)} (h : words ≠ []) :
    [' '].intercalate (words.modifyHead (c :: ·)) = c :: [' '].intercalate words := by
  match words with
  | [_] => simp
  | _ :: _ :: _ => simp

/-- A character that shows stays, and with it a space if it ends a word that is not the last. -/
theorem spaced_cons_of_visible (h : isBlank c = false) : spaced (c :: cs) =
    if cs.head?.all isBlank && !cs.all isBlank then c :: ' ' :: spaced cs else c :: spaced cs := by
  rw [spaced, wordsOf_cons_of_visible h]
  cases hhead : cs.head?.all isBlank with
  | false =>
    have hne : wordsOf cs ≠ [] := by
      rw [Ne, wordsOf_eq_nil_iff]
      cases cs <;> simp_all
    simp [intercalate_modifyHead_cons hne, spaced]
  | true =>
    cases hw : wordsOf cs with
    | nil => simp [spaced, hw, wordsOf_eq_nil_iff.1 hw]
    | cons word rest =>
      have hall : cs.all isBlank = false := by
        rw [Bool.eq_false_iff, Ne, ← wordsOf_eq_nil_iff, hw]
        exact List.cons_ne_nil _ _
      simp [spaced, hw, hall]

theorem spaced_eq_nil_iff : spaced cs = [] ↔ cs.all isBlank = true := by
  induction cs with
  | nil => simp [spaced, wordsOf]
  | cons c cs ih =>
    cases h : isBlank c with
    | true => simp [spaced_cons_of_blank h, h, ih]
    | false =>
      rw [spaced_cons_of_visible h]
      split <;> simp [h]

/-- Single spacing loses and adds nothing but blanks. -/
theorem filter_spaced {p : Char → Bool} (h : ∀ c, isBlank c = true → p c = false)
    (cs : List Char) : (spaced cs).filter p = cs.filter p := by
  induction cs with
  | nil => rfl
  | cons c cs ih =>
    cases hc : isBlank c with
    | true => simp [spaced_cons_of_blank hc, ih, h c hc]
    | false =>
      rw [spaced_cons_of_visible hc]
      split <;> simp [List.filter_cons, ih, h ' ' (by decide)]

/-- Blanks stand between the words only, and each of them is one space. -/
theorem neat_spaced (cs : List Char) : Neat SingleSpaced (spaced cs) := by
  induction cs with
  | nil =>
    have hnil : spaced [] = [] := rfl
    exact ⟨by simp [hnil], by simp [hnil], by simp [hnil], .nil⟩
  | cons c cs ih =>
    cases hc : isBlank c with
    | true => rwa [spaced_cons_of_blank hc]
    | false =>
      have hspace : c ≠ ' ' := by rintro rfl; exact absurd hc (by decide)
      rw [spaced_cons_of_visible hc]
      split
      case isTrue hword =>
        have hne : spaced cs ≠ [] := by
          rw [Ne, spaced_eq_nil_iff]; simp_all
        refine ⟨?_, by simp [hc], ?_, ?_⟩
        · simpa [hc] using ih.blank_eq
        · simpa [List.getLast?_cons, List.getLast?_eq_some_getLast hne] using ih.last_visible
        · simpa [List.isChain_cons, SingleSpaced, hspace] using
            ⟨ih.head_visible, ih.neighbours⟩
      case isFalse hword =>
        refine ⟨?_, by simp [hc], ?_, ?_⟩
        · simpa [hc] using ih.blank_eq
        · cases hs : spaced cs with
          | nil => simp [hc]
          | cons d ds => simpa [hs, List.getLast?_cons] using ih.last_visible
        · simpa [List.isChain_cons, SingleSpaced, hspace] using ih.neighbours

/-- Without its blanks at the front, a single spaced text is what single spacing makes of it. -/
theorem spaced_eq_dropWhile (hblank : ∀ c ∈ cs, isBlank c = true → c = ' ')
    (hlast : ∀ c ∈ cs.getLast?, isBlank c = false) (hspacing : cs.IsChain SingleSpaced) :
    spaced cs = cs.dropWhile isBlank := by
  induction cs with
  | nil => rfl
  | cons c cs ih =>
    obtain ⟨hnext, hspacing⟩ := List.isChain_cons.1 hspacing
    have hrest : spaced cs = cs.dropWhile isBlank := by
      refine ih (fun d hd => hblank d (.tail _ hd)) (fun d hd => hlast d ?_) hspacing
      rw [List.getLast?_cons, Option.mem_def.1 hd]
      rfl
    cases hc : isBlank c with
    | true => simp [spaced_cons_of_blank hc, hc, hrest]
    | false =>
      rw [spaced_cons_of_visible hc, hrest]
      match cs with
      | [] => simp [hc]
      | [d] => cases hd : isBlank d <;> simp_all
      | d :: e :: rest =>
        -- a blank inside the text is one space with a word behind it
        have he : d = ' ' → isBlank e = false := (List.isChain_cons_cons.1 hspacing).1
        cases hd : isBlank d with
        | true =>
          obtain rfl : d = ' ' := hblank d (by simp) hd
          simp [hc, hd, he rfl]
        | false => simp [hc, hd]

/-- Single spacing leaves a text alone that has no other blanks than single spaces inside. -/
theorem spaced_eq_self (h : Neat SingleSpaced cs) : spaced cs = cs := by
  rw [spaced_eq_dropWhile h.blank_eq h.last_visible h.neighbours]
  cases cs with
  | nil => rfl
  | cons c cs => simp [h.head_visible c rfl]

end Storyweave.Text
