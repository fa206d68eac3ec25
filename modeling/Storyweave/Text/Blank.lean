import Storyweave.Text.CodePoints

/-!
# Blank characters

The Unicode property White_Space, and the two operations on text that go by it: cutting
blanks off the ends and splitting into words.
-/

namespace Storyweave.Text

/-- The stretches of code points with the property White_Space. -/
def blanks : List Stretch :=
  [⟨9, 13, 1⟩, ⟨32, 32, 1⟩, ⟨133, 133, 1⟩, ⟨160, 160, 1⟩, ⟨5760, 5760, 1⟩, ⟨8192, 8202, 1⟩,
    ⟨8232, 8233, 1⟩, ⟨8239, 8239, 1⟩, ⟨8287, 8287, 1⟩, ⟨12288, 12288, 1⟩]

/-- Whether a character shows as empty space. -/
def isBlank (c : Char) : Bool :=
  Stretch.anyCovers blanks c.toNat

/-- Every blank of the ASCII range is blank here. -/
theorem isBlank_of_isWhitespace {c : Char} (h : c.isWhitespace = true) : isBlank c = true := by
  simp only [Char.isWhitespace, Bool.or_eq_true, decide_eq_true_eq] at h
  rcases h with ((rfl | rfl) | rfl) | rfl <;> decide

/-- A list without its elements of a kind at the end. -/
def dropEnd {α : Type} (p : α → Bool) (xs : List α) : List α :=
  (xs.reverse.dropWhile p).reverse

theorem dropEnd_append_of_last {α : Type} {p : α → Bool} (xs : List α) {ys : List α}
    (h : ∃ last ∈ ys.getLast?, p last = false) : dropEnd p (xs ++ ys) = xs ++ ys := by
  obtain ⟨last, hlast, hp⟩ := h
  obtain ⟨init, rfl⟩ := List.getLast?_eq_some_iff.1 hlast
  simp [dropEnd, hp]

theorem exists_dropWhile_eq_cons {α : Type} {p : α → Bool} {xs : List α}
    (h : xs.all p = false) : ∃ first rest, xs.dropWhile p = first :: rest ∧ p first = false := by
  cases hd : xs.dropWhile p with
  | nil =>
    have := List.any_dropWhile (l := xs) (p := p)
    simp [hd, h] at this
  | cons first rest =>
    have := List.head?_dropWhile_not p xs
    exact ⟨first, rest, rfl, by simpa [hd] using this⟩

theorem exists_getLast?_dropEnd {α : Type} {p : α → Bool} {xs : List α}
    (h : xs.all p = false) : ∃ last ∈ (dropEnd p xs).getLast?, p last = false := by
  have hreverse : xs.reverse.all p = false := by simpa using h
  obtain ⟨last, rest, hd, hp⟩ := exists_dropWhile_eq_cons hreverse
  exact ⟨last, by simp [dropEnd, hd], hp⟩

/-- The characters between the first and the last one that is not blank. -/
def trimChars (cs : List Char) : List Char :=
  dropEnd isBlank (cs.dropWhile isBlank)

/-- Trimming leaves the last character of what is not blank at its end. -/
theorem exists_getLast?_trimChars {cs : List Char} (h : cs.all isBlank = false) :
    ∃ last ∈ (trimChars cs).getLast?, isBlank last = false := by
  obtain ⟨first, rest, hd, hp⟩ := exists_dropWhile_eq_cons h
  exact exists_getLast?_dropEnd (by simp [hd, hp])

/-- A text without the blanks at its ends. -/
def trim (text : String) : String :=
  String.ofList (trimChars text.toList)

/-- Whether a text holds nothing but blanks. -/
def isBlankText (text : String) : Bool :=
  text.toList.all isBlank

/-- The longest stretches of characters that are not blank, in order. -/
def wordsOf : List Char → List (List Char)
  | [] => []
  | c :: cs =>
    if isBlank c then wordsOf cs
    else match cs with
      | [] => [[c]]
      | d :: _ => if isBlank d then [c] :: wordsOf cs else (wordsOf cs).modifyHead (c :: ·)

/-- The words of a text: its longest stretches without a blank. -/
def words (text : String) : List String :=
  (wordsOf text.toList).map String.ofList

example : isBlank '\u00a0' ∧ isBlank '\u3000' ∧ ¬isBlank '\u200b' := by decide +kernel
example : words " two  words\n" = ["two", "words"] := by decide +kernel

end Storyweave.Text
