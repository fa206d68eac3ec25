import Storyweave.Story.Fragment
import Storyweave.Text.Numeric
import Storyweave.Text.Uppercase

/-!
# Rendering

The fragments that weigh enough are joined as sentences, blanks and marks are tidied, every
sentence gets a capital, and the story ends with an end mark.
-/

namespace Storyweave.Story

open Storyweave.Text

/-- The characters with every pair `first`, `second` read as `second` alone, from the left. -/
def absorb (first second : Char) : List Char → List Char
  | a :: b :: rest =>
    if a = first ∧ b = second then b :: absorb first second rest
    else a :: absorb first second (b :: rest)
  | cs => cs

/-- The marks that no space stands before. -/
def marks : List Char := ['.', ',', '!', '?', ';', ':']

/-- Pairs of marks of which only the second is kept. -/
def markPairs : List (Char × Char) := [('.', '.'), ('.', '!'), ('.', '?'), (',', '.')]

/-- Every pair of marks read once. -/
def absorbMarks (cs : List Char) : List Char :=
  markPairs.foldl (fun cs pair => absorb pair.1 pair.2 cs) cs

/-- Pairs of marks read as one mark until there is none left. -/
def settleMarks (cs : List Char) : List Char :=
  let next := absorbMarks cs
  if next.length < cs.length then settleMarks next else next
termination_by cs.length

/-- The words of a text with one space between them, none before a mark, and no pair of marks
that reads as one. -/
def tidy (cs : List Char) : List Char :=
  let spaced := [' '].intercalate (wordsOf cs)
  settleMarks (marks.foldl (fun cs mark => absorb ' ' mark cs) spaced)

/-- The characters with the first letter or digit of every sentence as a capital, where
`sentenceStart` says whether a sentence is about to begin. -/
def capitalizeSentences (sentenceStart : Bool) : List Char → List Char
  | [] => []
  | c :: cs =>
    if isAlphanumeric c then
      (if sentenceStart then upperChar c else [c]) ++ capitalizeSentences false cs
    else c :: capitalizeSentences (sentenceStart || endsSentence c) cs

/-- Whether a character is a mark after which a story cannot end. -/
def isOpenMark (c : Char) : Bool := c == ',' || c == ';' || c == ':'

/-- Some characters without open marks at the end and with an end mark there. -/
def close (cs : List Char) : List Char :=
  let body := dropEnd isOpenMark cs
  match body.getLast? with
  | some last => if endsSentence last then body else body ++ ['.']
  | none => ['.']

/-- Joined sentences as a polished story. -/
def polish (cs : List Char) : List Char :=
  if cs.isEmpty then [] else close (capitalizeSentences true (tidy cs))

/-- The texts of the fragments that are not lighter than a threshold. -/
def textsAbove (threshold : Float) (fragments : List Fragment) : List String :=
  (fragments.filter fun f => !decide (f.weight < threshold)).map Fragment.text

/-- The story of some fragments. -/
def render (fragments : List Fragment) (threshold : Float) : String :=
  String.ofList (polish (proseOf (sentencesOf (textsAbove threshold fragments))))

end Storyweave.Story
