import Storyweave.Number.Decimal
import Storyweave.Text.Blank
import Storyweave.Text.Lowercase

/-!
# Phrases

Names as words, lists in prose, and numbers as a story prints them.
-/

namespace Storyweave.English

open Storyweave.Text

/-- Items in prose: `a`, `a and b`, `a, b, and c` for the conjunction `and`. -/
def joinList (items : List String) (conjunction : String) : String :=
  match items with
  | [] => ""
  | [only] => only
  | [first, second] => first ++ " " ++ conjunction ++ " " ++ second
  | items => ", ".intercalate items.dropLast ++ ", " ++ conjunction ++ " " ++ items.getLastD ""

/-- The letters of a name in small form, with a space for every low line and before every
capital that follows a small letter or a digit. -/
def spaceOut (afterSmall : Bool) : List Char → List Char
  | [] => []
  | c :: cs =>
    if c = '_' then ' ' :: spaceOut false cs
    else
      let letters := lowerChar c ++ spaceOut (isLowercase c || c.isDigit) cs
      if isUppercase c && afterSmall then ' ' :: letters else letters

/-- A name as words: `HappyEnd` and `happy_end` are both "happy end". A name without a small
letter is a label and keeps its capitals. -/
def humanize (name : String) : String :=
  let letters := name.toList
  if letters.any isLowercase then " ".intercalate (words (String.ofList (spaceOut false letters)))
  else String.ofList (letters.map fun c => if c = '_' then ' ' else c)

/-- A number as a story prints it. A zero has no sign. -/
def number (x : Float) : String :=
  if x == 0 then "0" else Number.text x

example : humanize "HappyEnd" = "happy end" ∧ humanize "level2Boss" = "level2 boss" ∧
    humanize "MY_LABEL" = "MY LABEL" := by
  decide +kernel

end Storyweave.English
