/-!
# Pieces of a text

Cutting a text at the places where another text stands in it.
-/

namespace Storyweave.Text

/-- The pieces between the places where a separator stands, found from the left. -/
def splitChars (separator : List Char) : List Char → List (List Char)
  | [] => [[]]
  | c :: rest =>
    if separator.isPrefixOf (c :: rest) then
      [] :: splitChars separator (rest.drop (separator.length - 1))
    else (splitChars separator rest).modifyHead (c :: ·)
termination_by cs => cs.length

/-- The pieces of a text between the places where a separator stands. -/
def split (separator text : String) : List String :=
  (splitChars separator.toList text.toList).map String.ofList

/-- What follows the last place where some characters stand. -/
def charsAfterLast (mark : List Char) : List Char → Option (List Char)
  | [] => none
  | c :: rest =>
    match charsAfterLast mark rest with
    | some behind => some behind
    | none => if mark.isPrefixOf (c :: rest) then some ((c :: rest).drop mark.length) else none

/-- What follows the last place where a mark stands in a text. -/
def afterLast (mark text : String) : Option String :=
  (charsAfterLast mark.toList text.toList).map String.ofList

/-- A text without the characters it begins with, if it begins with them. -/
def withoutStart (start text : String) : String :=
  if start.toList.isPrefixOf text.toList then String.ofList (text.toList.drop start.toList.length)
  else text

example : split " and " "a and b and c" = ["a", "b", "c"] := by decide +kernel
example : afterLast " was " "it was said he was sad" = some "sad" := by decide +kernel

end Storyweave.Text
