import Storyweave.English.Inflection
import Storyweave.Kernel.Action

/-!
# Text for a call that nobody handles

The text is built from the name of the kernel and its arguments. With a character the name
reads as a verb, otherwise as a noun. A name without small letters is never inflected.
-/

namespace Storyweave.Kernel

open Storyweave.Story Storyweave.Text

/-- A name as a verb in the past tense, with the words behind its first one. -/
def verbWords (name : String) : List String :=
  match words (English.humanize name) with
  | [] => [""]
  | verb :: rest => English.pastTense verb :: rest

/-- A sentence in which a subject does what the name says, with all other arguments as
objects. -/
def verbSentence (cast : List Character) (name subject : String) (others : List Value) : String :=
  let objects := Value.phrases cast others
  let tail := if objects.isEmpty then [] else [English.joinList objects "and"]
  " ".intercalate (subject :: verbWords name ++ tail) ++ "."

/-- A sentence about what the name says, with the plain arguments, or else with the generated
ones. -/
def nounSentence (cast : List Character) (name : String) (values : List Value) : String :=
  let isGenerated (value : Value) : Bool := value.asFragment.isSome
  let plain := Value.phrases cast (values.filter fun value => !isGenerated value)
  let generated := Value.phrases cast (values.filter isGenerated)
  let opening := "There was " ++ English.humanize name
  if !plain.isEmpty then opening ++ " with " ++ English.joinList plain "and" ++ "."
  else if !generated.isEmpty then opening ++ ": " ++ English.joinList generated "and" ++ "."
  else opening ++ "."

/-- The fragment of a call that nobody handles. -/
def fallback (cast : List Character) (name : String) (args : Args) : Fragment :=
  let values := args.positional
  let text :=
    match values.findIdx? (·.asCharacter.isSome) with
    | some index =>
      if name.toList.any isLowercase then
        let subject := (values[index]?.map (·.phrase cast)).getD ""
        verbSentence cast name subject (values.eraseIdx index)
      else nounSentence cast name values
    | none => nounSentence cast name values
  ⟨text, defaultWeight, name⟩

end Storyweave.Kernel
