import Storyweave.English.Phrases
import Storyweave.Story.Character
import Storyweave.Story.Fragment

/-!
# Values

What an expression evaluates to, and how a value reads inside a sentence.
-/

namespace Storyweave.Story

open Storyweave.Text

inductive Value where
  | character (id : CharacterId)
  /-- A word that is not the name of a character, in small letters. -/
  | concept (word : String)
  /-- A quoted text as it was written. -/
  | text (words : String)
  | number (value : Float)
  | fragment (fragment : Fragment)
  | composition (composition : Composition)
  | list (items : List Value)

namespace Value

def asCharacter : Value → Option CharacterId
  | .character id => some id
  | _ => none

def asNumber : Value → Option Float
  | .number x => some x
  | _ => none

def asConcept : Value → Option String
  | .concept word => some word
  | _ => none

/-- The generated text of a value, a composition as one fragment. -/
def asFragment : Value → Option Fragment
  | .fragment f => some f
  | .composition c => some c.toFragment
  | _ => none

/-- The kind of a value in a word. -/
def kind : Value → String
  | .character _ => "character"
  | .concept _ => "concept"
  | .text _ => "text"
  | .number _ => "number"
  | .fragment _ => "fragment"
  | .composition _ => "composition"
  | .list _ => "list"

mutual

/-- How a value reads inside a sentence, where `cast` are the characters in order of
declaration. -/
def phrase (cast : List Character) : Value → String
  | .character id => (cast[id]?.map Character.name).getD "someone"
  | .concept word => word
  | .text words => trim words
  | .number x => English.number x
  | .fragment f => f.phrase
  | .composition c => c.toFragment.phrase
  | .list items => English.joinList (phrases cast items) "and"

/-- How values read inside a sentence, without those that read as nothing. -/
def phrases (cast : List Character) : List Value → List String
  | [] => []
  | value :: rest =>
    let first := phrase cast value
    if first = "" then phrases cast rest else first :: phrases cast rest

end

/-- The largest weight among the generated items of a list, if there is one. -/
def heaviest (items : List Value) : Option Float :=
  match items.filterMap asFragment with
  | [] => none
  | first :: rest => some ((rest.map Fragment.weight).foldl Number.larger first.weight)

/-- The fragments of an operand of `+` or `/`. A list with items is one fragment as heavy as
the heaviest of them; words and numbers are plain text. -/
def toParts (cast : List Character) : Value → List Fragment
  | .fragment f => [f]
  | .composition c => c.parts
  | .list [] => []
  | .list items => [⟨phrase cast (.list items), (heaviest items).getD defaultWeight, "list"⟩]
  | value => [.plain (phrase cast value)]

mutual

/-- The fragments that a statement adds to the story. -/
def generated : Value → List Fragment
  | .fragment f => [f]
  | .composition c => c.parts
  | .list items => generatedBy items
  | _ => []

/-- The fragments that the items of a list add to the story. -/
def generatedBy : List Value → List Fragment
  | [] => []
  | value :: rest => generated value ++ generatedBy rest

end

end Value

end Storyweave.Story
