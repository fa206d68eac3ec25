import Storyweave.Number.Binary64

/-!
# Characters

Who a story is about: a name, a kind, traits, pronouns and five emotions.
-/

namespace Storyweave.Story

/-- The place of a character in the order of declaration. -/
abbrev CharacterId := Nat

/-! ## Pronouns -/

inductive Pronouns where
  | sheHer | heHim | theyThem | itIts
deriving DecidableEq, Repr

namespace Pronouns

/-- The form of the subject of a sentence. -/
def subject : Pronouns → String
  | .sheHer => "she"
  | .heHim => "he"
  | .theyThem => "they"
  | .itIts => "it"

/-- The form of the object of a sentence. -/
def object : Pronouns → String
  | .sheHer => "her"
  | .heHim => "him"
  | .theyThem => "them"
  | .itIts => "it"

/-- The form that stands before a noun. -/
def possessive : Pronouns → String
  | .sheHer => "her"
  | .heHim => "his"
  | .theyThem => "their"
  | .itIts => "its"

/-- The form that refers back to the subject. -/
def reflexive : Pronouns → String
  | .sheHer => "herself"
  | .heHim => "himself"
  | .theyThem => "themselves"
  | .itIts => "itself"

/-- The pronouns that go with a kind of character. -/
def forKind (kind : String) : Pronouns :=
  if ["girl", "woman", "queen", "princess", "mother", "mom", "mommy", "grandma", "sister",
      "lady"].contains kind then .sheHer
  else if ["boy", "man", "king", "prince", "father", "dad", "daddy", "grandpa", "brother",
      "farmer"].contains kind then .heHim
  else .theyThem

end Pronouns

/-! ## Emotions -/

inductive Emotion where
  | joy | fear | love | anger | sadness
deriving DecidableEq, Repr

/-- How the strength of an emotion is bounded. -/
inductive Clamp where
  | unbounded
  | range (least greatest : Float)

/-- A strength brought within the bounds. -/
def Clamp.apply : Clamp → Float → Float
  | .unbounded, x => x
  | .range least greatest, x => Number.smaller (Number.larger x least) greatest

/-- From zero to a hundred. -/
def Clamp.percent : Clamp := .range 0 100

/-- The strength of every emotion of a character. -/
structure Emotions where
  joy : Float
  fear : Float
  love : Float
  anger : Float
  sadness : Float

namespace Emotions

/-- What a character feels when it is declared. -/
def initial : Emotions := ⟨50, 0, 50, 0, 0⟩

/-- The strength of one emotion. -/
def get (e : Emotions) : Emotion → Float
  | .joy => e.joy
  | .fear => e.fear
  | .love => e.love
  | .anger => e.anger
  | .sadness => e.sadness

/-- The emotions with another strength for one of them. -/
def set (e : Emotions) (emotion : Emotion) (x : Float) : Emotions :=
  match emotion with
  | .joy => { e with joy := x }
  | .fear => { e with fear := x }
  | .love => { e with love := x }
  | .anger => { e with anger := x }
  | .sadness => { e with sadness := x }

/-- The emotions after one of them grew by `delta`, within the bounds. -/
def adjust (e : Emotions) (emotion : Emotion) (delta : Float) (clamp : Clamp) : Emotions :=
  e.set emotion (clamp.apply (e.get emotion + delta))

end Emotions

/-! ## Characters -/

structure Character where
  id : CharacterId
  name : String
  kind : Option String
  traits : List String
  emotions : Emotions
  pronouns : Pronouns

/-- Nouns that say what a character is rather than how it behaves. -/
def knownKinds : List String :=
  ["girl", "boy", "man", "woman", "dog", "cat", "bird", "fish", "rabbit", "bunny", "bear",
    "lion", "mouse", "frog", "duck", "mother", "father", "mom", "dad", "mommy", "daddy",
    "grandma", "grandpa", "friend", "teacher", "farmer", "king", "queen", "princess", "prince",
    "sister", "brother", "lady", "whale", "shark", "owl", "fox", "wolf", "horse", "pig"]

namespace Character

/-- A kind in front of some traits, and the traits behind it. -/
def splitKind : List String → Option String × List String
  | [] => (none, [])
  | first :: rest => if knownKinds.contains first then (some first, rest) else (none, first :: rest)

/-- A new character with the traits it was declared with. A kind in front of them decides the
pronouns; of equal traits the first is kept. -/
def declare (id : CharacterId) (name : String) (traits : List String) : Character :=
  let (kind, others) := splitKind traits
  { id, name, kind
    traits := (others.filter (· != "")).eraseDups
    emotions := .initial
    pronouns := (kind.map Pronouns.forKind).getD .theyThem }

/-- Whether a character was declared with a trait. -/
def hasTrait (c : Character) (word : String) : Bool := c.traits.contains word

/-- The kind of a character as a noun. -/
def kindOrDefault (c : Character) : String := c.kind.getD "character"

end Character

end Storyweave.Story
