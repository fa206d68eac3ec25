import Storyweave.Catalogue
import Storyweave.Chance.Stream
import Storyweave.Story.Diagnostic
import Storyweave.Story.Value

/-!
# The state of a story

Everything that is known while a story is told: its characters and their names, the log of its
fragments, who and what it is about, the source of chance, and what was recorded on the way. Logs
only grow, at their ends. A character is found by its place or by its name, and the two ways are
kept apart: names have a catalogue of their own, which only a declaration writes to.
-/

namespace Storyweave.Story

/-- A change of the state that a kernel asks for. -/
inductive Effect where
  /-- A character feels more of an emotion. -/
  | emotion (character : CharacterId) (emotion : Emotion) (delta : Float)
  /-- The story turns to a character, or to none. -/
  | focus (character : Option CharacterId)
  /-- The story turns to a thing, or to none. -/
  | object (thing : Option String)

structure Narrative where
  /-- The characters in order of declaration; each has its place as its id. -/
  characters : List Character
  /-- The id of the character with a name. -/
  byName : Catalogue CharacterId
  /-- The fragments of the story so far. -/
  fragments : List Fragment
  focus : Option CharacterId
  object : Option String
  chance : Chance
  diagnostics : List Diagnostic
  /-- The effects that took place. -/
  effects : List Effect
  clamp : Clamp

namespace Narrative

/-- Before a story begins. -/
def start (seed : UInt64) (clamp : Clamp) : Narrative :=
  { characters := [], byName := .empty, fragments := [], focus := none, object := none
    chance := .ofSeed seed, diagnostics := [], effects := [], clamp }

/-- The character with an id. -/
def character (n : Narrative) (id : CharacterId) : Option Character := n.characters[id]?

/-- The id of the character with a name. -/
def lookup (n : Narrative) (name : String) : Option CharacterId := n.byName.find? name

/-- The value of a bare name: a character, or a concept in small letters. -/
def resolve (n : Narrative) (name : String) : Value :=
  match n.lookup name with
  | some id => .character id
  | none => .concept (Text.lowercase name)

/-- Declares a character and returns its id. A name that is taken declares nothing. -/
def declare (n : Narrative) (name : String) (traits : List String) :
    Option (CharacterId × Narrative) :=
  if n.byName.contains name then none
  else
    let id := n.characters.length
    some (id, { n with
      characters := n.characters ++ [.declare id name traits]
      byName := n.byName.insert name id })

/-- Adds a fragment to the story unless it is blank. -/
def emit (n : Narrative) (f : Fragment) : Narrative :=
  if f.isBlank then n else { n with fragments := n.fragments ++ [f] }

/-- Records a diagnostic. -/
def diagnose (n : Narrative) (kind : DiagnosticKind) (subject : Option String)
    (message : String) : Narrative :=
  { n with diagnostics := n.diagnostics ++ [⟨kind, subject, message⟩] }

/-- Lets an effect take place and records it. An emotion of an unknown character is ignored. -/
def apply (n : Narrative) (effect : Effect) : Narrative :=
  let logged := { n with effects := n.effects ++ [effect] }
  match effect with
  | .emotion id emotion delta =>
    match n.character id with
    | none => n
    | some _ =>
      { logged with
        characters := n.characters.modify id fun c =>
          { c with emotions := c.emotions.adjust emotion delta n.clamp } }
  | .focus character => { logged with focus := character }
  | .object thing => { logged with object := thing }

/-- Draws the next random word. -/
def draw (n : Narrative) : UInt32 × Narrative :=
  let (word, chance) := n.chance.next
  (word, { n with chance })

end Narrative

end Storyweave.Story
