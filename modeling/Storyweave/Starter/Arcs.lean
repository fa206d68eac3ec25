import Storyweave.English.Inflection
import Storyweave.Starter.Cast
import Storyweave.Text.Pieces
import Storyweave.Text.Uppercase

/-!
# Kernels that tell a whole arc

The steps of an arc are keyword arguments. Each is read as a state, an event or an action,
and becomes a sentence.
-/

namespace Storyweave.Starter

open Storyweave.Story Storyweave.Kernel Storyweave.Text

/-! ## Readings of a value -/

/-- Concept words that read better in another way as a state. -/
def stateWords : List (String × String) :=
  [("routine", "going about the day"), ("playful", "feeling playful"), ("joy", "joyful"),
    ("fear", "afraid"), ("longing", "longing for something"), ("play", "playing"),
    ("wonder", "wondering")]

/-- Concept words that read better in another way as an action. -/
def actionWords : List (String × String) :=
  [("find", "found something"), ("see", "saw something"), ("discover", "discovered something"),
    ("wait", "waited patiently"), ("joy", "felt joyful"), ("fear", "felt scared")]

/-- A sentence without the name it begins with: its first word, if that has a capital and
others follow. -/
def withoutLeadingName (text : String) : String :=
  match words text with
  | first :: second :: rest =>
    if (first.toList.head?.map isUppercase).getD false then " ".intercalate (second :: rest)
    else text
  | _ => text

/-- A text whose first character is in its small form. -/
def decapitalize (text : String) : String :=
  match text.toList with
  | [] => ""
  | c :: cs => String.ofList (lowerChar c ++ cs)

/-- A generated sentence as a state: what follows its last "was", or else all behind the name. -/
def stateOfSentence (sentence : String) : String :=
  let text := lowercase sentence
  (afterLast " was " text).getD (withoutLeadingName text)

/-- A value as a state that someone is in. -/
def statePhrase (scene : Scene) (value : Value) : String :=
  match value with
  | .concept word =>
    " and ".intercalate ((split " and " (English.humanize word)).map fun part =>
      (stateWords.lookup part).getD part)
  | .fragment _ => stateOfSentence (scene.phrase value)
  | .composition _ => stateOfSentence (scene.phrase value)
  | value => scene.phrase value

/-- A generated sentence as an event. -/
def eventOfSentence (sentence : String) : String :=
  decapitalize (withoutStart "There was " sentence)

/-- A value as something that happens. -/
def eventPhrase (scene : Scene) (value : Value) : String :=
  match value with
  | .concept word => "something " ++ English.humanize word ++ " happened"
  | .fragment _ => eventOfSentence (scene.phrase value)
  | .composition _ => eventOfSentence (scene.phrase value)
  | value => scene.phrase value

/-- A value as something that someone did. -/
def actionPhrase (scene : Scene) (value : Value) : String :=
  match value with
  | .concept word =>
    let reading := English.humanize word
    (actionWords.lookup reading).getD <|
      match words reading with
      | [] => ""
      | verb :: rest => " ".intercalate (English.pastTense verb :: rest)
  | .fragment _ => withoutLeadingName (scene.phrase value)
  | .composition _ => withoutLeadingName (scene.phrase value)
  | value => scene.phrase value

/-! ## Arcs -/

/-- The sentence of a keyword argument, if it is given. -/
def step (args : Args) (key : String) (sentence : Value → String) : List String :=
  ((args.keyword key).map sentence).toList

/-- Who an arc is about, and how that one is called. -/
def hero (scene : Scene) (args : Args) : Option CharacterId × String :=
  match scene.subject args with
  | some id => (some id, nameOf scene id)
  | none => (none, "someone")

/-- Asks for emotions of the hero of an arc, if there is one. -/
def adjustHero (id : Option CharacterId) (shifts : List (Emotion × Float)) : Telling Unit := do
  match id with
  | none => return ()
  | some id =>
    for (emotion, delta) in shifts do
      Telling.adjust id emotion delta

/-- The fragment of an arc: its sentences, or a template if it has none. -/
def arc (call : Invocation) (sentences : List String) (category : String)
    (slots : Template.Slots) : Telling Fragment := do
  if sentences.isEmpty then return call.fragment (← Telling.template category slots)
  else return call.fragment (prose sentences)

/-- A character changed by experience. -/
def journey : Handler := fun call => do
  let scene ← Telling.look
  let args := call.args
  let (id, who) := hero scene args
  if (args.keyword "insight").isSome then adjustHero id [(.joy, 15)]
  if (args.keyword "transformation").isSome then adjustHero id [(.joy, 10)]
  let event (value : Value) : String := "But then, " ++ eventPhrase scene value ++ "!"
  let sentences :=
    step args "state" (fun state => who ++ " was " ++ statePhrase scene state ++ ".") ++
    step args "catalyst" event ++
    step args "crisis" event ++
    step args "process" (fun process => who ++ " " ++ actionPhrase scene process ++ ".") ++
    step args "insight" (fun _ => who ++ " learned something important.") ++
    step args "transformation"
      (fun change => "After that, " ++ who ++ " felt " ++ statePhrase scene change ++ ".")
  arc call sentences "journey" [("name", who)]

/-- A character learns from a mistake. -/
def cautionary : Handler := fun call => do
  let scene ← Telling.look
  let args := call.args
  let (id, who) := hero scene args
  if (args.keyword "consequence").isSome then adjustHero id [(.fear, 10), (.joy, -10)]
  let event := (args.keyword "event").orElse fun _ => args.keyword "trigger"
  let sentences :=
    step args "state" (fun state => who ++ " was " ++ statePhrase scene state ++ ".") ++
    (event.map fun event => "One day, " ++ eventPhrase scene event ++ ".").toList ++
    step args "consequence" (fun consequence =>
      "Because of that, " ++ who ++ " felt " ++ statePhrase scene consequence ++ ".") ++
    step args "lesson" (fun lesson => who ++ " learned to be more " ++ scene.phrase lesson ++ ".")
  arc call sentences "cautionary" []

/-- Two characters become friends. -/
def friendship : Handler := fun call => do
  let scene ← Telling.look
  let args := call.args
  let characters := affected scene args
  match characters with
  | [] => Telling.refuse "Friendship needs at least one character"
  | first :: others =>
    for id in characters.take 2 do
      Telling.adjust id .love 15
    let who := nameOf scene first
    let other := (others.head?.map (nameOf scene)).getD "a new friend"
    let meeting ← Telling.template "friendship" [("name", who), ("other", other)]
    let sentences :=
      step args "state" (fun state => who ++ " was " ++ statePhrase scene state ++ ".") ++
      step args "catalyst" (fun catalyst => "Then, " ++ eventPhrase scene catalyst ++ ".") ++
      step args "process" scene.phrase ++
      [meeting] ++
      step args "transformation"
        (fun change => "They were " ++ statePhrase scene change ++ " together.")
    return call.fragment (prose sentences)

/-- What a character does every day: a generated text, a keyword argument or an object. -/
def activityOf (scene : Scene) (args : Args) : Option String :=
  (args.fragments.head?.map Fragment.phrase).orElse fun _ =>
    (((args.keyword "activity").orElse fun _ => args.keyword "process").map scene.phrase).orElse
      fun _ => (objects scene args).head?

/-- The ordinary day before anything happens. -/
def routine : Handler := fun call => do
  let scene ← Telling.look
  match scene.subject call.args, activityOf scene call.args with
  | some id, some activity =>
    if "ing".toList.isSuffixOf activity.toList then
      return call.fragment
        ("Every day, " ++ nameOf scene id ++ " spent time " ++ activity ++ ".")
    else
      return call.fragment ("Every day, " ++ nameOf scene id ++ " would " ++ activity ++ ".")
  | some id, none =>
    let possessive := ((scene.character id).map (·.pronouns.possessive)).getD "their"
    return call.fragment
      (nameOf scene id ++ " was going about " ++ possessive ++ " day as usual.")
  | none, _ => return call.fragment "It was a normal day."

end Storyweave.Starter
