import Storyweave.English.Inflection
import Storyweave.Starter.Cast

/-!
# Kernels that speak of everyday actions
-/

namespace Storyweave.Starter

open Storyweave.Story Storyweave.Kernel

def play : Handler := fun call => do
  let scene ← Telling.look
  let characters := affected scene call.args
  let things := objects scene call.args
  for id in characters do
    Telling.adjust id .joy 10
  match characters with
  | [] =>
    return call.fragment
      (if things.isEmpty then "playing" else "playing with the " ++ together things)
  | [only] =>
    if things.isEmpty then
      return call.fragment (← Telling.template "play" [("name", nameOf scene only)])
    else
      return call.fragment (nameOf scene only ++ " played with the " ++ together things ++ ".")
  | many =>
    return call.fragment (together (many.map (nameOf scene)) ++ " played together and had fun.")

/-- Someone finds the first object, or what the keyword argument `object` names. -/
def find : Handler := fun call => do
  let scene ← Telling.look
  let named := (objects scene call.args).head?.orElse fun _ =>
    (call.args.keyword "object").map scene.phrase
  let thing := named.getD "something"
  match scene.subject call.args with
  | none => return call.fragment ("Someone found " ++ English.withArticle thing ++ ".")
  | some id =>
    Telling.adjust id .joy 5
    Telling.request (.object (some thing))
    let slots := [("name", nameOf scene id), ("object", thing)]
    return call.fragment (← Telling.template "find" slots)

def run : Handler := fun call => do
  let scene ← Telling.look
  match call.args.firstCharacter with
  | some id =>
    Telling.adjust id .fear 5
    let pronoun := ((scene.character id).map (·.pronouns.subject)).getD "they"
    return call.fragment (nameOf scene id ++ " ran as fast as " ++ pronoun ++ " could.")
  | none =>
    match call.args.concepts with
    | runner :: _ => return call.fragment ("The " ++ runner ++ " ran away.")
    | [] => return call.fragment "They ran quickly."

def help : Handler := fun call => do
  let scene ← Telling.look
  match call.args.characters with
  | helper :: helped :: _ =>
    Telling.adjust helper .love 10
    Telling.adjust helped .love 5
    Telling.adjust helped .joy 5
    return call.fragment (nameOf scene helper ++ " helped " ++ nameOf scene helped ++ ".")
  | [helper] => return call.fragment (nameOf scene helper ++ " helped out.")
  | [] => return call.fragment "Someone helped."

def give : Handler := fun call => do
  let scene ← Telling.look
  let gift := (objects scene call.args).head?
  match call.args.characters, gift with
  | giver :: receiver :: _, gift =>
    let gift := gift.getD "gift"
    Telling.adjust giver .love 5
    Telling.adjust receiver .joy 10
    Telling.request (.object (some gift))
    return call.fragment (nameOf scene giver ++ " gave " ++ nameOf scene receiver ++ " " ++
      English.withArticle gift ++ ".")
  | [giver], some gift =>
    return call.fragment (nameOf scene giver ++ " gave away the " ++ gift ++ ".")
  | _, _ => return call.fragment "A gift was given."

def cry : Handler := fun call => do
  let scene ← Telling.look
  match call.args.firstCharacter with
  | none => return call.fragment (if scene.nested then "cried" else "Someone started to cry.")
  | some id =>
    Telling.adjust id .sadness 15
    Telling.adjust id .joy (-10)
    return call.fragment (nameOf scene id ++ " started to cry.")

end Storyweave.Starter
