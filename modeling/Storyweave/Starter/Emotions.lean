import Storyweave.Starter.Cast

/-!
# Kernels that speak of emotions
-/

namespace Storyweave.Starter

open Storyweave.Story Storyweave.Kernel

/-- How an emotion reads, and what it does to the characters who feel it. -/
structure Feeling where
  shifts : List (Emotion × Float)
  /-- The template category of the sentence; without one, `sentence` follows the name. -/
  category : Option String
  sentence : String
  /-- The phrase that stands inside another call. -/
  concept : String
  /-- The sentence if nobody is there to feel it. -/
  nobody : String

namespace Feeling

def joy : Feeling :=
  { shifts := [(.joy, 20)], category := some "joy", sentence := "felt very happy."
    concept := "felt joyful", nobody := "Everyone felt joyful." }

def fear : Feeling :=
  { shifts := [(.fear, 20)], category := some "fear", sentence := "was scared."
    concept := "afraid", nobody := "Fear filled the air." }

def sadness : Feeling :=
  { shifts := [(.sadness, 15), (.joy, -10)], category := some "sad", sentence := "felt sad."
    concept := "sad", nobody := "Everyone felt sad." }

def happiness : Feeling :=
  { shifts := [(.joy, 15)], category := none, sentence := "was happy."
    concept := "happy", nobody := "Everyone was happy." }

def bravery : Feeling :=
  { shifts := [(.fear, -10), (.joy, 5)], category := none, sentence := "was very brave."
    concept := "brave", nobody := "Someone was very brave." }

end Feeling

/-- A kernel whose characters feel something. -/
def feel (feeling : Feeling) : Handler := fun call => do
  let scene ← Telling.look
  let characters := affected scene call.args
  match characters with
  | [] => return call.fragment (if scene.nested then feeling.concept else feeling.nobody)
  | first :: _ =>
    for id in characters do
      for (emotion, delta) in feeling.shifts do
        Telling.adjust id emotion delta
    let name := nameOf scene first
    match feeling.category with
    | some category => return call.fragment (← Telling.template category [("name", name)])
    | none => return call.fragment (name ++ " " ++ feeling.sentence)

/-- Joy. The keyword argument `intensity` says how much, in words of its own. -/
def joy : Handler := fun call => do
  let scene ← Telling.look
  let characters := affected scene call.args
  match call.args.keyword "intensity", characters with
  | some intensity, first :: _ =>
    for id in characters do
      Telling.adjust id .joy 20
    return call.fragment
      (nameOf scene first ++ " felt " ++ scene.phrase intensity ++ " happy.")
  | _, _ => feel .joy call

/-- Love for another character or for a thing. -/
def love : Handler := fun call => do
  let scene ← Telling.look
  let characters := affected scene call.args
  let target := match characters with
    | _ :: other :: _ => some (nameOf scene other)
    | _ => (objects scene call.args).head?
  match characters with
  | [] =>
    match target with
    | some target => return call.fragment ("loved " ++ target)
    | none => return call.fragment "loved"
  | lover :: _ =>
    Telling.adjust lover .love 15
    return call.fragment (nameOf scene lover ++ " loved " ++ target.getD "it" ++ ".")

end Storyweave.Starter
