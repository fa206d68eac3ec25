import Storyweave.Evaluation.Run
import Storyweave.Starter.Actions
import Storyweave.Starter.Arcs
import Storyweave.Starter.Emotions

/-!
# The starter pack

Kernels for introductions, emotions, everyday actions and arcs, and the templates they draw
on. Other packs are merged on top of it.
-/

namespace Storyweave.Starter

open Storyweave.Story Storyweave.Kernel Storyweave.Template Storyweave.Evaluation

/-- Introduces a character. The first character of a story opens it. -/
def introduce : Handler := fun call => do
  let scene ← Telling.look
  match call.args.firstCharacter with
  | none => Telling.refuse "Character introduces a declared character"
  | some id =>
    match scene.character id with
    | none => Telling.refuse "unknown character"
    | some c =>
      let traits := together (c.traits.take 2)
      let slots := [("name", c.name), ("type", c.kindOrDefault), ("adj", traits)]
      return call.fragment (← Telling.template (if id = 0 then "intro_first" else "intro") slots)

/-- The starter kernels. -/
def registry : Registry :=
  .ofList [("Character", introduce), ("Joy", joy), ("Fear", feel .fear),
    ("Sadness", feel .sadness), ("Happy", feel .happiness), ("Brave", feel .bravery),
    ("Love", love), ("Play", play), ("Find", find), ("Run", run), ("Help", help),
    ("Give", give), ("Cry", cry), ("Journey", journey), ("Cautionary", cautionary),
    ("Friendship", friendship), ("Routine", routine)]

/-- The starter templates as they are written, with their categories. -/
def templateTexts : List (String × Draft) :=
  [("intro_first",
      ⟨2, "Once upon a time, there was {article} {adj} {type} named {name}."⟩),
    ("intro_first", ⟨1, "There once was {article} {adj} {type} named {name}."⟩),
    ("intro", ⟨1, "There was also {article} {type} named {name}."⟩),
    ("intro", ⟨1, "{name} was {article} {adj} {type}."⟩),
    ("intro", ⟨1, "{name}, {article} {adj} {type}, lived nearby."⟩),
    ("joy", ⟨1, "{name} felt very happy."⟩),
    ("joy", ⟨1, "{name} was filled with joy."⟩),
    ("joy", ⟨1, "{name} smiled happily."⟩),
    ("sad", ⟨1, "{name} felt sad."⟩),
    ("sad", ⟨1, "{name} was unhappy."⟩),
    ("fear", ⟨2, "{name} was scared."⟩),
    ("fear", ⟨1, "{name} felt afraid."⟩),
    ("play", ⟨1, "{name} played happily."⟩),
    ("play", ⟨1, "{name} had fun playing."⟩),
    ("find", ⟨2, "{name} found {article} {object}."⟩),
    ("find", ⟨1, "One day, {name} found {article} {object}."⟩),
    ("journey", ⟨1, "{name} went on a journey."⟩),
    ("journey", ⟨1, "{name}'s life was about to change."⟩),
    ("cautionary", ⟨1, "This is a story about being careful."⟩),
    ("friendship", ⟨2, "{name} and {other} became good friends."⟩),
    ("friendship", ⟨1, "{name} and {other} were best friends."⟩)]

/-- The table of the starter templates as they are written. Each of them is registered by
itself. -/
def loadTemplates : Except TemplateError Table :=
  templateTexts.foldlM (fun t entry => t.register entry.1 [entry.2]) .empty

/-- The slots of a character and its kind in the order of a noun phrase. -/
def described : List Segment :=
  [.slot "article", .literal " ", .slot "adj", .literal " ", .slot "type"]

/-- A sentence about someone with a name. -/
def about (predicate : String) : List Segment := [.slot "name", .literal predicate]

/-- The starter templates, read. -/
def templates : Table :=
  ⟨.ofList [
    ("intro_first", [
      ⟨2, [.literal "Once upon a time, there was "] ++ described ++
        [.literal " named ", .slot "name", .literal "."]⟩,
      ⟨1, [.literal "There once was "] ++ described ++
        [.literal " named ", .slot "name", .literal "."]⟩]),
    ("intro", [
      ⟨1, [.literal "There was also ", .slot "article", .literal " ", .slot "type",
        .literal " named ", .slot "name", .literal "."]⟩,
      ⟨1, [.slot "name", .literal " was "] ++ described ++ [.literal "."]⟩,
      ⟨1, [.slot "name", .literal ", "] ++ described ++ [.literal ", lived nearby."]⟩]),
    ("joy", [
      ⟨1, about " felt very happy."⟩,
      ⟨1, about " was filled with joy."⟩,
      ⟨1, about " smiled happily."⟩]),
    ("sad", [
      ⟨1, about " felt sad."⟩,
      ⟨1, about " was unhappy."⟩]),
    ("fear", [
      ⟨2, about " was scared."⟩,
      ⟨1, about " felt afraid."⟩]),
    ("play", [
      ⟨1, about " played happily."⟩,
      ⟨1, about " had fun playing."⟩]),
    ("find", [
      ⟨2, [.slot "name", .literal " found ", .slot "article", .literal " ", .slot "object",
        .literal "."]⟩,
      ⟨1, [.literal "One day, ", .slot "name", .literal " found ", .slot "article",
        .literal " ", .slot "object", .literal "."]⟩]),
    ("journey", [
      ⟨1, about " went on a journey."⟩,
      ⟨1, about "'s life was about to change."⟩]),
    ("cautionary", [
      ⟨1, [.literal "This is a story about being careful."]⟩]),
    ("friendship", [
      ⟨2, [.slot "name", .literal " and ", .slot "other", .literal " became good friends."]⟩,
      ⟨1, [.slot "name", .literal " and ", .slot "other", .literal " were best friends."]⟩])]⟩

/-- The texts of the starter templates are read as these, and none of them is refused. -/
theorem loadTemplates_eq : loadTemplates = .ok templates := by
  have hread : loadTemplates.toOption = some templates := by decide +kernel
  cases hload : loadTemplates with
  | error error =>
    rw [hload] at hread
    cases hread
  | ok t =>
    rw [hload] at hread
    exact congrArg Except.ok (Option.some.inj hread)

end Storyweave.Starter
