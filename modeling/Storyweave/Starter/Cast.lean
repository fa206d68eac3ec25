import Storyweave.Kernel.Action

/-!
# Who and what a call is about

How the starter kernels find the characters and things of a call.
-/

namespace Storyweave.Starter

open Storyweave.Story Storyweave.Kernel

/-- The characters that a call acts on: those among its arguments, or the focus if there are
none and the call stands on its own. -/
def affected (scene : Scene) (args : Args) : List CharacterId :=
  let named := args.characters
  if !named.isEmpty || scene.nested then named else scene.focus.toList

/-- The name of a character in a sentence. -/
def nameOf (scene : Scene) (id : CharacterId) : String := scene.phrase (.character id)

/-- The phrases of the positional arguments that are not characters. -/
def objects (scene : Scene) (args : Args) : List String :=
  Value.phrases scene.cast (args.positional.filter (·.asCharacter.isNone))

/-- The phrases of some things in one. -/
def together (things : List String) : String := English.joinList things "and"

end Storyweave.Starter
