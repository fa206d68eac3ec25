import Storyweave.Story.Narrative
import Storyweave.Template.Basic

/-!
# What a kernel does

A kernel is given its arguments and answers with a fragment or a refusal. On the way it may
look at the scene, draw random words, fill templates, ask for effects and call other kernels.
All it does is an `Action`: a tree of requests, each with what to do on every answer. So a
kernel can reach the state of the story in no other way, and it cannot invent a crossed limit.
-/

namespace Storyweave.Kernel

open Storyweave.Story Storyweave.Template

/-! ## Arguments -/

/-- The evaluated arguments of a call, in source order. -/
structure Args where
  positional : List Value
  keywords : List (String × Value)

namespace Args

/-- No arguments. -/
def empty : Args := ⟨[], []⟩

/-- The number of arguments. -/
def size (a : Args) : Nat := a.positional.length + a.keywords.length

/-- Whether there are no arguments. -/
def isEmpty (a : Args) : Bool := a.size == 0

/-- The characters among the positional arguments. -/
def characters (a : Args) : List CharacterId := a.positional.filterMap Value.asCharacter

/-- The first character among the positional arguments. -/
def firstCharacter (a : Args) : Option CharacterId := a.characters.head?

/-- The concepts among the positional arguments. -/
def concepts (a : Args) : List String := a.positional.filterMap Value.asConcept

/-- The generated texts among the positional arguments, every composition as one fragment. -/
def fragments (a : Args) : List Fragment := a.positional.filterMap Value.asFragment

/-- The numbers among the positional arguments. -/
def numbers (a : Args) : List Float := a.positional.filterMap Value.asNumber

/-- The value of a keyword argument. -/
def keyword (a : Args) (key : String) : Option Value := a.keywords.lookup key

end Args

/-! ## Limits -/

/-- The bounds of an evaluation. -/
structure Limits where
  /-- How many calls may be open at once. -/
  depth : Nat
  /-- How many kernels may be dispatched. -/
  calls : Nat
deriving DecidableEq, Repr

/-- The bounds where none are given. -/
def Limits.standard : Limits := ⟨64, 10000⟩

/-- A bound that was crossed. -/
inductive LimitError where
  | depth (limit : Nat)
  | calls (limit : Nat)
deriving DecidableEq, Repr

/-- The bound itself. -/
def LimitError.limit : LimitError → Nat
  | .depth limit => limit
  | .calls limit => limit

/-- A crossed bound in words. -/
def LimitError.message : LimitError → String
  | .depth limit => "call nesting exceeded the depth limit of " ++ toString limit
  | .calls limit => "kernel dispatch exceeded the call limit of " ++ toString limit

/-! ## Actions -/

/-- What a kernel sees of the state. -/
structure Scene where
  cast : List Character
  focus : Option CharacterId
  object : Option String
  /-- Whether the result of the call goes into another call. -/
  nested : Bool

/-- Why a kernel does not accept its arguments. -/
structure Refusal where
  message : String
deriving DecidableEq, Repr

/-- Why a nested call has no result. -/
inductive CallError where
  | refused (refusal : Refusal)
  | limit (error : LimitError)
deriving DecidableEq, Repr

/-- A failed call in words. -/
def CallError.message : CallError → String
  | .refused refusal => "invalid argument shape: " ++ refusal.message
  | .limit error => error.message

/-- A tree of requests that ends in results. -/
inductive Action (α : Type) where
  | done (result : α)
  | look (next : Scene → Action α)
  | draw (next : UInt32 → Action α)
  | template (category : String) (slots : Slots) (next : Except TemplateError String → Action α)
  | request (effect : Effect) (next : Action α)
  | call (kernel : String) (args : Args) (next : Except CallError Fragment → Action α)

namespace Action

variable {α β : Type}

/-- One action and then another that depends on its result. -/
def bind (action : Action α) (f : α → Action β) : Action β :=
  match action with
  | .done result => f result
  | .look next => .look fun scene => (next scene).bind f
  | .draw next => .draw fun word => (next word).bind f
  | .template category slots next => .template category slots fun answer => (next answer).bind f
  | .request effect next => .request effect (next.bind f)
  | .call kernel args next => .call kernel args fun answer => (next answer).bind f

instance : Monad Action where
  pure := .done
  bind := .bind

end Action

/-! ## Handlers -/

/-- An action that may end in a refusal. -/
abbrev Telling := ExceptT Refusal Action

/-- A call as its handler sees it. -/
structure Invocation where
  kernel : String
  args : Args

/-- What a kernel does when it is called. -/
abbrev Handler := Invocation → Telling Fragment

namespace Invocation

/-- A fragment of a kernel with the usual weight. -/
def fragment (i : Invocation) (text : String) : Fragment := ⟨text, defaultWeight, i.kernel⟩

end Invocation

namespace Telling

/-- The scene as it is now. -/
def look : Telling Scene := ExceptT.lift (.look .done)

/-- The next random word. -/
def draw : Telling UInt32 := ExceptT.lift (.draw .done)

/-- Asks for an effect. It takes place when the kernel succeeds. -/
def request (effect : Effect) : Telling Unit := ExceptT.lift (.request effect (.done ()))

/-- Asks for a character to feel more of an emotion. -/
def adjust (id : CharacterId) (emotion : Emotion) (delta : Float) : Telling Unit :=
  request (.emotion id emotion delta)

/-- Does not accept the arguments. -/
def refuse {α : Type} (message : String) : Telling α := throw ⟨message⟩

/-- A filled template of a category. A template that cannot be filled is a refusal. -/
def template (category : String) (slots : Slots) : Telling String := do
  match ← ExceptT.lift (.template category slots .done) with
  | .ok text => return text
  | .error e => refuse e.message

/-- The result of another kernel. -/
def call (kernel : String) (args : Args) : Telling (Except CallError Fragment) :=
  ExceptT.lift (.call kernel args .done)

end Telling

/-- The character that a call is about: its first character, or else the focus. -/
def Scene.subject (scene : Scene) (args : Args) : Option CharacterId :=
  args.firstCharacter.orElse fun _ => scene.focus

/-- The character with an id. -/
def Scene.character (scene : Scene) (id : CharacterId) : Option Character := scene.cast[id]?

/-- How a value reads inside a sentence. -/
def Scene.phrase (scene : Scene) (value : Value) : String := value.phrase scene.cast

end Storyweave.Kernel
