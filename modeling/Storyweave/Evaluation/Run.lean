import Storyweave.Catalogue
import Storyweave.Kernel.Fallback
import Storyweave.Template.Table

/-!
# Dispatching kernels

A kernel is run by answering the requests of its action. Every nested call opens one more
level; `room` says how many levels are still unopened, and it is what the recursion is on. A
level that cannot be opened stays counted for the rest of the run.

The first bound that is crossed is kept, and from then on no kernel has a result.
-/

namespace Storyweave.Evaluation

open Storyweave.Story Storyweave.Template Storyweave.Kernel

/-- Named handlers. -/
abbrev Registry := Catalogue Handler

/-- What stays the same during an evaluation. -/
structure Environment where
  registry : Registry
  templates : Table
  limits : Limits

/-- The state of an evaluation. -/
structure Run where
  narrative : Narrative
  /-- How many levels were refused so far. -/
  refusedLevels : Nat
  /-- How many kernels were dispatched so far. -/
  calls : Nat
  /-- The first bound that was crossed. -/
  exceeded : Option LimitError

namespace Run

/-- Before anything is evaluated. -/
def start (narrative : Narrative) : Run :=
  { narrative, refusedLevels := 0, calls := 0, exceeded := none }

/-- The characters so far. -/
def cast (run : Run) : List Character := run.narrative.characters

/-- Records a diagnostic. -/
def diagnose (run : Run) (kind : DiagnosticKind) (subject : Option String) (message : String) :
    Run :=
  { run with narrative := run.narrative.diagnose kind subject message }

/-- Records a crossed bound. The first one ever crossed is what is reported. -/
def exceed (run : Run) (error : LimitError) : LimitError × Run :=
  let run := run.diagnose .recursionLimitExceeded none error.message
  match run.exceeded with
  | some first => (first, run)
  | none => (error, { run with exceeded := some error })

/-- Adds a fragment to the story. -/
def emit (run : Run) (fragment : Fragment) : Run :=
  { run with narrative := run.narrative.emit fragment }

end Run

namespace Environment

variable (env : Environment)

/-- How many levels count as open where `room` levels are unopened. -/
def depth (room : Nat) (run : Run) : Nat := env.limits.depth - room + run.refusedLevels

/-- What a kernel sees where `room` levels are unopened. -/
def scene (room : Nat) (run : Run) : Scene :=
  { cast := run.narrative.characters, focus := run.narrative.focus
    object := run.narrative.object, nested := decide (1 < env.depth room run) }

/-- Refuses to open a level. -/
def refuseLevel (run : Run) : LimitError × Run :=
  { run with refusedLevels := run.refusedLevels + 1 }.exceed (.depth env.limits.depth)

/-- Fills a template of a category. A category that is not there is recorded. -/
def fillTemplate (category : String) (slots : Slots) (run : Run) :
    Except TemplateError String × Run :=
  let run :=
    if env.templates.contains category then run
    else run.diagnose .missingTemplateCategory (some category)
      ("no templates registered for '" ++ category ++ "'")
  let (text, chance) := env.templates.generate category slots run.narrative.chance
  (text, { run with narrative := { run.narrative with chance } })

/-- How a nested call is answered. -/
abbrev Answer := String → Args → Run → Except CallError Fragment × Run

/-- Carries out an action where `room` levels are unopened. Besides its result it yields the
effects it asked for, in order. -/
def perform {α : Type} (room : Nat) (answer : Answer) : Action α → Run → (α × List Effect) × Run
  | .done result, run => ((result, []), run)
  | .look next, run => perform room answer (next (env.scene room run)) run
  | .draw next, run =>
    let (word, narrative) := run.narrative.draw
    perform room answer (next word) { run with narrative }
  | .template category slots next, run =>
    let (text, run) := env.fillTemplate category slots run
    perform room answer (next text) run
  | .request effect next, run =>
    let ((result, effects), run) := perform room answer next run
    ((result, effect :: effects), run)
  | .call kernel args next, run =>
    let (result, run) := answer kernel args run
    perform room answer (next result) run

/-- A fragment with the name of its kernel, unless the kernel gave another one. -/
def named (kernel : String) (fragment : Fragment) : Fragment :=
  if fragment.kernel = "" then { fragment with kernel } else fragment

/-- The result of a handler. Its effects take place only if it succeeds, and once a bound was
crossed it does not. -/
def conclude (kernel : String) (result : Except Refusal Fragment) (effects : List Effect)
    (run : Run) : Except CallError Fragment × Run :=
  match run.exceeded with
  | some error => (.error (.limit error), run)
  | none =>
    match result with
    | .error refusal => (.error (.refused refusal), run)
    | .ok fragment =>
      (.ok (named kernel fragment),
        { run with narrative := effects.foldl Narrative.apply run.narrative })

/-- Dispatches a kernel where `room` levels are unopened and nested calls are answered by
`answer`. -/
def dispatchWith (room : Nat) (answer : Answer) : Answer := fun kernel args run =>
  let run := { run with calls := run.calls + 1 }
  if env.limits.calls < run.calls then
    let (error, run) := run.exceed (.calls env.limits.calls)
    (.error (.limit error), run)
  else
    match env.registry.find? kernel with
    | none =>
      (.ok (fallback run.cast kernel args),
        run.diagnose .unknownKernel (some kernel) ("no kernel registered as '" ++ kernel ++ "'"))
    | some handler =>
      let ((result, effects), run) := env.perform room answer (handler ⟨kernel, args⟩).run run
      conclude kernel result effects run

/-- Opens a level where there is room for one and answers a call in it. -/
def openLevel (room : Nat) (answer : Answer) : Answer := fun kernel args run =>
  if run.refusedLevels < room then answer kernel args run
  else
    let (error, run) := env.refuseLevel run
    (.error (.limit error), run)

/-- Dispatches a kernel where `room` levels are unopened. -/
def dispatch : (room : Nat) → Answer
  | 0 => env.dispatchWith 0 fun _ _ run =>
    let (error, run) := env.refuseLevel run
    (.error (.limit error), run)
  | room + 1 => env.dispatchWith (room + 1) (env.openLevel (room + 1) (dispatch room))

end Environment

end Storyweave.Evaluation
