import Storyweave.Evaluation.Evaluate
import Storyweave.Language.Parser
import Storyweave.Story.Render

/-!
# Story engines

From a source to a story: it is parsed, evaluated and rendered. An engine holds kernels,
templates and settings, and tells any number of stories with them.
-/

namespace Storyweave

open Storyweave.Story Storyweave.Kernel Storyweave.Evaluation
open Storyweave.Template (Table)
open Storyweave.Language

/-! ## Settings -/

/-- The settings of an engine. -/
structure Config where
  limits : Limits
  /-- Lighter fragments are left out of the story. -/
  threshold : Float
  clamp : Clamp

/-- The settings where none are given. -/
def Config.standard : Config := ⟨.standard, 0.3, .unbounded⟩

/-- Why settings are of no use. -/
inductive ConfigError where
  | zeroDepth
  | zeroCalls
  | invalidThreshold (threshold : Float)
  | emptyClamp (least greatest : Float)

/-- What is wrong with some settings, in words. -/
def ConfigError.message : ConfigError → String
  | .zeroDepth => "max_depth must be at least 1"
  | .zeroCalls => "max_calls must be at least 1"
  | .invalidThreshold threshold =>
    "render threshold must be a finite, non-negative number, got " ++ Number.text threshold
  | .emptyClamp least greatest =>
    "emotion clamp range is empty: min " ++ Number.text least ++ " > max " ++ Number.text greatest

namespace Config

/-- A range of emotions must hold a number. -/
def checkClamp : Clamp → Except ConfigError Unit
  | .unbounded => .ok ()
  | .range least greatest =>
    if least.isNaN || greatest.isNaN || decide (greatest < least) then
      .error (.emptyClamp least greatest)
    else .ok ()

/-- The first thing that is wrong with some settings. -/
def check (c : Config) : Except ConfigError Unit :=
  if c.limits.depth = 0 then .error .zeroDepth
  else if c.limits.calls = 0 then .error .zeroCalls
  else if !c.threshold.isFinite || decide (c.threshold < 0) then
    .error (.invalidThreshold c.threshold)
  else checkClamp c.clamp

end Config

/-! ## Stories -/

/-- A rendered story and what was recorded while it was told. -/
structure Tale where
  text : String
  /-- All fragments, also those too light to be rendered. -/
  fragments : List Fragment
  diagnostics : List Diagnostic
  effects : List Effect
  characters : List Character

namespace Tale

/-- The diagnostics of a kind. -/
def diagnosticsOf (t : Tale) (kind : DiagnosticKind) : List Diagnostic :=
  t.diagnostics.filter (·.kind == kind)

/-- The character with a name. -/
def character (t : Tale) (name : String) : Option Character :=
  t.characters.find? (·.name == name)

end Tale

/-- Why there is no story. -/
inductive TaleError where
  | malformed (error : SyntaxError)
  /-- A bound was crossed; the fragments are those of the story until then. -/
  | limit (error : LimitError) (fragments : List Fragment) (diagnostics : List Diagnostic)

namespace TaleError

/-- Why there is no story, in words. -/
def message : TaleError → String
  | .malformed error => "syntax error: " ++ error.message
  | .limit error _ _ => "recursion limit of " ++ toString error.limit ++ " exceeded"

/-- The diagnostics that describe the failure. -/
def diagnostics : TaleError → List Diagnostic
  | .malformed error => [⟨.malformedSource, none, error.message⟩]
  | .limit _ _ diagnostics => diagnostics

end TaleError

/-! ## Engines -/

structure Engine where
  registry : Registry
  templates : Table
  config : Config
  seed : UInt64

namespace Engine

/-- An engine of packs of kernels and tables of templates, of which the later ones win. -/
def build (registries : List Registry) (tables : List Table) (config : Option Config)
    (seed : UInt64) : Except ConfigError Engine := do
  let config := config.getD .standard
  config.check
  return ⟨registries.foldl Catalogue.merge .empty, tables.foldl Table.merge .empty, config, seed⟩

/-- What stays the same while an engine tells a story. -/
def environment (e : Engine) : Environment := ⟨e.registry, e.templates, e.config.limits⟩

/-- Tells the story of some statements. -/
def tellStatements (e : Engine) (statements : List Expr) (seed : UInt64) :
    Except TaleError Tale :=
  let start := Run.start (.start seed e.config.clamp)
  let (outcome, run) := (e.environment.tell statements).run.run start
  let n := run.narrative
  match outcome with
  | .error error => .error (.limit error n.fragments n.diagnostics)
  | .ok () =>
    .ok ⟨render n.fragments e.config.threshold, n.fragments, n.diagnostics, n.effects,
      n.characters⟩

/-- Tells the story of a source with a seed. -/
def generateWith (e : Engine) (source : String) (seed : UInt64) : Except TaleError Tale := do
  let statements ← (parse source).mapError .malformed
  e.tellStatements statements seed

/-- Tells the story of a source with the engine's own seed. -/
def generate (e : Engine) (source : String) : Except TaleError Tale := e.generateWith source e.seed

/-- The seed of a variant: the seeds of variants lie a thousand apart. -/
def variantSeed (e : Engine) (index : Nat) : UInt64 := e.seed + UInt64.ofNat index * 1000

/-- Tells so many variants of the story of a source. The first failure is the answer. -/
def variants (e : Engine) (source : String) (count : Nat) : Except TaleError (List Tale) := do
  let statements ← (parse source).mapError .malformed
  (List.range count).mapM fun index => e.tellStatements statements (e.variantSeed index)

end Engine

/-- Tells the story of a source with the standard settings. -/
def generate (source : String) (registry : Registry) (templates : Table) (seed : UInt64) :
    Except TaleError Tale :=
  Engine.generate ⟨registry, templates, .standard, seed⟩ source

end Storyweave
