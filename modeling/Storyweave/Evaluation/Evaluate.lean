import Storyweave.Evaluation.Run
import Storyweave.Language.Expr

/-!
# Evaluating expressions

Operands, items and arguments are evaluated from left to right. Only a crossed bound stops an
evaluation; what else goes wrong is recorded and replaced by fallback text.
-/

namespace Storyweave.Evaluation

open Storyweave.Story Storyweave.Kernel Storyweave.Language

/-- A step of an evaluation: it changes the state, and ends early when a bound is crossed. -/
abbrev Step := ExceptT LimitError (StateM Run)

/-! ## Declarations -/

/-- The name that marks a call as the declaration of a character. -/
def characterMarker : String := "Character"

mutual

/-- The trait words that an argument of a declaration spells. -/
def traitsOf : Expr → List String
  | .name word => [Text.lowercase word]
  | .call kernel _ _ => [Text.lowercase kernel]
  | .text words => [Text.lowercase (Text.trim words)]
  | .number _ => []
  | .binary .compose left right => traitsOf left ++ traitsOf right
  | .binary .dilute left _ => traitsOf left
  | .list items => allTraitsOf items

/-- The trait words that the arguments of a declaration spell. -/
def allTraitsOf : List Expr → List String
  | [] => []
  | first :: rest => traitsOf first ++ allTraitsOf rest

end

/-- The traits that a call declares, if its first argument marks it as a declaration. -/
def declaredTraits? : List Expr → Option (List String)
  | .name word :: rest => if word = characterMarker then some (allTraitsOf rest) else none
  | _ => none

/-! ## Dilution -/

/-- The number that a value may be divided by, or what is wrong with it. -/
def divisor (value : Value) : Except String Float :=
  match value.asNumber with
  | some d =>
    if 0 < d then .ok d else .error ("cannot dilute by " ++ English.number d)
  | none => .error ("dilution needs a number, got " ++ value.kind)

/-- A value with the weights of its fragments divided. A single fragment stays one. -/
def dilute (cast : List Character) (value : Value) (d : Float) : Value :=
  match (value.toParts cast).map (·.diluted d) with
  | [only] => .fragment only
  | parts => .composition (.join parts [])

/-- Divides the weight of a value by another, where `head` names the operand. -/
def diluteBy (head : Option String) (value amount : Value) : Step Value := do
  match divisor amount with
  | .ok d => return dilute (← get).cast value d
  | .error message =>
    let head := head.getD "something"
    modify fun run => run.diagnose .invalidArgumentShape (some head) message
    return .fragment (fallback (← get).cast head .empty)

/-! ## Expressions -/

namespace Environment

variable (env : Environment)

/-- Dispatches a kernel and replaces a refusal by fallback text. -/
def dispatchRecovering (room : Nat) (kernel : String) (args : Args) : Step Fragment := do
  match ← ExceptT.lift (env.dispatch room kernel args) with
  | .ok fragment => return fragment
  | .error (.limit error) => throw error
  | .error (.refused refusal) =>
    modify fun run => run.diagnose .invalidArgumentShape (some kernel) refusal.message
    return fallback (← get).cast kernel args

/-- Declares a character, turns the story to it, and introduces it if a kernel does that. -/
def declare (room : Nat) (name : String) (traits : List String) : Step Value := do
  let run ← get
  match run.narrative.declare name traits with
  | none =>
    set (run.diagnose .invalidArgumentShape (some name)
      ("character '" ++ name ++ "' is already declared"))
    return run.narrative.resolve name
  | some (id, narrative) =>
    set { run with narrative := { narrative with focus := some id } }
    if env.registry.contains characterMarker then
      let introduction ← env.dispatchRecovering room characterMarker ⟨[.character id], []⟩
      modify fun run => run.emit introduction
    return .character id

/-- Ends an evaluation that has no room for another level. -/
def stopAtLevel {α : Type} : Step α := do
  throw (← modifyGet env.refuseLevel)

mutual

/-- The value of an expression where `room` levels are unopened. A call opens one. -/
def evaluate (room : Nat) : Expr → Step Value
  | .name word => return (← get).narrative.resolve word
  | .text words => return .text words
  | .number x => return .number x
  | .list items => return .list (← evaluateAll room items)
  | .binary .compose left right => do
    let left ← evaluate room left
    let right ← evaluate room right
    let cast := (← get).cast
    return .composition (.join (left.toParts cast) (right.toParts cast))
  | .binary .dilute left right => do
    let value ← evaluate room left
    let amount ← evaluate room right
    diluteBy left.headName value amount
  | .call kernel positional keywords => do
    if (← get).refusedLevels < room then
      match declaredTraits? positional with
      | some traits => env.declare (room - 1) kernel traits
      | none =>
        let positional ← evaluateAll (room - 1) positional
        let keywords ← evaluateKeywords (room - 1) keywords
        return .fragment (← env.dispatchRecovering (room - 1) kernel ⟨positional, keywords⟩)
    else env.stopAtLevel

/-- The values of expressions. -/
def evaluateAll (room : Nat) : List Expr → Step (List Value)
  | [] => return []
  | first :: rest => do
    let value ← evaluate room first
    let values ← evaluateAll room rest
    return value :: values

/-- The values of keyword arguments. -/
def evaluateKeywords (room : Nat) : List (String × Expr) → Step (List (String × Value))
  | [] => return []
  | (key, first) :: rest => do
    let value ← evaluate room first
    let values ← evaluateKeywords room rest
    return (key, value) :: values

end

/-- The value of an expression outside all calls. -/
def evaluateTop (e : Expr) : Step Value := env.evaluate env.limits.depth e

/-- Evaluates statements in order and adds what each generates to the story. -/
def tell : List Expr → Step Unit
  | [] => return ()
  | statement :: rest => do
    let value ← env.evaluateTop statement
    modify fun run => value.generated.foldl Run.emit run
    tell rest

end Environment

end Storyweave.Evaluation
