import Storyweave.Engine
import Storyweave.Proofs.Evaluation.History

/-!
# What an evaluation uses

Of all kernels an evaluation looks up only some, and of all templates it fills those of some
categories: its history says which. Results:
1. `dispatch_agrees`, `evaluate_agrees`: with a registry and templates that are the same as far as
   they are used, a dispatch and an expression have the same outcome, nested calls included.
2. `tell_agrees`: so do statements.
3. `same_tale_of_same_use`: so a story depends on nothing else, and what is merged behind it without
   being used does not change it.
-/

namespace Storyweave

open Storyweave.Story Storyweave.Kernel Storyweave.Language
open Storyweave.Template (Table)

namespace Evaluation

/-! ## Use -/

/-- The kernel that is looked up at an event: the one that is dispatched, or behind a declaration
the one that introduces characters. -/
def Event.kernel? : Event → Option String
  | .unknown kernel => some kernel
  | .began kernel => some kernel
  | .declared _ _ => some characterMarker
  | _ => none

/-- The category of which a template is asked for at an event. -/
def Event.category? : Event → Option String
  | .filled category _ => some category
  | _ => none

/-- The kernels that are looked up in a history. -/
def kernelsUsed (history : History) : List String := history.filterMap Event.kernel?

/-- The categories of which templates are asked for in a history. -/
def categoriesUsed (history : History) : List String := history.filterMap Event.category?

namespace Environment

/-- A registry and templates that are the same as those of an environment as far as a history uses
them. -/
structure AgreesOn (env : Environment) (registry : Registry) (templates : Table)
    (history : History) : Prop where
  kernels : ∀ kernel ∈ kernelsUsed history, registry.find? kernel = env.registry.find? kernel
  categories : ∀ category ∈ categoriesUsed history,
    templates.alternatives category = env.templates.alternatives category

variable {env : Environment} {registry : Registry} {templates : Table} {room : Nat}

namespace AgreesOn

variable {history later : History} {event : Event}

theorem of_append (h : env.AgreesOn registry templates (history ++ later)) :
    env.AgreesOn registry templates history ∧ env.AgreesOn registry templates later := by
  obtain ⟨hkernels, hcategories⟩ := h
  simp only [kernelsUsed, categoriesUsed, List.filterMap_append, List.forall_mem_append]
    at hkernels hcategories
  exact ⟨⟨hkernels.1, hcategories.1⟩, ⟨hkernels.2, hcategories.2⟩⟩

theorem tail (h : env.AgreesOn registry templates (event :: later)) :
    env.AgreesOn registry templates later := by
  have happend : env.AgreesOn registry templates ([event] ++ later) := h
  exact happend.of_append.2

theorem kernel {kernel : String} (h : env.AgreesOn registry templates (event :: later))
    (hevent : event.kernel? = some kernel) :
    registry.find? kernel = env.registry.find? kernel :=
  h.kernels kernel (List.mem_filterMap.2 ⟨event, .head _, hevent⟩)

theorem category {category : String} (h : env.AgreesOn registry templates (event :: later))
    (hevent : event.category? = some category) :
    templates.alternatives category = env.templates.alternatives category :=
  h.categories category (List.mem_filterMap.2 ⟨event, .head _, hevent⟩)

end AgreesOn

/-! ## Kernels -/

theorem fillTemplate_agrees {category : String}
    (h : templates.alternatives category = env.templates.alternatives category)
    (slots : Template.Slots) (run : Run) :
    { env with registry, templates }.fillTemplate category slots run =
      env.fillTemplate category slots run := by
  have hcontains : templates.contains category = env.templates.contains category := by
    rw [Table.contains, Table.contains, h]
  have hgenerate (chance : Chance) :
      templates.generate category slots chance = env.templates.generate category slots chance := by
    rw [Table.generate, Table.generate, h]
  simp only [fillTemplate, hcontains, hgenerate]

/-- Nested calls are answered the same as long as what they use is the same. -/
def AnswerAgrees (env : Environment) (registry : Registry) (templates : Table)
    (answer other : Answer) (during : String → Args → Run → History) : Prop :=
  ∀ kernel args run, env.AgreesOn registry templates (during kernel args run) →
    other kernel args run = answer kernel args run

section

variable {answer other : Answer} {during : String → Args → Run → History}

theorem perform_agrees {α : Type} (h : env.AnswerAgrees registry templates answer other during)
    (action : Action α) {run : Run}
    (hsame : env.AgreesOn registry templates
      (env.performHistory room answer during action run)) :
    { env with registry, templates }.perform room other action run =
      env.perform room answer action run := by
  induction action generalizing run with
  | done result => rfl
  | look next ih => exact ih _ hsame
  | draw next ih => exact ih _ hsame.tail
  | template category slots next ih =>
    simp only [perform, fillTemplate_agrees (hsame.category rfl)]
    exact ih _ hsame.tail
  | request effect next ih =>
    simp only [perform, ih hsame.tail]
  | call kernel args next ih =>
    obtain ⟨hduring, hrest⟩ := hsame.of_append
    simp only [perform, h kernel args run hduring]
    exact ih _ hrest

theorem dispatchWith_agrees (h : env.AnswerAgrees registry templates answer other during) :
    env.AnswerAgrees registry templates (env.dispatchWith room answer)
      ({ env with registry, templates }.dispatchWith room other)
      (env.dispatchHistoryWith room answer during) := by
  intro kernel args run hsame
  unfold dispatchHistoryWith at hsame
  unfold dispatchWith
  by_cases hcalls : env.limits.calls < run.calls + 1
  · simp only [hcalls, if_true]
  simp only [hcalls, if_false] at hsame ⊢
  cases hfind : env.registry.find? kernel with
  | none =>
    rw [hfind] at hsame
    rw [(hsame.tail.kernel rfl).trans hfind]
  | some handler =>
    rw [hfind] at hsame
    rw [(hsame.tail.kernel rfl).trans hfind]
    have hperformed := perform_agrees h _ hsame.tail.tail.of_append.1
    simp only [hperformed]

theorem openLevel_agrees (h : env.AnswerAgrees registry templates answer other during) :
    env.AnswerAgrees registry templates (env.openLevel room answer)
      ({ env with registry, templates }.openLevel room other)
      (env.openLevelHistory room during) := by
  intro kernel args run hsame
  unfold openLevelHistory at hsame
  unfold openLevel
  by_cases hroom : run.refusedLevels < room
  · simp only [hroom, if_true] at hsame ⊢
    exact h kernel args run hsame.tail.of_append.1
  · simp only [hroom, if_false]
    rfl

end

theorem below_agrees (env : Environment) (registry : Registry) (templates : Table) (room : Nat) :
    env.AnswerAgrees registry templates (env.below room)
      ({ env with registry, templates }.below room) (env.belowHistory room) := by
  induction room with
  | zero => exact fun _ _ _ _ => rfl
  | succ room ih =>
    refine openLevel_agrees ?_
    rw [dispatch_eq, dispatch_eq, dispatchHistory_eq]
    exact dispatchWith_agrees ih

/-- A dispatch has the same outcome as long as what it uses is the same. -/
theorem dispatch_agrees (env : Environment) (registry : Registry) (templates : Table) (room : Nat) :
    env.AnswerAgrees registry templates (env.dispatch room)
      ({ env with registry, templates }.dispatch room) (env.dispatchHistory room) := by
  rw [dispatch_eq, dispatch_eq, dispatchHistory_eq]
  exact dispatchWith_agrees (below_agrees env registry templates room)

/-! ## Steps -/

/-- A step has the same outcome as another one as long as what it uses is the same. -/
def StepAgrees (env : Environment) (registry : Registry) (templates : Table) {α : Type}
    (step other : Step α) (history : Run → History) : Prop :=
  ∀ run, env.AgreesOn registry templates (history run) → other.outcome run = step.outcome run

namespace StepAgrees

variable {α β : Type} {step other : Step α} {following following' : α → Step β}
  {history : Run → History} {rest : α → Run → History}

theorem refl (step : Step α) (history : Run → History) :
    env.StepAgrees registry templates step step history := fun _ _ => rfl

theorem bind (h : env.StepAgrees registry templates step other history)
    (hrest : ∀ value,
      env.StepAgrees registry templates (following value) (following' value) (rest value)) :
    env.StepAgrees registry templates (step >>= following) (other >>= following')
      (step.followed history rest) := by
  intro run hsame
  obtain ⟨hfirst, hlater⟩ := hsame.of_append
  rw [Step.outcome_bind, Step.outcome_bind, h run hfirst]
  rcases hstep : step.outcome run with ⟨error | value, later⟩
  · rfl
  · rw [hstep] at hlater
    exact hrest value later hlater

/-- What follows may be left out of a history if it uses nothing. -/
theorem bind_left (h : env.StepAgrees registry templates step other history) :
    env.StepAgrees registry templates (step >>= following) (other >>= following) history := by
  intro run hsame
  rw [Step.outcome_bind, Step.outcome_bind, h run hsame]

end StepAgrees

theorem dispatchRecovering_agrees (kernel : String) (args : Args) :
    env.StepAgrees registry templates (env.dispatchRecovering room kernel args)
      ({ env with registry, templates }.dispatchRecovering room kernel args)
      (env.recoveringHistory room kernel args) := by
  intro run hsame
  have hdispatch := dispatch_agrees env registry templates room kernel args run hsame.of_append.1
  rw [outcome_dispatchRecovering, outcome_dispatchRecovering, hdispatch]

/-- A declaration looks up whether there is a kernel that introduces characters. -/
theorem introduce_agrees
    (h : registry.find? characterMarker = env.registry.find? characterMarker) (id : CharacterId) :
    env.StepAgrees registry templates (env.introduce room id)
      ({ env with registry, templates }.introduce room id) (env.introduceHistory room id) := by
  unfold introduce introduceHistory
  have hcontains : registry.contains characterMarker = env.registry.contains characterMarker :=
    congrArg Option.isSome h
  simp only [hcontains]
  by_cases hregistered : env.registry.contains characterMarker
  · simp only [hregistered, if_true]
    exact (dispatchRecovering_agrees characterMarker _).bind fun introduction =>
      .refl _ _
  · simp only [hregistered]
    exact .refl _ _

theorem declare_agrees (name : String) (traits : List String) :
    env.StepAgrees registry templates (env.declare room name traits)
      ({ env with registry, templates }.declare room name traits)
      (env.declareHistory room name traits) := by
  intro run hsame
  rw [outcome_declare, outcome_declare]
  rw [declareHistory] at hsame
  cases hdeclare : run.narrative.declare name traits with
  | none => rfl
  | some declared =>
    rw [hdeclare] at hsame
    exact introduce_agrees (hsame.kernel rfl) declared.1 _ hsame.tail

/-! ## Expressions and statements -/

theorem callInside_agrees {kernel : String} {positional : List Expr}
    {keywords : List (String × Expr)} {first second : Run → History}
    (hpositional : env.StepAgrees registry templates (env.evaluateAll room positional)
      ({ env with registry, templates }.evaluateAll room positional) first)
    (hkeywords : env.StepAgrees registry templates (env.evaluateKeywords room keywords)
      ({ env with registry, templates }.evaluateKeywords room keywords) second) :
    env.StepAgrees registry templates (env.callInside room kernel positional keywords)
      ({ env with registry, templates }.callInside room kernel positional keywords)
      (env.insideHistory room kernel positional keywords first second) := by
  unfold callInside insideHistory
  cases declaredTraits? positional with
  | some traits => exact declare_agrees kernel traits
  | none =>
    exact hpositional.bind fun positional => hkeywords.bind fun keywords =>
      (dispatchRecovering_agrees kernel ⟨positional, keywords⟩).bind_left

theorem call_agrees {kernel : String} {positional : List Expr} {keywords : List (String × Expr)}
    (h : env.StepAgrees registry templates
      (env.callInside (room - 1) kernel positional keywords)
      ({ env with registry, templates }.callInside (room - 1) kernel positional keywords)
      (env.insideHistory (room - 1) kernel positional keywords
        (env.allHistory (room - 1) positional) (env.keywordsHistory (room - 1) keywords))) :
    env.StepAgrees registry templates (env.evaluate room (.call kernel positional keywords))
      ({ env with registry, templates }.evaluate room (.call kernel positional keywords))
      (env.evaluateHistory room (.call kernel positional keywords)) := by
  intro run hsame
  rw [outcome_call, outcome_call]
  rw [evaluateHistory] at hsame
  by_cases hroom : run.refusedLevels < room
  · rw [if_pos hroom] at hsame ⊢
    rw [if_pos hroom]
    exact h run hsame.tail.of_append.1
  · rw [if_neg hroom, if_neg hroom]
    rfl

variable (env registry templates)

mutual

/-- An expression has the same outcome as long as what it uses is the same. -/
theorem evaluate_agrees (room : Nat) :
    ∀ e : Expr, env.StepAgrees registry templates (env.evaluate room e)
      ({ env with registry, templates }.evaluate room e) (env.evaluateHistory room e)
  | .name _ => fun _ _ => rfl
  | .text _ => fun _ _ => rfl
  | .number _ => fun _ _ => rfl
  | .list items => (evaluateAll_agrees room items).bind_left
  | .binary .compose left right =>
    (evaluate_agrees room left).bind fun _ => (evaluate_agrees room right).bind_left
  | .binary .dilute left right =>
    (evaluate_agrees room left).bind fun _ =>
      (evaluate_agrees room right).bind fun _ => .refl _ _
  | .call _ positional keywords =>
    call_agrees (callInside_agrees (evaluateAll_agrees (room - 1) positional)
      (evaluateKeywords_agrees (room - 1) keywords))

theorem evaluateAll_agrees (room : Nat) :
    ∀ items : List Expr, env.StepAgrees registry templates (env.evaluateAll room items)
      ({ env with registry, templates }.evaluateAll room items) (env.allHistory room items)
  | [] => .refl _ _
  | first :: rest =>
    (evaluate_agrees room first).bind fun _ => (evaluateAll_agrees room rest).bind_left

theorem evaluateKeywords_agrees (room : Nat) :
    ∀ keywords : List (String × Expr),
      env.StepAgrees registry templates (env.evaluateKeywords room keywords)
        ({ env with registry, templates }.evaluateKeywords room keywords)
        (env.keywordsHistory room keywords)
  | [] => .refl _ _
  | (_, first) :: rest =>
    (evaluate_agrees room first).bind fun _ => (evaluateKeywords_agrees room rest).bind_left

end

/-- Statements have the same outcome as long as what they use is the same. -/
theorem tell_agrees (statements : List Expr) :
    env.StepAgrees registry templates (env.tell statements)
      ({ env with registry, templates }.tell statements) (env.history statements) := by
  induction statements with
  | nil => exact .refl _ _
  | cons statement rest ih =>
    exact (evaluate_agrees env registry templates env.limits.depth statement).bind fun value =>
      StepAgrees.bind (.refl (modify fun run => value.generated.foldl Run.emit run)
        fun _ => value.generated.map .emitted) fun _ => ih

end Environment

end Evaluation

/-! ## Stories -/

open Storyweave.Evaluation

namespace Engine

/-- A story depends only on what is used for it. With any registry and templates that have the same
handlers for the kernels that were dispatched, for the kernel that introduces characters if one was
declared, and the same alternatives in the categories that were asked for, statements leave the same
state and have the same tale. So what is merged into an engine without being used changes no
story. -/
theorem same_tale_of_same_use (registry : Registry) (templates : Table) (config : Config)
    (own : UInt64) (statements : List Expr) (seed : UInt64) :
    let engine : Engine := ⟨registry, templates, config, own⟩
    let start : Run := .start (.start seed config.clamp)
    let used := engine.environment.history statements start
    (∀ (other : Registry) (others : Table) (own' : UInt64),
      engine.environment.AgreesOn other others used →
      (Environment.tell ⟨other, others, config.limits⟩ statements).outcome start =
          (engine.environment.tell statements).outcome start ∧
        tellStatements ⟨other, others, config, own'⟩ statements seed =
          engine.tellStatements statements seed) ∧
    ∀ (pack : Registry) (table : Table),
      (∀ kernel ∈ kernelsUsed used, pack.find? kernel = none) →
      (∀ category ∈ categoriesUsed used, table.categories.find? category = none) →
      tellStatements ⟨registry.merge pack, templates.merge table, config, own⟩ statements seed =
        engine.tellStatements statements seed := by
  intro engine start used
  have hsame (other : Registry) (others : Table) (own' : UInt64)
      (hagrees : engine.environment.AgreesOn other others used) :
      (Environment.tell ⟨other, others, config.limits⟩ statements).outcome start =
          (engine.environment.tell statements).outcome start ∧
        tellStatements ⟨other, others, config, own'⟩ statements seed =
          engine.tellStatements statements seed := by
    have houtcome : (Environment.tell ⟨other, others, config.limits⟩ statements).run.run start =
        (engine.environment.tell statements).run.run start :=
      Environment.tell_agrees engine.environment other others statements start hagrees
    refine ⟨houtcome, ?_⟩
    unfold tellStatements
    simp only [environment] at houtcome ⊢
    rw [houtcome]
  refine ⟨hsame, fun pack table hpack htable => ?_⟩
  refine (hsame (registry.merge pack) (templates.merge table) own ⟨?_, ?_⟩).2
  · intro kernel hkernel
    rw [Catalogue.find?_merge, hpack kernel hkernel]
    rfl
  · intro category hcategory
    rw [Template.Table.alternatives_merge, htable category hcategory]
    rfl

/-- A handler that calls another kernel and fills a template. -/
def hail : Handler := fun i => do
  let _ ← Telling.call "Echo" i.args
  let text ← Telling.template "hail" []
  return i.fragment text

/-- A character is declared and hailed. The nested call counts as used, and so does the kernel that
introduces characters, although there is none; what is overridden is not used. -/
theorem same_tale_of_hailed :
    let registry : Registry := .ofList [("Hail", hail), ("Wave", hail)]
    let templates : Table :=
      ⟨.ofList [("hail", [⟨1, [.literal "Hail!"]⟩]), ("wave", [⟨1, [.literal "A wave."]⟩])]⟩
    let pack : Registry := .ofList [("Wave", fun i => return i.fragment "Waves."), ("Bow", hail)]
    let table : Table := ⟨.ofList [("wave", [])]⟩
    let statements : List Expr :=
      [.call "Ann" [.name "Character"] [], .call "Hail" [.name "Ann"] []]
    tellStatements ⟨registry.merge pack, templates.merge table, .standard, 0⟩ statements 7 =
      tellStatements ⟨registry, templates, .standard, 0⟩ statements 7 := by
  intro registry templates pack table statements
  have hkernels : kernelsUsed ((environment ⟨registry, templates, .standard, 0⟩).history statements
      (.start (.start 7 .unbounded))) = ["Character", "Hail", "Echo"] := by decide +kernel
  have hcategories : categoriesUsed ((environment ⟨registry, templates, .standard, 0⟩).history
      statements (.start (.start 7 .unbounded))) = ["hail"] := by decide +kernel
  refine (same_tale_of_same_use registry templates .standard 0 statements 7).2 pack table ?_ ?_
  · intro kernel hkernel
    have hkernel := hkernels ▸ hkernel
    simp only [List.mem_cons, List.not_mem_nil, or_false] at hkernel
    rcases hkernel with rfl | rfl | rfl <;> rfl
  · intro category hcategory
    have hcategory := hcategories ▸ hcategory
    obtain rfl := List.mem_singleton.1 hcategory
    rfl

end Engine

end Storyweave
