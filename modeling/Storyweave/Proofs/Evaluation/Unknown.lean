import Storyweave.Proofs.Evaluation.Accounting
import Storyweave.Proofs.Starter.Agreement

/-!
# Unknown kernels

A kernel without handler is recorded and replaced by fallback text. Where no handler makes a nested
call, which kernels are dispatched can be read off the statements. Results:
1. `evaluate_meets`, `tell_meets`: the unknown kernels that are met are, in order, those that the
   calls of an expression name, and all of them if it has a result.
2. `unknown_kernels_recorded`: so each of them is recorded once, where its call comes to an end.
-/

namespace Storyweave

open Storyweave.Story Storyweave.Kernel Storyweave.Language

namespace Evaluation

/-! ## Called kernels -/

mutual

/-- The kernels that the calls in an expression name, in the order in which they are dispatched: a
call comes behind its arguments. A declaration is no call, and its arguments are not evaluated. -/
def calledKernels : Expr → List String
  | .name _ => []
  | .text _ => []
  | .number _ => []
  | .list items => allCalledKernels items
  | .binary _ left right => calledKernels left ++ calledKernels right
  | .call kernel positional keywords =>
    match declaredTraits? positional with
    | some _ => []
    | none => allCalledKernels positional ++ (keywordsCalledKernels keywords ++ [kernel])

/-- The kernels that the calls in several expressions name. -/
def allCalledKernels : List Expr → List String
  | [] => []
  | first :: rest => calledKernels first ++ allCalledKernels rest

/-- The kernels that the calls in keyword arguments name. -/
def keywordsCalledKernels : List (String × Expr) → List String
  | [] => []
  | (_, first) :: rest => calledKernels first ++ keywordsCalledKernels rest

end

/-- The names without a handler. -/
def Registry.lacking (registry : Registry) (names : List String) : List String :=
  names.filter fun name => !registry.contains name

theorem Registry.lacking_append (registry : Registry) (names others : List String) :
    registry.lacking (names ++ others) = registry.lacking names ++ registry.lacking others :=
  List.filter_append names others

/-! ## Unknown kernels of a history -/

/-- The kernel that an event finds without handler. -/
def Event.unknown? : Event → Option String
  | .unknown kernel => some kernel
  | _ => none

/-- The unknown kernels that were met in a history. -/
def unknowns (history : History) : List String := history.filterMap Event.unknown?

@[simp] theorem unknowns_nil : unknowns [] = [] := rfl

@[simp] theorem unknowns_cons (event : Event) (rest : History) :
    unknowns (event :: rest) = event.unknown?.toList ++ unknowns rest := by
  rw [unknowns, List.filterMap_cons]
  cases event.unknown? <;> rfl

theorem unknowns_append (history later : History) :
    unknowns (history ++ later) = unknowns history ++ unknowns later :=
  List.filterMap_append

/-- Of what a history records, the unknown kernels are those that were met. -/
theorem unknown_of_records (env : Environment) (history : History) :
    ((history.flatMap env.records).filter (·.kind == .unknownKernel)).map Diagnostic.subject =
      (unknowns history).map some := by
  induction history with
  | nil => rfl
  | cons event rest ih =>
    rw [List.flatMap_cons, List.filter_append, List.map_append, ih, unknowns_cons, List.map_append]
    congr 1
    cases event with
    | filled category slots =>
      simp only [Environment.records, Event.unknown?]
      split <;> rfl
    | _ => rfl

namespace Environment

/-- The unknown kernels that are met in a step are the first ones without a handler among some
names, and all of these if it has a result. -/
structure Meets (env : Environment) {α : Type} (step : Step α) (history : Run → History)
    (names : List String) : Prop where
  begins : ∀ run, unknowns (history run) <+: env.registry.lacking names
  completes : ∀ run value later, step.outcome run = (.ok value, later) →
    unknowns (history run) = env.registry.lacking names

variable {env : Environment} {room : Nat}

namespace Meets

variable {α β : Type} {step : Step α} {following : α → Step β} {history : Run → History}
  {rest : α → Run → History} {names others : List String}

/-- A step that meets the same unknown kernels wherever it begins. -/
theorem of_forall_eq (h : ∀ run, unknowns (history run) = env.registry.lacking names) :
    env.Meets step history names :=
  ⟨fun run => h run ▸ List.prefix_rfl, fun run _ _ _ => h run⟩

theorem congr (h : env.Meets step history names)
    (heq : env.registry.lacking names = env.registry.lacking others) :
    env.Meets step history others :=
  ⟨fun run => heq ▸ h.begins run, fun run value later hok => heq ▸ h.completes run value later hok⟩

theorem bind (h : env.Meets step history names)
    (hrest : ∀ value, env.Meets (following value) (rest value) others) :
    env.Meets (step >>= following) (step.followed history rest) (names ++ others) where
  begins run := by
    rw [Step.followed, unknowns_append, env.registry.lacking_append]
    rcases hstep : step.outcome run with ⟨error | value, later⟩
    · exact (List.append_nil _).symm ▸ (h.begins run).trans (List.prefix_append _ _)
    · rw [h.completes run value later hstep]
      exact (List.prefix_append_right_inj _).2 ((hrest value).begins later)
  completes run result last hresult := by
    rw [Step.outcome_bind] at hresult
    rw [Step.followed, unknowns_append, env.registry.lacking_append]
    rcases hstep : step.outcome run with ⟨error | value, later⟩
    · rw [hstep] at hresult
      cases hresult
    · rw [hstep] at hresult
      exact congrArg₂ (· ++ ·) (h.completes run value later hstep)
        ((hrest value).completes later result last hresult)

/-- What follows may be left out of a history. -/
theorem bind_left (h : env.Meets step history names) :
    env.Meets (step >>= following) history names where
  begins := h.begins
  completes run result last hresult := by
    rw [Step.outcome_bind] at hresult
    rcases hstep : step.outcome run with ⟨error | value, later⟩
    · rw [hstep] at hresult
      cases hresult
    · exact h.completes run value later hstep

end Meets

/-! ## Kernels -/

theorem unknowns_performHistory {α : Type} {answer : Answer}
    {during : String → Args → Run → History} {action : Action α} (h : action.CallFree)
    (run : Run) : unknowns (env.performHistory room answer during action run) = [] := by
  induction h generalizing run with
  | done result => rfl
  | look _ ih => exact ih _ run
  | draw _ ih => exact ih _ _
  | template category slots _ ih => exact ih _ _
  | request effect _ ih => exact ih run

/-- A dispatch meets its own kernel if there is room for it. -/
theorem dispatch_meets (h : env.registry.CallFree) (kernel : String) (args : Args) (run : Run) :
    unknowns (env.dispatchHistory room kernel args run) = env.registry.lacking [kernel] ∨
      unknowns (env.dispatchHistory room kernel args run) = [] ∧
        ∃ error, (env.dispatch room kernel args run).1 = .error (.limit error) := by
  rw [dispatch_eq, dispatchHistory_eq]
  unfold dispatchWith dispatchHistoryWith
  by_cases hcalls : env.limits.calls < run.calls + 1
  · simp only [hcalls, if_true]
    exact .inr ⟨rfl, _, rfl⟩
  simp only [hcalls, if_false]
  left
  cases hfind : env.registry.find? kernel with
  | none =>
    have hlacking : env.registry.lacking [kernel] = [kernel] := by
      simp [Registry.lacking, Catalogue.contains, hfind]
    exact hlacking.symm
  | some handler =>
    have hlacking : env.registry.lacking [kernel] = [] := by
      simp [Registry.lacking, Catalogue.contains, hfind]
    simp only [List.cons_append, unknowns_cons, unknowns_append, hlacking,
      unknowns_performHistory (h kernel handler hfind ⟨kernel, args⟩)]
    rfl

theorem dispatchRecovering_meets (h : env.registry.CallFree) (kernel : String) (args : Args) :
    env.Meets (env.dispatchRecovering room kernel args) (env.recoveringHistory room kernel args)
      [kernel] := by
  have hrecovered (run : Run) : unknowns (env.recoveringHistory room kernel args run) =
      unknowns (env.dispatchHistory room kernel args run) := by
    rw [recoveringHistory, unknowns_append]
    split <;> exact List.append_nil _
  constructor
  case begins =>
    intro run
    rw [hrecovered]
    rcases dispatch_meets h kernel args run with hmet | ⟨hnone, -⟩
    · exact hmet ▸ List.prefix_rfl
    · exact hnone ▸ List.nil_prefix
  case completes =>
    intro run fragment later hfragment
    rw [hrecovered]
    rcases dispatch_meets h kernel args run with hmet | ⟨-, error, herror⟩
    · exact hmet
    · rw [outcome_dispatchRecovering, ← Prod.eta (env.dispatch room kernel args run), herror]
        at hfragment
      cases hfragment

/-- To introduce a character, only a kernel that has a handler is dispatched. -/
theorem introduce_meets (h : env.registry.CallFree) (id : CharacterId) :
    env.Meets (env.introduce room id) (env.introduceHistory room id) [] := by
  unfold introduce introduceHistory
  by_cases hregistered : env.registry.contains characterMarker
  · simp only [hregistered, if_true]
    have hemit (introduction : Fragment) : env.Meets
        (modify fun run => run.emit introduction) (fun _ => [.emitted introduction]) [] :=
      .of_forall_eq fun _ => rfl
    have hlacking : env.registry.lacking [characterMarker] = env.registry.lacking [] := by
      simp [Registry.lacking, hregistered]
    exact ((dispatchRecovering_meets h characterMarker _).congr hlacking).bind fun introduction =>
      (hemit introduction).bind_left
  · simp only [hregistered]
    exact .of_forall_eq fun _ => rfl

theorem declare_meets (h : env.registry.CallFree) (name : String) (traits : List String) :
    env.Meets (env.declare room name traits) (env.declareHistory room name traits) [] := by
  refine .of_forall_eq fun run => ?_
  rw [declareHistory]
  cases run.narrative.declare name traits with
  | none => rfl
  | some declared =>
    obtain ⟨id, narrative⟩ := declared
    have hintroduced : env.Meets (env.introduce room id) _ [] := introduce_meets h id
    exact List.prefix_nil.1
      (hintroduced.begins { run with narrative := { narrative with focus := some id } })

/-! ## Expressions and statements -/

theorem diluteBy_meets (head : Option String) (value amount : Value) :
    env.Meets (diluteBy head value amount) (fun _ => diluteHistory head amount) [] := by
  refine .of_forall_eq fun run => ?_
  unfold diluteHistory
  cases divisor amount <;> rfl

theorem emitAll_meets (fragments : List Fragment) :
    env.Meets (modify fun run => fragments.foldl Run.emit run) (fun _ => fragments.map .emitted)
      [] := by
  refine .of_forall_eq fun run => ?_
  induction fragments with
  | nil => rfl
  | cons first rest ih => exact ih

theorem call_meets {kernel : String} {positional : List Expr} {keywords : List (String × Expr)}
    {names : List String}
    (h : env.Meets (env.callInside (room - 1) kernel positional keywords)
      (env.insideHistory (room - 1) kernel positional keywords
        (env.allHistory (room - 1) positional) (env.keywordsHistory (room - 1) keywords)) names) :
    env.Meets (env.evaluate room (.call kernel positional keywords))
      (env.evaluateHistory room (.call kernel positional keywords)) names where
  begins run := by
    rw [evaluateHistory]
    split
    · rw [List.cons_append, unknowns_cons, unknowns_append]
      exact (List.append_nil _).symm ▸ h.begins run
    · exact List.nil_prefix
  completes run value later hvalue := by
    rw [outcome_call] at hvalue
    rw [evaluateHistory]
    split
    case isTrue hroom =>
      rw [if_pos hroom] at hvalue
      rw [List.cons_append, unknowns_cons, unknowns_append]
      exact (List.append_nil _).trans (h.completes run value later hvalue)
    case isFalse hroom =>
      rw [if_neg hroom] at hvalue
      cases hvalue

theorem callInside_meets (h : env.registry.CallFree) {kernel : String} {positional : List Expr}
    {keywords : List (String × Expr)} {first second : Run → History}
    (hpositional : env.Meets (env.evaluateAll room positional) first (allCalledKernels positional))
    (hkeywords : env.Meets (env.evaluateKeywords room keywords) second
      (keywordsCalledKernels keywords)) :
    env.Meets (env.callInside room kernel positional keywords)
      (env.insideHistory room kernel positional keywords first second)
      (calledKernels (.call kernel positional keywords)) := by
  rw [calledKernels]
  unfold callInside insideHistory
  cases declaredTraits? positional with
  | some traits => exact declare_meets h kernel traits
  | none =>
    exact hpositional.bind fun positional => hkeywords.bind fun keywords =>
      (dispatchRecovering_meets h kernel ⟨positional, keywords⟩).bind_left

mutual

/-- The unknown kernels that are met in an expression are those that its calls name. -/
theorem evaluate_meets (h : env.registry.CallFree) (room : Nat) :
    ∀ e : Expr, env.Meets (env.evaluate room e) (env.evaluateHistory room e) (calledKernels e)
  | .name word => .of_forall_eq fun _ => rfl
  | .text words => .of_forall_eq fun _ => rfl
  | .number x => .of_forall_eq fun _ => rfl
  | .list items => (evaluateAll_meets h room items).bind_left
  | .binary .compose left right =>
    (evaluate_meets h room left).bind fun _ => (evaluate_meets h room right).bind_left
  | .binary .dilute left right => by
    have hboth := (evaluate_meets h room left).bind fun value =>
      (evaluate_meets h room right).bind (diluteBy_meets left.headName value)
    rwa [List.append_nil] at hboth
  | .call kernel positional keywords =>
    call_meets (callInside_meets h (evaluateAll_meets h (room - 1) positional)
      (evaluateKeywords_meets h (room - 1) keywords))

theorem evaluateAll_meets (h : env.registry.CallFree) (room : Nat) :
    ∀ items : List Expr,
      env.Meets (env.evaluateAll room items) (env.allHistory room items) (allCalledKernels items)
  | [] => .of_forall_eq fun _ => rfl
  | first :: rest =>
    (evaluate_meets h room first).bind fun _ => (evaluateAll_meets h room rest).bind_left

theorem evaluateKeywords_meets (h : env.registry.CallFree) (room : Nat) :
    ∀ keywords : List (String × Expr),
      env.Meets (env.evaluateKeywords room keywords) (env.keywordsHistory room keywords)
        (keywordsCalledKernels keywords)
  | [] => .of_forall_eq fun _ => rfl
  | (_, first) :: rest =>
    (evaluate_meets h room first).bind fun _ => (evaluateKeywords_meets h room rest).bind_left

end

/-- The unknown kernels that are met while statements are told are those that their calls name. -/
theorem tell_meets (h : env.registry.CallFree) (statements : List Expr) :
    env.Meets (env.tell statements) (env.history statements) (allCalledKernels statements) := by
  induction statements with
  | nil => exact .of_forall_eq fun _ => rfl
  | cons statement rest ih =>
    exact (evaluate_meets h env.limits.depth statement).bind fun value =>
      (emitAll_meets value.generated).bind fun _ => ih

end Environment

end Evaluation

/-! ## Stories -/

open Storyweave.Evaluation

namespace Engine

/-- With kernels that make no nested call, what is recorded of unknown kernels are the names without
a handler among those that are called, each as often as it is called and in the order in which the
calls come to an end: all of them if there is a story, and the first ones of them if a bound was
crossed. -/
theorem unknown_kernels_recorded (e : Engine) (h : e.registry.CallFree) (statements : List Expr)
    (seed : UInt64) :
    let unknown := ((recorded (e.tellStatements statements seed)).filter
      (·.kind == .unknownKernel)).map Diagnostic.subject
    let called := (e.registry.lacking (allCalledKernels statements)).map some
    unknown <+: called ∧
      ((∃ tale, e.tellStatements statements seed = .ok tale) → unknown = called) := by
  intro unknown called
  have hunknown : unknown = (unknowns (e.environment.history statements
      (.start (.start seed e.config.clamp)))).map some := by
    rw [← unknown_of_records e.environment, ← recorded_eq_flatMap]
  have hmeets : e.environment.Meets _ (e.environment.history statements) _ :=
    Environment.tell_meets h statements
  rw [hunknown, exists_tale_iff]
  refine ⟨List.IsPrefix.map some (hmeets.begins _), fun hok => congrArg (List.map some) ?_⟩
  exact hmeets.completes _ () _ (Prod.ext hok rfl)

/-- The arguments of a declaration are skipped, but not the operands of a division that fails, nor
the keyword arguments of an unknown kernel. -/
theorem unknown_kernels_of_muddle :
    ((recorded (tellStatements ⟨Starter.registry, Starter.templates, .standard, 0⟩
      [.call "Foo" [.call "Bar" [] []] [("with", .call "Baz" [] [])],
        .call "Ann" [.name "Character", .call "Skipped" [] []] [],
        .binary .dilute (.call "Joy" [.name "Ann"] []) (.call "Bar" [] [])] 7)).filter
      (·.kind == .unknownKernel)).map Diagnostic.subject =
    [some "Bar", some "Baz", some "Foo", some "Bar"] := by
  refine (unknown_kernels_recorded _ Starter.callFree_registry _ 7).2 ?_ |>.trans (by decide)
  rw [exists_tale_iff]
  refine (Environment.tell_ok_iff Starter.callFree_registry _ _ _).2 ?_
  decide

end Engine

end Storyweave
