import Storyweave.Proofs.Evaluation.Moment

/-!
# The history of an evaluation

What happens while statements are told, in order. Every function of the evaluation has a history
beside it, which asks that function for the states in between and adds nothing to them. Results:
1. `perform_course`, `dispatch_course`: an action and a dispatch go through their histories, also
   when a bound was crossed before.
2. `evaluate_traced`: an expression goes through its history, and it has a result exactly as long
   as no bound was crossed.
3. `tell_traced`: so do statements.
-/

namespace Storyweave.Evaluation

open Storyweave.Story Storyweave.Kernel Storyweave.Language

/-! ## Steps -/

namespace Step

variable {α β : Type}

/-- What a step yields in a state, and the state behind it. -/
def outcome (step : Step α) (run : Run) : Except LimitError α × Run := step.run.run run

theorem outcome_modify (change : Run → Run) (run : Run) :
    outcome (modify change) run = (.ok ⟨⟩, change run) := rfl

theorem outcome_lift (change : StateM Run α) (run : Run) :
    outcome (ExceptT.lift change) run = (.ok (change run).1, (change run).2) := rfl

theorem outcome_bind (step : Step α) (following : α → Step β) (run : Run) :
    outcome (step >>= following) run =
      match step.outcome run with
      | (.ok value, later) => (following value).outcome later
      | (.error error, later) => (.error error, later) := by
  show (match step run with | (result, later) => ExceptT.bindCont following result later) = _
  unfold outcome ExceptT.run StateT.run
  rcases step run with ⟨_ | _, _⟩ <;> rfl

theorem outcome_get_bind (following : Run → Step β) (run : Run) :
    outcome (get >>= following) run = (following run).outcome run := rfl

/-- What happens in a step and, if it has a result, in what follows. -/
def followed (step : Step α) (first : Run → History) (rest : α → Run → History) (run : Run) :
    History :=
  first run ++
    match step.outcome run with
    | (.ok value, later) => rest value later
    | (.error _, _) => []

end Step

/-! ## Histories -/

/-- How a handler ended that left such a result in such a state. -/
def endingOf (result : Except Refusal Fragment) (run : Run) : Ending :=
  match run.exceeded, result with
  | some _, _ => .stopped
  | none, .error _ => .refused
  | none, .ok _ => .settled

namespace Environment

variable (env : Environment)

/-- What happens in an action whose nested calls are answered by `answer`, where `during` is what
happens in these. -/
def performHistory {α : Type} (room : Nat) (answer : Answer)
    (during : String → Args → Run → History) : Action α → Run → History
  | .done _, _ => []
  | .look next, run => performHistory room answer during (next (env.scene room run)) run
  | .draw next, run =>
    let (word, narrative) := run.narrative.draw
    .drew :: performHistory room answer during (next word) { run with narrative }
  | .template category slots next, run =>
    let (text, later) := env.fillTemplate category slots run
    .filled category slots :: performHistory room answer during (next text) later
  | .request effect next, run => .requested effect :: performHistory room answer during next run
  | .call kernel args next, run =>
    let (result, later) := answer kernel args run
    during kernel args run ++ performHistory room answer during (next result) later

/-- What happens in a dispatch whose nested calls are answered by `answer`. -/
def dispatchHistoryWith (room : Nat) (answer : Answer) (during : String → Args → Run → History)
    (kernel : String) (args : Args) (run : Run) : History :=
  let run := { run with calls := run.calls + 1 }
  if env.limits.calls < run.calls then [.crossed (.calls env.limits.calls)]
  else
    match env.registry.find? kernel with
    | none => [.counted, .unknown kernel]
    | some handler =>
      let action := (handler ⟨kernel, args⟩).run
      let ((result, _), later) := env.perform room answer action run
      .counted :: .began kernel :: env.performHistory room answer during action run ++
        [.ended (endingOf result later)]

/-- What happens in a nested call. -/
def openLevelHistory (room : Nat) (during : String → Args → Run → History) (kernel : String)
    (args : Args) (run : Run) : History :=
  if run.refusedLevels < room then .opened :: during kernel args run ++ [.closed]
  else [.crossed (.depth env.limits.depth)]

/-- How a dispatch where `room` levels are unopened answers nested calls. -/
def below : (room : Nat) → Answer
  | 0 => fun _ _ run =>
    let (error, run) := env.refuseLevel run
    (.error (.limit error), run)
  | room + 1 => env.openLevel (room + 1) (env.dispatch room)

theorem dispatch_eq (room : Nat) : env.dispatch room = env.dispatchWith room (env.below room) := by
  cases room <;> rfl

/-- What happens in a dispatch. -/
def dispatchHistory : (room : Nat) → String → Args → Run → History
  | 0 => env.dispatchHistoryWith 0 (env.below 0) fun _ _ _ => [.crossed (.depth env.limits.depth)]
  | room + 1 => env.dispatchHistoryWith (room + 1) (env.below (room + 1))
    (env.openLevelHistory (room + 1) (dispatchHistory room))

/-- What happens in the nested calls of a dispatch. -/
def belowHistory : (room : Nat) → String → Args → Run → History
  | 0 => fun _ _ _ => [.crossed (.depth env.limits.depth)]
  | room + 1 => env.openLevelHistory (room + 1) (env.dispatchHistory room)

theorem dispatchHistory_eq (room : Nat) : env.dispatchHistory room =
    env.dispatchHistoryWith room (env.below room) (env.belowHistory room) := by
  cases room <;> rfl

/-- What happens in a dispatch whose refusal is replaced by fallback text. -/
def recoveringHistory (room : Nat) (kernel : String) (args : Args) (run : Run) : History :=
  env.dispatchHistory room kernel args run ++
    match (env.dispatch room kernel args run).1 with
    | .error (.refused refusal) => [.recovered kernel refusal.message]
    | _ => []

/-- What happens in a declaration. -/
def declareHistory (room : Nat) (name : String) (traits : List String) (run : Run) : History :=
  match run.narrative.declare name traits with
  | none => [.recovered name ("character '" ++ name ++ "' is already declared")]
  | some (id, narrative) =>
    let later := { run with narrative := { narrative with focus := some id } }
    let args : Args := ⟨[.character id], []⟩
    .declared name traits ::
      if env.registry.contains characterMarker then
        Step.followed (env.dispatchRecovering room characterMarker args)
          (env.recoveringHistory room characterMarker args)
          (fun introduction _ => [.emitted introduction]) later
      else []

/-- What happens in a division. -/
def diluteHistory (head : Option String) (amount : Value) : History :=
  match divisor amount with
  | .ok _ => []
  | .error message => [.recovered (head.getD "something") message]

/-- What a call does at the level that was opened for it. -/
def callInside (room : Nat) (kernel : String) (positional : List Expr)
    (keywords : List (String × Expr)) : Step Value :=
  match declaredTraits? positional with
  | some traits => env.declare room kernel traits
  | none => do
    let positional ← env.evaluateAll room positional
    let keywords ← env.evaluateKeywords room keywords
    return .fragment (← env.dispatchRecovering room kernel ⟨positional, keywords⟩)

/-- What happens in a call at the level that was opened for it, where `first` happens in its
positional arguments and `second` in the others. -/
def insideHistory (room : Nat) (kernel : String) (positional : List Expr)
    (keywords : List (String × Expr)) (first second : Run → History) : Run → History :=
  match declaredTraits? positional with
  | some traits => env.declareHistory room kernel traits
  | none =>
    (env.evaluateAll room positional).followed first fun positional =>
      (env.evaluateKeywords room keywords).followed second fun keywords =>
        env.recoveringHistory room kernel ⟨positional, keywords⟩

mutual

/-- What happens in an expression. -/
def evaluateHistory (room : Nat) : Expr → Run → History
  | .name _, _ => []
  | .text _, _ => []
  | .number _, _ => []
  | .list items, run => allHistory room items run
  | .binary .compose left right, run =>
    (env.evaluate room left).followed (evaluateHistory room left)
      (fun _ => evaluateHistory room right) run
  | .binary .dilute left right, run =>
    (env.evaluate room left).followed (evaluateHistory room left)
      (fun _ => (env.evaluate room right).followed (evaluateHistory room right)
        fun amount _ => diluteHistory left.headName amount) run
  | .call kernel positional keywords, run =>
    if run.refusedLevels < room then
      .opened ::
        env.insideHistory (room - 1) kernel positional keywords
          (allHistory (room - 1) positional) (keywordsHistory (room - 1) keywords) run ++
        [.closed]
    else [.crossed (.depth env.limits.depth)]

/-- What happens in expressions. -/
def allHistory (room : Nat) : List Expr → Run → History
  | [], _ => []
  | first :: rest, run =>
    (env.evaluate room first).followed (evaluateHistory room first)
      (fun _ => allHistory room rest) run

/-- What happens in keyword arguments. -/
def keywordsHistory (room : Nat) : List (String × Expr) → Run → History
  | [], _ => []
  | (_, first) :: rest, run =>
    (env.evaluate room first).followed (evaluateHistory room first)
      (fun _ => keywordsHistory room rest) run

end

/-- What happens while statements are told. -/
def history : List Expr → Run → History
  | [], _ => []
  | statement :: rest, run =>
    (env.evaluateTop statement).followed (env.evaluateHistory env.limits.depth statement)
      (fun value later =>
        value.generated.map .emitted ++ history rest (value.generated.foldl Run.emit later)) run

end Environment

/-! ## Dispatches and their histories -/

/-- The bound that left a call without a result. -/
def crossedCall : Except CallError Fragment → Option LimitError
  | .error (.limit error) => some error
  | _ => none

namespace Environment

variable {env : Environment}

theorem refuseLevel_exceeded (run : Run) :
    (env.refuseLevel run).2.exceeded = some (env.refuseLevel run).1 := by
  unfold refuseLevel Run.exceed
  cases run.exceeded <;> simp [Run.diagnose]

/-- Nested calls that are answered by `answer` go through their history where so many levels are
open. -/
def AnswerTraced (env : Environment) (levels : Nat) (answer : Answer)
    (during : String → Args → Run → History) : Prop :=
  ∀ kernel args run pending, env.Course ⟨run, levels, pending⟩ (during kernel args run)
    ⟨(answer kernel args run).2, levels, pending⟩

section

variable {room levels : Nat} {answer : Answer} {during : String → Args → Run → History}

theorem perform_course {α : Type} (h : env.AnswerTraced levels answer during) (action : Action α)
    (run : Run) (asked : List Effect) (pending : List (List Effect)) :
    env.Course ⟨run, levels, asked :: pending⟩ (env.performHistory room answer during action run)
      ⟨(env.perform room answer action run).2, levels,
        (asked ++ (env.perform room answer action run).1.2) :: pending⟩ := by
  induction action generalizing run asked with
  | done result =>
    simp only [performHistory, perform, List.append_nil]
    exact .done _
  | look next ih => exact ih _ run asked
  | draw next ih => exact .step (List.cons_ne_nil _ _) (ih _ _ asked)
  | template category slots next ih => exact .step (List.cons_ne_nil _ _) (ih _ _ asked)
  | request effect next ih =>
    simp only [performHistory, perform]
    -- the action yields its effects at the end, the history notes each when it is asked for
    rw [List.append_cons asked effect]
    exact .step (List.cons_ne_nil _ _) (ih run (asked ++ [effect]))
  | call kernel args next ih => exact (h kernel args run _).append (ih _ _ asked)

/-- The moment behind a handler. -/
theorem next_ended (kernel : String) (result : Except Refusal Fragment) (effects : List Effect)
    (run : Run) (pending : List (List Effect)) :
    env.next ⟨run, levels, effects :: pending⟩ (.ended (endingOf result run)) =
      ⟨(conclude kernel result effects run).2, levels, pending⟩ := by
  obtain ⟨narrative, refusedLevels, calls, exceeded⟩ := run
  cases exceeded with
  | some _ => rfl
  | none => cases result <;> rfl

theorem allowed_ended (result : Except Refusal Fragment) (effects : List Effect) (run : Run)
    (pending : List (List Effect)) :
    env.Allowed ⟨run, levels, effects :: pending⟩ (.ended (endingOf result run)) := by
  unfold endingOf
  cases h : run.exceeded with
  | some first => exact ⟨List.cons_ne_nil _ _, by simp [h]⟩
  | none => cases result <;> exact ⟨List.cons_ne_nil _ _, h⟩

theorem dispatchWith_course (h : env.AnswerTraced levels answer during) :
    env.AnswerTraced levels (env.dispatchWith room answer)
      (env.dispatchHistoryWith room answer during) := by
  intro kernel args run pending
  unfold dispatchWith dispatchHistoryWith
  by_cases hcalls : env.limits.calls < run.calls + 1
  · simp only [hcalls, if_true]
    exact .single ⟨rfl, Nat.le_of_lt_succ hcalls⟩
  simp only [hcalls, if_false]
  have hcounted : run.calls < env.limits.calls := by omega
  cases hfind : env.registry.find? kernel with
  | none => exact .step hcounted (.single hfind)
  | some handler =>
    have hbegan : (env.registry.find? kernel).isSome := by rw [hfind]; rfl
    refine .step hcounted (.step hbegan (.append (perform_course h _ _ [] pending) ?_))
    rw [List.nil_append]
    rw [← next_ended kernel]
    exact .single (allowed_ended _ _ _ _)

theorem openLevel_course (h : env.AnswerTraced (levels + 1) answer during)
    (hlevels : levels + room = env.limits.depth) :
    env.AnswerTraced levels (env.openLevel room answer) (env.openLevelHistory room during) := by
  intro kernel args run pending
  unfold openLevel openLevelHistory
  by_cases hroom : run.refusedLevels < room
  · simp only [hroom, if_true]
    have hopened : levels + run.refusedLevels < env.limits.depth := by omega
    exact .step hopened ((h kernel args run pending).append (.single (Nat.succ_pos levels)))
  · simp only [hroom, if_false]
    have hcrossed : env.limits.depth ≤ levels + run.refusedLevels := by omega
    exact .single ⟨rfl, hcrossed⟩

end

/-- Nested calls go through their history. -/
theorem below_course {room levels : Nat} (h : levels + room = env.limits.depth) :
    env.AnswerTraced levels (env.below room) (env.belowHistory room) := by
  induction room generalizing levels with
  | zero =>
    intro kernel args run pending
    have hcrossed : env.limits.depth ≤ levels + run.refusedLevels := by omega
    exact .single ⟨rfl, hcrossed⟩
  | succ room ih =>
    refine openLevel_course ?_ h
    rw [dispatch_eq, dispatchHistory_eq]
    exact dispatchWith_course (ih (by omega))

/-- A dispatch goes through its history, also if a bound was crossed before. -/
theorem dispatch_course {room levels : Nat} (h : levels + room = env.limits.depth) :
    env.AnswerTraced levels (env.dispatch room) (env.dispatchHistory room) := by
  rw [dispatch_eq, dispatchHistory_eq]
  exact dispatchWith_course (below_course h)

/-- A dispatch that is one too many. -/
theorem dispatchWith_of_full (room : Nat) (answer : Answer) (kernel : String) (args : Args)
    {run : Run} (h : env.limits.calls < run.calls + 1) :
    (env.dispatchWith room answer kernel args run).2 = run.cross (.calls env.limits.calls) := by
  simp only [dispatchWith, h, if_true]
  rfl

theorem conclude_exceeded (kernel : String) (result : Except Refusal Fragment)
    (effects : List Effect) (run : Run) :
    (conclude kernel result effects run).2.exceeded =
      crossedCall (conclude kernel result effects run).1 := by
  obtain ⟨narrative, refusedLevels, calls, exceeded⟩ := run
  cases exceeded with
  | some _ => rfl
  | none => cases result <;> rfl

theorem dispatchWith_exceeded (room : Nat) (answer : Answer) (kernel : String) (args : Args)
    {run : Run} (h : run.exceeded = none) :
    (env.dispatchWith room answer kernel args run).2.exceeded =
      crossedCall (env.dispatchWith room answer kernel args run).1 := by
  unfold dispatchWith
  by_cases hcalls : env.limits.calls < run.calls + 1
  · simp only [hcalls, if_true, Run.exceed, Run.diagnose, h, crossedCall]
  simp only [hcalls, if_false]
  cases env.registry.find? kernel with
  | none => exact h
  | some handler => exact conclude_exceeded _ _ _ _

theorem dispatch_exceeded (env : Environment) (room : Nat) (kernel : String) (args : Args)
    {run : Run} (h : run.exceeded = none) :
    (env.dispatch room kernel args run).2.exceeded =
      crossedCall (env.dispatch room kernel args run).1 := by
  rw [dispatch_eq]
  exact dispatchWith_exceeded _ _ _ _ h

end Environment

/-! ## Steps and their histories -/

/-- The bound that left a step without a result. -/
def crossedStep {α : Type} : Except LimitError α → Option LimitError
  | .error error => some error
  | .ok _ => none

/-- A state in which no bound was crossed. -/
structure Run.Clear (run : Run) : Prop where
  exceeded : run.exceeded = none
  refusedLevels : run.refusedLevels = 0

/-- A step that has a result and changes nothing. -/
def Silent {α : Type} (step : Step α) : Prop := ∀ run, ∃ value, step.outcome run = (.ok value, run)

/-- A step that begins before any bound was crossed has a result exactly as long as it crosses
none. -/
def Halts {α : Type} (step : Step α) : Prop := ∀ run : Run, run.exceeded = none →
  (step.outcome run).2.exceeded = crossedStep (step.outcome run).1

theorem Silent.halts {α : Type} {step : Step α} (h : Silent step) : Halts step := by
  intro run hrun
  obtain ⟨value, hvalue⟩ := h run
  rw [hvalue]
  exact hrun

theorem Halts.ok_iff {α : Type} {step : Step α} (h : Halts step) {run : Run}
    (hrun : run.exceeded = none) :
    (∃ value, (step.outcome run).1 = .ok value) ↔ (step.outcome run).2.exceeded = none := by
  rw [h run hrun]
  cases (step.outcome run).1 <;> simp [crossedStep]

theorem Halts.bind {α β : Type} {step : Step α} {following : α → Step β} (h : Halts step)
    (hfollowing : ∀ value, Halts (following value)) : Halts (step >>= following) := by
  intro run hrun
  have hexceeded := h run hrun
  rw [Step.outcome_bind]
  rcases hstep : step.outcome run with ⟨error | value, later⟩
  · rw [hstep] at hexceeded
    exact hexceeded
  · rw [hstep] at hexceeded
    exact hfollowing value later hexceeded

namespace Environment

variable {env : Environment}

/-- A step that begins before any bound was crossed and where `room` levels are unopened goes
through its history, and it has a result exactly as long as no bound is crossed. -/
structure Traced (env : Environment) {α : Type} (room : Nat) (step : Step α)
    (history : Run → History) : Prop where
  course : ∀ run levels, run.exceeded = none → levels + room = env.limits.depth →
    env.Course ⟨run, levels, []⟩ (history run) ⟨(step.outcome run).2, levels, []⟩
  halts : Halts step

namespace Traced

variable {α β : Type} {room : Nat} {step : Step α} {following : α → Step β}
  {history : Run → History} {rest : α → Run → History}

theorem of_silent (h : Silent step) : env.Traced room step fun _ => [] where
  course run levels _ _ := by
    obtain ⟨value, hvalue⟩ := h run
    rw [hvalue]
    exact .done _
  halts := h.halts

theorem bind (h : env.Traced room step history)
    (hrest : ∀ value, env.Traced room (following value) (rest value)) :
    env.Traced room (step >>= following) (step.followed history rest) where
  course run levels hrun hlevels := by
    have hcourse := h.course run levels hrun hlevels
    -- what follows may begin only because a result says that no bound was crossed
    have hexceeded := h.halts run hrun
    rw [Step.outcome_bind, Step.followed]
    rcases hstep : step.outcome run with ⟨error | value, later⟩
    · rw [hstep] at hcourse
      simpa using hcourse
    · rw [hstep] at hcourse hexceeded
      exact hcourse.append ((hrest value).course later levels hexceeded hlevels)
  halts := h.halts.bind fun value => (hrest value).halts

theorem bind_silent (h : env.Traced room step history) (hrest : ∀ value, Silent (following value)) :
    env.Traced room (step >>= following) history := by
  have hsilent (value : α) : env.Traced room (following value) fun _ => [] :=
    of_silent (hrest value)
  have hbind := h.bind hsilent
  have hhistory : step.followed history (fun _ _ => []) = history := by
    funext run
    rw [Step.followed]
    split <;> exact List.append_nil _
  rwa [hhistory] at hbind

end Traced

variable {room : Nat}

theorem outcome_dispatchRecovering (kernel : String) (args : Args) (run : Run) :
    (env.dispatchRecovering room kernel args).outcome run =
      match env.dispatch room kernel args run with
      | (.ok fragment, later) => (.ok fragment, later)
      | (.error (.limit error), later) => (.error error, later)
      | (.error (.refused refusal), later) =>
        (.ok (fallback later.cast kernel args),
          later.diagnose .invalidArgumentShape (some kernel) refusal.message) := by
  unfold dispatchRecovering
  rw [Step.outcome_bind, Step.outcome_lift]
  rcases env.dispatch room kernel args run with ⟨(refusal | error) | fragment, later⟩ <;> rfl

theorem dispatchRecovering_traced (kernel : String) (args : Args) :
    env.Traced room (env.dispatchRecovering room kernel args)
      (env.recoveringHistory room kernel args) where
  course run levels hrun hlevels := by
    have hcourse := dispatch_course hlevels kernel args run []
    have hexceeded := dispatch_exceeded env room kernel args hrun
    rw [outcome_dispatchRecovering, recoveringHistory]
    rcases hdispatch : env.dispatch room kernel args run with ⟨(refusal | error) | fragment, later⟩
    · rw [hdispatch] at hcourse hexceeded
      exact hcourse.append (.single ⟨rfl, hexceeded⟩)
    · rw [hdispatch] at hcourse
      simpa using hcourse
    · rw [hdispatch] at hcourse
      simpa using hcourse
  halts run hrun := by
    have hexceeded := dispatch_exceeded env room kernel args hrun
    rw [outcome_dispatchRecovering]
    rcases hdispatch : env.dispatch room kernel args run with ⟨(refusal | error) | fragment, later⟩
    all_goals
      rw [hdispatch] at hexceeded
      exact hexceeded

theorem diluteBy_traced (head : Option String) (value amount : Value) :
    env.Traced room (diluteBy head value amount) fun _ => diluteHistory head amount := by
  unfold diluteBy diluteHistory
  cases divisor amount with
  | ok d => exact .of_silent fun _ => ⟨_, rfl⟩
  | error message => exact ⟨fun run levels hrun _ => .single ⟨rfl, hrun⟩, fun run hrun => hrun⟩

theorem emit_traced (fragment : Fragment) :
    env.Traced room (modify fun run => run.emit fragment) fun _ => [.emitted fragment] :=
  ⟨fun _ _ hrun _ => .single ⟨rfl, hrun⟩, fun _ hrun => hrun⟩

/-- What a declaration does behind the declaration itself. -/
def introduce (env : Environment) (room : Nat) (id : CharacterId) : Step Value := do
  if env.registry.contains characterMarker then
    let introduction ← env.dispatchRecovering room characterMarker ⟨[.character id], []⟩
    modify fun run => run.emit introduction
  return .character id

theorem outcome_declare (name : String) (traits : List String) (run : Run) :
    (env.declare room name traits).outcome run =
      match run.narrative.declare name traits with
      | none => (.ok (run.narrative.resolve name), run.diagnose .invalidArgumentShape (some name)
          ("character '" ++ name ++ "' is already declared"))
      | some (id, narrative) => (env.introduce room id).outcome
          { run with narrative := { narrative with focus := some id } } := by
  unfold declare
  rw [Step.outcome_get_bind]
  cases run.narrative.declare name traits <;> rfl

/-- What happens in a declaration behind the declaration itself. -/
def introduceHistory (env : Environment) (room : Nat) (id : CharacterId) (run : Run) : History :=
  if env.registry.contains characterMarker then
    (env.dispatchRecovering room characterMarker ⟨[.character id], []⟩).followed
      (env.recoveringHistory room characterMarker ⟨[.character id], []⟩)
      (fun introduction _ => [.emitted introduction]) run
  else []

theorem introduce_traced (id : CharacterId) :
    env.Traced room (env.introduce room id) (env.introduceHistory room id) := by
  unfold introduce introduceHistory
  by_cases hregistered : env.registry.contains characterMarker
  · simp only [hregistered, if_true]
    exact (dispatchRecovering_traced characterMarker _).bind fun introduction =>
      (emit_traced introduction).bind_silent fun _ _ => ⟨_, rfl⟩
  · simp only [hregistered]
    exact .of_silent fun _ => ⟨_, rfl⟩

theorem lookup_of_declare {n : Narrative} {name : String} {traits : List String}
    {declared : CharacterId × Narrative} (h : n.declare name traits = some declared) :
    n.lookup name = none := by
  cases hlookup : n.lookup name with
  | none => rfl
  | some id =>
    rw [Narrative.declare_eq_none hlookup] at h
    cases h

theorem declare_traced (name : String) (traits : List String) :
    env.Traced room (env.declare room name traits) (env.declareHistory room name traits) where
  course run levels hrun hlevels := by
    rw [outcome_declare, declareHistory]
    cases hdeclare : run.narrative.declare name traits with
    | none => exact .single ⟨rfl, hrun⟩
    | some declared =>
      obtain ⟨id, narrative⟩ := declared
      refine .step ⟨rfl, hrun, lookup_of_declare hdeclare⟩ ?_
      rw [next, Run.declare, hdeclare]
      exact (introduce_traced id).course _ levels hrun hlevels
  halts run hrun := by
    rw [outcome_declare]
    cases run.narrative.declare name traits with
    | none => exact hrun
    | some declared => exact (introduce_traced declared.1).halts _ hrun

/-! ## Expressions and statements -/

theorem outcome_call (kernel : String) (positional : List Expr)
    (keywords : List (String × Expr)) (run : Run) :
    (env.evaluate room (.call kernel positional keywords)).outcome run =
      if run.refusedLevels < room then
        (env.callInside (room - 1) kernel positional keywords).outcome run
      else (env.stopAtLevel : Step Value).outcome run := by
  rw [evaluate, Step.outcome_get_bind]
  by_cases h : run.refusedLevels < room
  · rw [if_pos h, if_pos h]
    unfold callInside
    cases declaredTraits? positional <;> rfl
  · rw [if_neg h, if_neg h]

theorem outcome_compose (room : Nat) (a b : Expr) (run : Run) :
    (env.evaluate room (.binary .compose a b)).outcome run =
      match (env.evaluate room a).outcome run with
      | (.error error, between) => (.error error, between)
      | (.ok first, between) =>
        match (env.evaluate room b).outcome between with
        | (.error error, later) => (.error error, later)
        | (.ok second, later) =>
          let parts := Composition.join (first.toParts later.cast) (second.toParts later.cast)
          (.ok (.composition parts), later) := by
  rw [evaluate, Step.outcome_bind]
  rcases (env.evaluate room a).outcome run with ⟨error | first, between⟩
  · rfl
  dsimp only
  rw [Step.outcome_bind]
  rcases (env.evaluate room b).outcome between with ⟨error | second, later⟩ <;> rfl

theorem outcome_dilute (room : Nat) (a b : Expr) (run : Run) :
    (env.evaluate room (.binary .dilute a b)).outcome run =
      match (env.evaluate room a).outcome run with
      | (.error error, between) => (.error error, between)
      | (.ok value, between) =>
        match (env.evaluate room b).outcome between with
        | (.error error, later) => (.error error, later)
        | (.ok amount, later) => (diluteBy a.headName value amount).outcome later := by
  rw [evaluate, Step.outcome_bind]
  rcases (env.evaluate room a).outcome run with ⟨error | value, between⟩
  · rfl
  dsimp only
  rw [Step.outcome_bind]
  rcases (env.evaluate room b).outcome between with ⟨error | amount, later⟩ <;> rfl

theorem outcome_tell_cons (statement : Expr) (rest : List Expr) (run : Run) :
    (env.tell (statement :: rest)).outcome run =
      match (env.evaluateTop statement).outcome run with
      | (.error error, later) => (.error error, later)
      | (.ok value, later) => (env.tell rest).outcome (value.generated.foldl Run.emit later) := by
  rw [tell, Step.outcome_bind]
  rcases (env.evaluateTop statement).outcome run with ⟨error | value, later⟩ <;> rfl

theorem callInside_traced {kernel : String} {positional : List Expr}
    {keywords : List (String × Expr)} {first second : Run → History}
    (hpositional : env.Traced room (env.evaluateAll room positional) first)
    (hkeywords : env.Traced room (env.evaluateKeywords room keywords) second) :
    env.Traced room (env.callInside room kernel positional keywords)
      (env.insideHistory room kernel positional keywords first second) := by
  unfold callInside insideHistory
  cases declaredTraits? positional with
  | some traits => exact declare_traced kernel traits
  | none =>
    exact hpositional.bind fun positional => hkeywords.bind fun keywords =>
      (dispatchRecovering_traced kernel ⟨positional, keywords⟩).bind_silent fun _ _ => ⟨_, rfl⟩

theorem call_traced {kernel : String} {positional : List Expr} {keywords : List (String × Expr)}
    (h : env.Traced (room - 1) (env.callInside (room - 1) kernel positional keywords)
      (env.insideHistory (room - 1) kernel positional keywords
        (env.allHistory (room - 1) positional) (env.keywordsHistory (room - 1) keywords))) :
    env.Traced room (env.evaluate room (.call kernel positional keywords))
      (env.evaluateHistory room (.call kernel positional keywords)) where
  course run levels hrun hlevels := by
    rw [outcome_call, evaluateHistory]
    by_cases hroom : run.refusedLevels < room
    · rw [if_pos hroom, if_pos hroom]
      have hopened : levels + run.refusedLevels < env.limits.depth := by omega
      have hinside := h.course run (levels + 1) hrun (by omega)
      exact .step hopened (hinside.append (.single (Nat.succ_pos levels)))
    · rw [if_neg hroom, if_neg hroom]
      have hcrossed : env.limits.depth ≤ levels + run.refusedLevels := by omega
      exact .single ⟨rfl, hcrossed⟩
  halts run hrun := by
    rw [outcome_call]
    by_cases hroom : run.refusedLevels < room
    · rw [if_pos hroom]
      exact h.halts run hrun
    · rw [if_neg hroom]
      exact refuseLevel_exceeded run

mutual

/-- An expression goes through its history. -/
theorem evaluate_traced (room : Nat) :
    ∀ e : Expr, env.Traced room (env.evaluate room e) (env.evaluateHistory room e)
  | .name word => by
    simp only [evaluate]
    exact .of_silent fun _ => ⟨_, rfl⟩
  | .text words => .of_silent fun _ => ⟨_, rfl⟩
  | .number x => .of_silent fun _ => ⟨_, rfl⟩
  | .list items => (evaluateAll_traced room items).bind_silent fun _ _ => ⟨_, rfl⟩
  | .binary .compose left right =>
    (evaluate_traced room left).bind fun _ =>
      (evaluate_traced room right).bind_silent fun _ _ => ⟨_, rfl⟩
  | .binary .dilute left right =>
    (evaluate_traced room left).bind fun value =>
      (evaluate_traced room right).bind (diluteBy_traced _ value)
  | .call kernel positional keywords =>
    call_traced (callInside_traced (evaluateAll_traced (room - 1) positional)
      (evaluateKeywords_traced (room - 1) keywords))

theorem evaluateAll_traced (room : Nat) :
    ∀ items : List Expr, env.Traced room (env.evaluateAll room items) (env.allHistory room items)
  | [] => .of_silent fun _ => ⟨_, rfl⟩
  | first :: rest =>
    (evaluate_traced room first).bind fun _ =>
      (evaluateAll_traced room rest).bind_silent fun _ _ => ⟨_, rfl⟩

theorem evaluateKeywords_traced (room : Nat) :
    ∀ keywords : List (String × Expr),
      env.Traced room (env.evaluateKeywords room keywords) (env.keywordsHistory room keywords)
  | [] => .of_silent fun _ => ⟨_, rfl⟩
  | (_, first) :: rest =>
    (evaluate_traced room first).bind fun _ =>
      (evaluateKeywords_traced room rest).bind_silent fun _ _ => ⟨_, rfl⟩

end

theorem emitAll_traced (fragments : List Fragment) :
    env.Traced room (modify fun run => fragments.foldl Run.emit run)
      fun _ => fragments.map .emitted := by
  constructor
  case course =>
    intro run levels hrun _
    rw [Step.outcome_modify]
    induction fragments generalizing run with
    | nil => exact .done _
    | cons first rest ih => exact .step ⟨rfl, hrun⟩ (ih (run.emit first) hrun)
  case halts =>
    intro run hrun
    rw [Step.outcome_modify]
    induction fragments generalizing run with
    | nil => exact hrun
    | cons first rest ih => exact ih (run.emit first) hrun

/-- Statements go through their history. -/
theorem tell_traced (statements : List Expr) :
    env.Traced env.limits.depth (env.tell statements) (env.history statements) := by
  induction statements with
  | nil => exact .of_silent fun _ => ⟨_, rfl⟩
  | cons statement rest ih =>
    exact (evaluate_traced env.limits.depth statement).bind fun value =>
      (emitAll_traced value.generated).bind fun _ => ih

/-- From a state in which no bound was crossed, the history of statements leads to the state that
they leave. -/
theorem tell_course (statements : List Expr) {run : Run} (h : run.exceeded = none) :
    env.Course (.outside run) (env.history statements run)
      (.outside ((env.tell statements).outcome run).2) :=
  (tell_traced statements).course run 0 h (Nat.zero_add _)

end Environment

end Storyweave.Evaluation
