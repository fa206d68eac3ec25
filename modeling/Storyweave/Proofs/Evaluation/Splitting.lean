import Storyweave.Proofs.Evaluation.Accounting
import Storyweave.Proofs.Evaluation.Identity
import Storyweave.Proofs.Story.Operands
import Storyweave.Starter.Pack

/-!
# Splitting statements

A kernel cannot see the log of a story, and of an evaluation only an introduction adds to it. So
what an operand generates may as well be added before the next operand is evaluated. Results:
1. `dispatch_logFree`: no kernel reads the log or adds to it, whatever its handler does.
2. `evaluate_logFree`: neither does an expression that introduces nobody.
3. `tell_compose`: a statement `a + b` and the statements `a`, `b` tell the same.
-/

namespace Storyweave

open Storyweave.Story Storyweave.Kernel Storyweave.Language

namespace Story.Narrative

/-- The same narrative with another log. -/
def withLog (n : Narrative) (log : List Fragment) : Narrative := { n with fragments := log }

theorem apply_withLog (n : Narrative) (log : List Fragment) (effect : Effect) :
    (n.withLog log).apply effect = (n.apply effect).withLog log := by
  cases effect with
  | emotion id emotion delta =>
    have hsame : (n.withLog log).character id = n.character id := rfl
    cases h : n.character id with
    | none => simp only [apply, hsame, h]
    | some c => simp only [apply, hsame, h]; rfl
  | focus character => rfl
  | object thing => rfl

theorem foldl_apply_withLog (effects : List Effect) (n : Narrative) (log : List Fragment) :
    effects.foldl apply (n.withLog log) = (effects.foldl apply n).withLog log := by
  induction effects generalizing n with
  | nil => rfl
  | cons effect rest ih => rw [List.foldl_cons, List.foldl_cons, apply_withLog, ih]

end Story.Narrative

namespace Evaluation

/-! ## The log of a state -/

namespace Run

/-- The fragments that were added so far. -/
def log (run : Run) : List Fragment := run.narrative.fragments

/-- The same state with another log. -/
def withLog (run : Run) (log : List Fragment) : Run :=
  { run with narrative := run.narrative.withLog log }

theorem withLog_log (run : Run) : run.withLog run.log = run := rfl

@[simp] theorem log_withLog (run : Run) (log : List Fragment) : (run.withLog log).log = log := rfl

@[simp] theorem withLog_withLog (run : Run) (first second : List Fragment) :
    (run.withLog first).withLog second = run.withLog second := rfl

/-- What is added to the log is what is not blank. -/
theorem foldl_emit (fragments : List Fragment) (run : Run) :
    fragments.foldl emit run = run.withLog (run.log ++ shown fragments) := by
  induction fragments generalizing run with
  | nil => exact (congrArg run.withLog (List.append_nil _)).symm
  | cons first rest ih =>
    rw [List.foldl_cons, ih]
    unfold emit Narrative.emit
    cases h : first.isBlank with
    | true => simp [shown, h]
    | false => simp [shown, h, withLog, log, Narrative.withLog]

end Run

/-- Something that neither reads the log nor adds to it. -/
def LogFree {α : Type} (f : Run → α × Run) : Prop :=
  ∀ run log, f (run.withLog log) = ((f run).1, (f run).2.withLog log)

namespace LogFree

variable {α β : Type}

theorem log_eq {f : Run → α × Run} (h : LogFree f) (run : Run) : (f run).2.log = run.log := by
  have hsame := congrArg (fun result => result.2.log) (h run run.log)
  rwa [Run.withLog_log] at hsame

theorem bind {step : Step α} {following : α → Step β} (h : LogFree step.outcome)
    (hfollowing : ∀ value, LogFree (following value).outcome) :
    LogFree (step >>= following).outcome := by
  intro run log
  rw [Step.outcome_bind, Step.outcome_bind, h run log]
  rcases step.outcome run with ⟨error | value, later⟩
  · rfl
  · exact hfollowing value later log

theorem pure (value : α) : LogFree (Pure.pure value : Step α).outcome := fun _ _ => rfl

end LogFree

/-! ## Kernels -/

namespace Environment

variable {env : Environment} {room : Nat}

theorem refuseLevel_logFree : LogFree env.refuseLevel := by
  intro run log
  obtain ⟨narrative, refusedLevels, calls, exceeded⟩ := run
  cases exceeded <;> rfl

theorem fillTemplate_logFree (category : String) (slots : Template.Slots) :
    LogFree (env.fillTemplate category slots) := by
  intro run log
  unfold fillTemplate
  split <;> rfl

theorem perform_logFree {α : Type} {answer : Answer}
    (h : ∀ kernel args, LogFree (answer kernel args)) (action : Action α) :
    LogFree (env.perform room answer action) := by
  induction action with
  | done result => exact fun _ _ => rfl
  | look next ih => exact fun run log => ih _ run log
  | draw next ih => exact fun run log => ih _ { run with narrative := run.narrative.draw.2 } log
  | template category slots next ih =>
    intro run log
    simp only [perform, fillTemplate_logFree category slots run log]
    exact ih _ _ log
  | request effect next ih =>
    intro run log
    simp only [perform, ih run log]
  | call kernel args next ih =>
    intro run log
    simp only [perform, h kernel args run log]
    exact ih _ _ log

theorem conclude_logFree (kernel : String) (result : Except Refusal Fragment)
    (effects : List Effect) : LogFree (conclude kernel result effects) := by
  intro run log
  obtain ⟨narrative, refusedLevels, calls, exceeded⟩ := run
  cases exceeded with
  | some error => rfl
  | none =>
    cases result with
    | error refusal => rfl
    | ok fragment =>
      simp only [conclude, Run.withLog, Narrative.foldl_apply_withLog]

theorem dispatchWith_logFree {answer : Answer} (h : ∀ kernel args, LogFree (answer kernel args))
    (kernel : String) (args : Args) : LogFree (env.dispatchWith room answer kernel args) := by
  intro run log
  unfold dispatchWith
  have hcalls : (run.withLog log).calls = run.calls := rfl
  simp only [hcalls]
  split
  · obtain ⟨narrative, refusedLevels, calls, exceeded⟩ := run
    cases exceeded <;> rfl
  cases env.registry.find? kernel with
  | none => rfl
  | some handler =>
    have hperformed : LogFree (env.perform room answer (handler ⟨kernel, args⟩).run) :=
      perform_logFree h _
    have hcounted : { run.withLog log with calls := run.calls + 1 } =
        Run.withLog { run with calls := run.calls + 1 } log := rfl
    simp only [hcounted, hperformed { run with calls := run.calls + 1 } log]
    exact conclude_logFree kernel _ _ _ log

theorem openLevel_logFree {answer : Answer} (h : ∀ kernel args, LogFree (answer kernel args))
    (kernel : String) (args : Args) : LogFree (env.openLevel room answer kernel args) := by
  intro run log
  unfold openLevel
  have hrefused : (run.withLog log).refusedLevels = run.refusedLevels := rfl
  simp only [hrefused]
  split
  · exact h kernel args run log
  · simp only [refuseLevel_logFree run log]

/-- No kernel reads the log or adds to it. -/
theorem dispatch_logFree (room : Nat) :
    ∀ kernel args, LogFree (env.dispatch room kernel args) := by
  induction room with
  | zero =>
    refine dispatchWith_logFree fun _ _ run log => ?_
    simp only [refuseLevel_logFree run log]
  | succ room ih => exact dispatchWith_logFree (openLevel_logFree ih)

theorem dispatchRecovering_logFree (kernel : String) (args : Args) :
    LogFree (env.dispatchRecovering room kernel args).outcome := by
  intro run log
  rw [outcome_dispatchRecovering, outcome_dispatchRecovering, dispatch_logFree]
  rcases env.dispatch room kernel args run with ⟨(refusal | error) | fragment, later⟩ <;> rfl

/-! ## Expressions -/

theorem stopAtLevel_logFree {α : Type} : LogFree (env.stopAtLevel : Step α).outcome := by
  intro run log
  obtain ⟨narrative, refusedLevels, calls, exceeded⟩ := run
  cases exceeded <;> rfl

theorem diluteBy_logFree (head : Option String) (value amount : Value) :
    LogFree (diluteBy head value amount).outcome := by
  intro run log
  unfold diluteBy
  cases divisor amount <;> rfl

/-- A declaration that introduces nobody leaves the log alone. -/
theorem declare_logFree (h : env.registry.contains characterMarker = false) (name : String)
    (traits : List String) : LogFree (env.declare room name traits).outcome := by
  intro run log
  have hlookup : (run.withLog log).narrative.lookup name = run.narrative.lookup name := rfl
  rw [outcome_declare, outcome_declare]
  cases hknown : run.narrative.lookup name with
  | some id =>
    rw [Narrative.declare_eq_none hknown, Narrative.declare_eq_none (hlookup.trans hknown)]
    simp only [Narrative.resolve, hlookup, hknown]
    rfl
  | none =>
    rw [Narrative.declare_eq_some hknown, Narrative.declare_eq_some (hlookup.trans hknown)]
    unfold introduce
    simp only [h]
    rfl

end Environment

/-- Whether nobody is introduced while something is evaluated that demands this. -/
def Demand.Introduceless (registry : Registry) (d : Demand) : Prop :=
  registry.contains characterMarker = false ∨ d.names = ∅

theorem Demand.introduceless_both {registry : Registry} {d e : Demand} :
    (d.both e).Introduceless registry ↔ d.Introduceless registry ∧ e.Introduceless registry := by
  simp only [Introduceless, both, Finset.union_eq_empty]
  tauto

namespace Environment

variable {env : Environment}

mutual

/-- An expression that introduces nobody neither reads the log nor adds to it. -/
theorem evaluate_logFree (room : Nat) : ∀ e : Expr, (demand e).Introduceless env.registry →
    LogFree (env.evaluate room e).outcome
  | .name word, _ => by
    simp only [evaluate]
    exact fun _ _ => rfl
  | .text words, _ => fun _ _ => rfl
  | .number x, _ => fun _ _ => rfl
  | .list items, h => (evaluateAll_logFree room items h).bind fun _ => .pure _
  | .binary .compose left right, h => by
    obtain ⟨hleft, hright⟩ := Demand.introduceless_both.1 h
    exact (evaluate_logFree room left hleft).bind fun _ =>
      (evaluate_logFree room right hright).bind fun _ _ _ => rfl
  | .binary .dilute left right, h => by
    obtain ⟨hleft, hright⟩ := Demand.introduceless_both.1 h
    exact (evaluate_logFree room left hleft).bind fun _ =>
      (evaluate_logFree room right hright).bind fun _ => diluteBy_logFree _ _ _
  | .call kernel positional keywords, h => by
    intro run log
    rw [outcome_call, outcome_call]
    have hrefused : (run.withLog log).refusedLevels = run.refusedLevels := rfl
    rw [hrefused]
    split
    case isFalse => exact stopAtLevel_logFree run log
    case isTrue =>
      unfold callInside
      cases hdeclared : declaredTraits? positional with
      | some traits =>
        rw [demand, hdeclared] at h
        exact declare_logFree (h.resolve_right (Finset.singleton_ne_empty kernel)) kernel traits
          run log
      | none =>
        rw [demand, hdeclared] at h
        obtain ⟨hpositional, hkeywords⟩ := Demand.introduceless_both.1 h
        refine LogFree.bind (evaluateAll_logFree (room - 1) positional hpositional) (fun _ => ?_)
          run log
        refine LogFree.bind (evaluateKeywords_logFree (room - 1) keywords hkeywords) fun _ => ?_
        exact (dispatchRecovering_logFree _ _).bind fun _ => .pure _

theorem evaluateAll_logFree (room : Nat) : ∀ items : List Expr,
    (allDemand items).Introduceless env.registry → LogFree (env.evaluateAll room items).outcome
  | [], _ => fun _ _ => rfl
  | first :: rest, h => by
    obtain ⟨hfirst, hrest⟩ := Demand.introduceless_both.1 h
    exact (evaluate_logFree room first hfirst).bind fun _ =>
      (evaluateAll_logFree room rest hrest).bind fun _ => .pure _

theorem evaluateKeywords_logFree (room : Nat) : ∀ keywords : List (String × Expr),
    (keywordsDemand keywords).Introduceless env.registry →
    LogFree (env.evaluateKeywords room keywords).outcome
  | [], _ => fun _ _ => rfl
  | (_, first) :: rest, h => by
    obtain ⟨hfirst, hrest⟩ := Demand.introduceless_both.1 h
    exact (evaluate_logFree room first hfirst).bind fun _ =>
      (evaluateKeywords_logFree room rest hrest).bind fun _ => .pure _

end

end Environment

/-! ## Statements -/

/-- Whether an expression evaluates to generated text: it is a call that declares nobody, a
composition or a dilution. -/
def generates : Expr → Bool
  | .call _ positional _ => (declaredTraits? positional).isNone
  | .binary _ _ _ => true
  | _ => false

namespace Environment

variable {env : Environment}

theorem generated_of_generates {room : Nat} {run later : Run} {value : Value} {e : Expr}
    (he : generates e) (h : (env.evaluate room e).outcome run = (.ok value, later)) :
    value.Generated := by
  match e with
  | .binary op left right => exact generated_of_binary h
  | .call kernel positional keywords =>
    have hcall := outcome_call_ok h
    rwa [Option.isNone_iff_eq_none.1 he] at hcall

/-- A sum of two operands fails like its operands one after the other, and if it does not, it
tells the same. -/
theorem tell_compose_cases {a b : Expr} (ha : generates a) (hb : generates b)
    (hquiet : (demand b).Introduceless env.registry) (run : Run) :
    (∃ error later log, (env.tell [.binary .compose a b]).outcome run = (.error error, later) ∧
      (env.tell [a, b]).outcome run = (.error error, later.withLog log)) ∨
    ∃ later, (env.tell [.binary .compose a b]).outcome run = (.ok ⟨⟩, later) ∧
      (env.tell [a, b]).outcome run = (.ok ⟨⟩, later) := by
  rw [outcome_tell_cons, outcome_tell_cons a, evaluateTop, outcome_compose, evaluateTop]
  rcases hfirst : (env.evaluate env.limits.depth a).outcome run with ⟨error | first, between⟩
  · exact .inl ⟨error, between, between.log, rfl, rfl⟩
  dsimp only
  -- what `a` generates is in the log by the time `b` is evaluated, or it is not
  rw [outcome_tell_cons, Run.foldl_emit, evaluateTop]
  have hfree := evaluate_logFree env.limits.depth b hquiet
  rw [hfree between]
  have hlog := hfree.log_eq between
  rcases hsecond : (env.evaluate env.limits.depth b).outcome between with ⟨error | second, later⟩
  · exact .inl ⟨error, later, _, rfl, rfl⟩
  rw [hsecond] at hlog
  refine .inr ⟨_, rfl, ?_⟩
  dsimp only
  rw [Run.foldl_emit, Run.foldl_emit, (generated_of_generates ha hfirst).toParts_eq,
    (generated_of_generates hb hsecond).toParts_eq, tell]
  have hparts : shown (Composition.join first.generated second.generated).parts =
      shown first.generated ++ shown second.generated := by
    rw [Composition.shown_parts, Composition.parts_join, shown_append]
  have hkept : later.log = between.log := hlog
  simp only [Run.log_withLog, Run.withLog_withLog, Value.generated, hparts, hkept,
    List.append_assoc]
  rfl

/-- A statement that is the sum of two operands which generate text tells the same as these as
statements of their own, unless an introduction comes before what the first of them generates. -/
theorem tell_compose (env : Environment) {a b : Expr} (ha : generates a) (hb : generates b)
    (hquiet : env.registry.contains characterMarker = false ∨ (demand b).names = ∅) (run : Run)
    (hrun : run.exceeded = none) :
    let one := (env.tell [.binary .compose a b]).outcome run
    let two := (env.tell [a, b]).outcome run
    (one.2.exceeded = none ↔ two.2.exceeded = none) ∧
    (one.2.exceeded = none → one.1 = .ok ⟨⟩ ∧ two = one) := by
  intro one two
  have hhalts : one.2.exceeded = crossedStep one.1 := (tell_traced _).halts run hrun
  obtain ⟨error, later, log, hone, htwo⟩ | ⟨later, hone, htwo⟩ :=
    tell_compose_cases ha hb hquiet run
  · simp only [one, two, hone, htwo, crossedStep] at hhalts ⊢
    have hsame : (later.withLog log).exceeded = later.exceeded := rfl
    simp [hsame, hhalts]
  · simp only [one, two, hone, htwo]
    simp

/-- The first operand may declare a character that the kernels of the second one know. -/
theorem tell_compose_known_character :
    let env : Environment := ⟨Starter.registry, Starter.templates, .standard⟩
    let a : Expr := .call "Friendship" [.call "Tim" [.name "Character"] []] []
    let b : Expr := .binary .dilute (.call "Routine" [.name "Tim"] []) (.number 2)
    let run : Run := .start (.start 7 .unbounded)
    let one := (env.tell [.binary .compose a b]).outcome run
    let two := (env.tell [a, b]).outcome run
    generates a ∧ generates b ∧ (demand b).names = ∅ ∧ run.exceeded = none ∧
    (one.2.exceeded = none ↔ two.2.exceeded = none) ∧
    (one.2.exceeded = none → one.1 = .ok ⟨⟩ ∧ two = one) :=
  ⟨rfl, rfl, rfl, rfl, tell_compose _ rfl rfl (.inr rfl) _ rfl⟩

/-- An introduction comes before what the first operand of a sum generates, but behind what a
statement of its own generates. -/
example :
    let introduce : Handler := fun i => pure (i.fragment "There was somebody.")
    let env : Environment := ⟨.ofList [(characterMarker, introduce)], ⟨.empty⟩, .standard⟩
    let a : Expr := .call "Rain" [] []
    let b : Expr := .call "Wind" [.call "Tim" [.name characterMarker] []] []
    let kernels (statements : List Expr) : List String :=
      ((env.tell statements).outcome (.start (.start 7 .unbounded))).2.log.map Fragment.kernel
    kernels [.binary .compose a b] = ["Character", "Rain", "Wind"] ∧
    kernels [a, b] = ["Rain", "Character", "Wind"] := by
  decide +kernel

end Environment

end Evaluation

end Storyweave
