import Storyweave.Proofs.Evaluation.Crossing
import Storyweave.Proofs.Evaluation.Identity
import Storyweave.Proofs.Starter.Answers

/-!
# Faults and their causes

What goes wrong while a story is told is recorded and replaced by fallback text. Results:
1. `Course.diagnostics_eq`: what is recorded is what the events of a history record.
2. `evaluate_justified`, `tell_justified`: where every handler answers, no template is missing, and
   every recorded fault has a cause in an expression that was evaluated on the way.
-/

namespace Storyweave.Evaluation

open Storyweave.Story Storyweave.Kernel Storyweave.Language

namespace Environment

/-! ## What is recorded -/

/-- What an event records. -/
def records (env : Environment) : Event → List Diagnostic
  | .crossed error => [⟨.recursionLimitExceeded, none, error.message⟩]
  | .unknown kernel =>
    [⟨.unknownKernel, some kernel, "no kernel registered as '" ++ kernel ++ "'"⟩]
  | .filled category _ =>
    if env.templates.contains category then []
    else [⟨.missingTemplateCategory, some category,
      "no templates registered for '" ++ category ++ "'"⟩]
  | .recovered subject message => [⟨.invalidArgumentShape, some subject, message⟩]
  | _ => []

variable {env : Environment}

theorem diagnostics_cross (run : Run) (error : LimitError) :
    (run.cross error).narrative.diagnostics =
      run.narrative.diagnostics ++ [⟨.recursionLimitExceeded, none, error.message⟩] := by
  cases error <;> cases h : run.exceeded <;>
    simp [Run.cross, Run.exceed, Run.diagnose, Narrative.diagnose, h]

theorem diagnostics_fillTemplate (category : String) (slots : Template.Slots) (run : Run) :
    (env.fillTemplate category slots run).2.narrative.diagnostics =
      run.narrative.diagnostics ++ env.records (.filled category slots) := by
  cases h : env.templates.contains category with
  | true => simp [fillTemplate, records, h]
  | false => simp [fillTemplate, records, h, Run.diagnose, Narrative.diagnose]

theorem diagnostics_next (m : Moment) (event : Event) :
    (env.next m event).run.narrative.diagnostics =
      m.run.narrative.diagnostics ++ env.records event := by
  cases event with
  | crossed error => exact diagnostics_cross m.run error
  | filled category slots => exact diagnostics_fillTemplate category slots m.run
  | unknown kernel => rfl
  | recovered subject message => rfl
  | declared name traits =>
    simp only [next, Run.declare, Narrative.declare, records, List.append_nil]
    cases m.run.narrative.byName.contains name <;> rfl
  | emitted fragment =>
    simp only [next, Run.emit, Narrative.emit, records, List.append_nil]
    split <;> rfl
  | ended ending =>
    cases ending with
    | settled => simp only [next, diagnostics_foldl_apply, records, List.append_nil]
    | refused => exact (List.append_nil _).symm
    | stopped => exact (List.append_nil _).symm
  | _ => exact (List.append_nil _).symm

/-- What is recorded is what the events of a history record, in their order. -/
theorem Course.diagnostics_eq {m m' : Moment} {history : History} (h : env.Course m history m') :
    m'.run.narrative.diagnostics =
      m.run.narrative.diagnostics ++ history.flatMap env.records := by
  induction h with
  | done => exact (List.append_nil _).symm
  | step _ _ ih => rw [ih, diagnostics_next, List.append_assoc, List.flatMap_cons]

end Environment

/-! ## Evaluated expressions -/

/-- An expression where so many levels are unopened, and the state in which it is evaluated. -/
structure Site where
  room : Nat
  expression : Expr
  run : Run

namespace Environment

mutual

/-- To evaluate one expression, another one is evaluated. -/
inductive Visits (env : Environment) : Site → Site → Prop where
  | here (site : Site) : Visits env site site
  | item {room : Nat} {items : List Expr} {run : Run} {site : Site} :
      VisitsAll env room items run site → Visits env ⟨room, .list items, run⟩ site
  | left {room : Nat} {op : Operator} {left right : Expr} {run : Run} {site : Site} :
      Visits env ⟨room, left, run⟩ site → Visits env ⟨room, .binary op left right, run⟩ site
  | right {room : Nat} {op : Operator} {left right : Expr} {run between : Run} {value : Value}
      {site : Site} :
      (env.evaluate room left).outcome run = (.ok value, between) →
      Visits env ⟨room, right, between⟩ site → Visits env ⟨room, .binary op left right, run⟩ site
  | positional {room : Nat} {kernel : String} {positional : List Expr}
      {keywords : List (String × Expr)} {run : Run} {site : Site} :
      run.refusedLevels < room → declaredTraits? positional = none →
      VisitsAll env (room - 1) positional run site →
      Visits env ⟨room, .call kernel positional keywords, run⟩ site
  | keyword {room : Nat} {kernel : String} {positional : List Expr}
      {keywords : List (String × Expr)} {run between : Run} {values : List Value} {site : Site} :
      run.refusedLevels < room → declaredTraits? positional = none →
      (env.evaluateAll (room - 1) positional).outcome run = (.ok values, between) →
      VisitsAll env (room - 1) (keywords.map Prod.snd) between site →
      Visits env ⟨room, .call kernel positional keywords, run⟩ site

/-- To evaluate expressions one after the other, another one is evaluated. -/
inductive VisitsAll (env : Environment) : Nat → List Expr → Run → Site → Prop where
  | first {room : Nat} {e : Expr} {rest : List Expr} {run : Run} {site : Site} :
      Visits env ⟨room, e, run⟩ site → VisitsAll env room (e :: rest) run site
  | rest {room : Nat} {e : Expr} {rest : List Expr} {run between : Run} {value : Value}
      {site : Site} :
      (env.evaluate room e).outcome run = (.ok value, between) →
      VisitsAll env room rest between site → VisitsAll env room (e :: rest) run site

end

/-- To tell statements, an expression is evaluated. -/
inductive VisitsTelling (env : Environment) : List Expr → Run → Site → Prop where
  | first {statement : Expr} {rest : List Expr} {run : Run} {site : Site} :
      Visits env ⟨env.limits.depth, statement, run⟩ site →
      VisitsTelling env (statement :: rest) run site
  | rest {statement : Expr} {rest : List Expr} {run between : Run} {value : Value} {site : Site} :
      (env.evaluateTop statement).outcome run = (.ok value, between) →
      VisitsTelling env rest (value.generated.foldl Run.emit between) site →
      VisitsTelling env (statement :: rest) run site

/-- Why something is recorded about a subject where an expression is evaluated: a name is declared
again, a divisor is no positive number, or a handler refuses its evaluated arguments. -/
inductive Fault (env : Environment) (refuses : String → Scene → Args → String → Prop) :
    Site → String → String → Prop where
  | redeclared {room : Nat} {name : String} {positional : List Expr}
      {keywords : List (String × Expr)} {run : Run} {traits : List String} {id : CharacterId} :
      run.refusedLevels < room → declaredTraits? positional = some traits →
      run.narrative.lookup name = some id →
      Fault env refuses ⟨room, .call name positional keywords, run⟩ name
        ("character '" ++ name ++ "' is already declared")
  | dilution {room : Nat} {left right : Expr} {run between later : Run} {value amount : Value}
      {message : String} :
      (env.evaluate room left).outcome run = (.ok value, between) →
      (env.evaluate room right).outcome between = (.ok amount, later) →
      (∀ d, amount = .number d → ¬ 0 < d) → divisor amount = .error message →
      Fault env refuses ⟨room, .binary .dilute left right, run⟩ (left.headName.getD "something")
        message
  | refused {room : Nat} {kernel : String} {positional : List Expr}
      {keywords : List (String × Expr)} {run between later : Run} {values : List Value}
      {options : List (String × Value)} {message : String} :
      run.refusedLevels < room → declaredTraits? positional = none →
      (env.evaluateAll (room - 1) positional).outcome run = (.ok values, between) →
      (env.evaluateKeywords (room - 1) keywords).outcome between = (.ok options, later) →
      refuses kernel (env.scene (room - 1) later) ⟨values, options⟩ message →
      Fault env refuses ⟨room, .call kernel positional keywords, run⟩ kernel message

/-- Given arguments whose characters are known, every handler refuses for certain reasons only, and
no handler refuses to introduce a character. -/
structure Agrees (env : Environment) (refuses : String → Scene → Args → String → Prop) : Prop where
  answers : env.registry.Answers env.templates refuses
  introduces : ∀ scene id message, ¬ refuses characterMarker scene ⟨[.character id], []⟩ message

/-- There is a fault where one of the visited expressions is evaluated. -/
def FaultFrom (env : Environment) (refuses : String → Scene → Args → String → Prop)
    (visited : Site → Prop) (subject message : String) : Prop :=
  ∃ site, visited site ∧ env.Fault refuses site subject message

end Environment

/-! ## Justified histories -/

/-- A filled template was there and could be filled, and a recorded fault has a cause. -/
def Event.Justified (t : Template.Table) (cause : String → String → Prop) : Event → Prop
  | .filled category slots => t.Serves category slots
  | .recovered subject message => cause subject message
  | _ => True

/-- All events of a history are justified. -/
def Justified (t : Template.Table) (cause : String → String → Prop) (history : History) : Prop :=
  ∀ event ∈ history, event.Justified t cause

namespace Justified

variable {t : Template.Table} {cause other : String → String → Prop} {first second : History}

theorem nil : Justified t cause [] := nofun

theorem cons {event : Event} (h : event.Justified t cause) (hrest : Justified t cause first) :
    Justified t cause (event :: first) :=
  List.forall_mem_cons.2 ⟨h, hrest⟩

theorem append (h : Justified t cause first) (h' : Justified t cause second) :
    Justified t cause (first ++ second) :=
  List.forall_mem_append.2 ⟨h, h'⟩

theorem mono (h : Justified t cause first)
    (hcause : ∀ subject message, cause subject message → other subject message) :
    Justified t other first := by
  intro event hevent
  have hjustified := h event hevent
  cases event with
  | recovered subject message => exact hcause subject message hjustified
  | _ => exact hjustified

/-- Faults of some expressions are faults of more of them. -/
theorem widen {env : Environment} {refuses : String → Scene → Args → String → Prop}
    {visited wider : Site → Prop} (h : Justified t (env.FaultFrom refuses visited) first)
    (hwider : ∀ site, visited site → wider site) :
    Justified t (env.FaultFrom refuses wider) first :=
  h.mono fun _ _ ⟨site, hsite, hfault⟩ => ⟨site, hwider site hsite, hfault⟩

theorem followed {α : Type} {step : Step α} {history : Run → History}
    {rest : α → Run → History} {run : Run} (h : Justified t cause (history run))
    (hrest : ∀ value later, step.outcome run = (.ok value, later) →
      Justified t cause (rest value later)) :
    Justified t cause (step.followed history rest run) := by
  refine h.append ?_
  rcases hstep : step.outcome run with ⟨error | value, later⟩
  · exact nil
  · exact hrest value later hstep

end Justified

namespace Environment

variable {env : Environment} {room : Nat} {run : Run}
  {refuses : String → Scene → Args → String → Prop} {cause : String → String → Prop}

/-! ## Kernels -/

/-- To fill a template that is there changes nothing that a kernel sees. -/
theorem scene_fillTemplate (category : String) (slots : Template.Slots) (run : Run) :
    env.scene room (env.fillTemplate category slots run).2 = env.scene room run := by
  unfold fillTemplate
  split <;> rfl

theorem exists_fillTemplate_eq {category : String} {slots : Template.Slots}
    (h : env.templates.Serves category slots) (run : Run) :
    ∃ text, (env.fillTemplate category slots run).1 = .ok text := by
  simp only [fillTemplate, h.contains, if_true]
  exact h.fills run.narrative.chance

/-- An action that ends well in the scene of a state does so when it is carried out there. -/
theorem perform_justified {α : Type} {answer : Answer} {during : String → Args → Run → History}
    {scene : Scene} {P : α → Prop} {action : Action α} (h : action.Ends env.templates scene P)
    (hscene : env.scene room run = scene) :
    P (env.perform room answer action run).1.1 ∧
      Justified env.templates cause (env.performHistory room answer during action run) := by
  induction h generalizing run with
  | done hresult => exact ⟨hresult, .nil⟩
  | look _ ih =>
    subst hscene
    exact ih rfl
  | draw _ ih =>
    have hdrawn : env.scene room { run with narrative := run.narrative.draw.2 } = scene := hscene
    obtain ⟨hresult, hhistory⟩ := ih run.narrative.draw.1 hdrawn
    exact ⟨hresult, .cons trivial hhistory⟩
  | @template category slots next hserves _ ih =>
    obtain ⟨text, htext⟩ := exists_fillTemplate_eq hserves run
    obtain ⟨hresult, hhistory⟩ := ih text ((scene_fillTemplate category slots run).trans hscene)
    simp only [perform, performHistory, htext]
    exact ⟨hresult, .cons hserves hhistory⟩
  | request effect _ ih =>
    obtain ⟨hresult, hhistory⟩ := ih hscene
    exact ⟨hresult, .cons trivial hhistory⟩

/-- A refusal is the handler's own. -/
theorem eq_of_conclude_refused {kernel : String} {result : Except Refusal Fragment}
    {effects : List Effect} {refusal : Refusal}
    (h : (conclude kernel result effects run).1 = .error (.refused refusal)) :
    result = .error refusal := by
  unfold conclude at h
  cases hexceeded : run.exceeded with
  | some error => simp [hexceeded] at h
  | none => cases result <;> simp_all

/-- Where every handler answers, a dispatch whose characters are known fills templates that are
there, and its kernel refuses for certain reasons only. -/
theorem dispatch_justified (cause : String → String → Prop)
    (h : env.registry.Answers env.templates refuses) {kernel : String} {args : Args}
    (hknown : (env.scene room run).Knows args) :
    Justified env.templates cause (env.dispatchHistory room kernel args run) ∧
      ∀ refusal, (env.dispatch room kernel args run).1 = .error (.refused refusal) →
        refuses kernel (env.scene room run) args refusal.message := by
  rw [dispatch_eq, dispatchHistory_eq]
  unfold dispatchWith dispatchHistoryWith
  by_cases hcalls : env.limits.calls < run.calls + 1
  · simp only [hcalls, if_true]
    refine ⟨.cons trivial .nil, fun refusal hrefused => ?_⟩
    cases hrefused
  simp only [hcalls, if_false]
  cases hfind : env.registry.find? kernel with
  | none =>
    refine ⟨.cons trivial (.cons trivial .nil), fun refusal hrefused => ?_⟩
    cases hrefused
  | some handler =>
    have hanswers := h kernel handler hfind (env.scene room run) args hknown
    have hscene : env.scene room { run with calls := run.calls + 1 } = env.scene room run := rfl
    obtain ⟨hresult, hhistory⟩ := perform_justified hanswers hscene
    refine ⟨.cons trivial (.cons trivial (hhistory.append (.cons trivial .nil))), ?_⟩
    exact fun refusal hrefused => hresult refusal (eq_of_conclude_refused hrefused)

theorem recovering_justified (h : env.registry.Answers env.templates refuses) {kernel : String}
    {args : Args} (hknown : (env.scene room run).Knows args)
    (hcause : ∀ message, refuses kernel (env.scene room run) args message →
      cause kernel message) :
    Justified env.templates cause (env.recoveringHistory room kernel args run) := by
  obtain ⟨hhistory, hrefused⟩ := dispatch_justified cause h hknown
  refine hhistory.append ?_
  split
  case h_1 refusal heq => exact .cons (hcause _ (hrefused refusal heq)) .nil
  case h_2 => exact .nil

/-- A declaration is justified, as the character that it introduces is known. -/
theorem declare_justified (h : env.Agrees refuses) {name : String} {traits : List String}
    (hcause : ∀ id, run.narrative.lookup name = some id →
      cause name ("character '" ++ name ++ "' is already declared")) :
    Justified env.templates cause (env.declareHistory room name traits run) := by
  unfold declareHistory
  cases hlookup : run.narrative.lookup name with
  | some id =>
    rw [Narrative.declare_eq_none hlookup]
    exact .cons (hcause id hlookup) .nil
  | none =>
    rw [Narrative.declare_eq_some hlookup]
    refine .cons trivial ?_
    split
    case isFalse => exact .nil
    case isTrue =>
      refine .followed (recovering_justified h.answers ?_ fun message hrefused => ?_) fun _ _ _ =>
        .cons trivial .nil
      · intro id hid
        have hnew : (run.narrative.introduced name traits).character
            run.narrative.characters.length =
              some (.declare run.narrative.characters.length name traits) := by
          rw [Narrative.character_introduced, if_pos rfl]
        rw [List.mem_singleton.1 hid]
        exact Option.isSome_iff_exists.2 ⟨_, hnew⟩
      · exact absurd hrefused (h.introduces _ _ message)

/-! ## Expressions -/

theorem diluteBy_justified {left right : Expr} {between later : Run} {value amount : Value}
    (hleft : (env.evaluate room left).outcome run = (.ok value, between))
    (hright : (env.evaluate room right).outcome between = (.ok amount, later)) :
    Justified env.templates
      (env.FaultFrom refuses (env.Visits ⟨room, .binary .dilute left right, run⟩))
      (diluteHistory left.headName amount) := by
  unfold diluteHistory
  cases hdivisor : divisor amount with
  | ok d => exact .nil
  | error message =>
    have hdivides (d : Float) (heq : amount = .number d) : ¬ 0 < d := by
      intro hpos
      simp [heq, divisor, Value.asNumber, hpos] at hdivisor
    exact .cons ⟨_, .here _, .dilution hleft hright hdivides hdivisor⟩ .nil

/-- The characters among some arguments are spoken of. -/
theorem mem_mentionsOf {values : List Value} {id : CharacterId}
    (h : id ∈ values.filterMap Value.asCharacter) : id ∈ Value.mentionsOf values := by
  induction values with
  | nil => cases h
  | cons first rest ih =>
    rw [Value.mentionsOf]
    obtain ⟨value, hvalue, hid⟩ := List.mem_filterMap.1 h
    rcases List.mem_cons.1 hvalue with rfl | hvalue
    · cases value with
      | character other =>
        obtain rfl := Option.some.inj hid
        exact List.mem_append_left _ (List.mem_singleton_self _)
      | _ => cases hid
    · exact List.mem_append_right _ (ih (List.mem_filterMap.2 ⟨value, hvalue, hid⟩))

mutual

/-- What happens in an expression is justified by the expressions that are evaluated for it. -/
theorem evaluate_justified (h : env.Agrees refuses) : ∀ (e : Expr) {room : Nat} {run : Run},
    room ≤ env.limits.depth → run.narrative.Identified →
    Justified env.templates (env.FaultFrom refuses (env.Visits ⟨room, e, run⟩))
      (env.evaluateHistory room e run)
  | .name word, room, run, _, _ => by
    rw [evaluateHistory]
    exact .nil
  | .text words, room, run, _, _ => by
    rw [evaluateHistory]
    exact .nil
  | .number x, room, run, _, _ => by
    rw [evaluateHistory]
    exact .nil
  | .list items, room, run, hroom, hrun => by
    rw [evaluateHistory]
    exact (evaluateAll_justified h items hroom hrun).widen fun _ => .item
  | .binary .compose left right, room, run, hroom, hrun => by
    rw [evaluateHistory]
    refine .followed ((evaluate_justified h left hroom hrun).widen fun _ => .left) ?_
    intro value between hleft
    have hbetween := ((evaluate_continues left hroom).of_outcome hleft).identified hrun
    exact (evaluate_justified h right hroom hbetween).widen fun _ => .right hleft
  | .binary .dilute left right, room, run, hroom, hrun => by
    rw [evaluateHistory]
    refine .followed ((evaluate_justified h left hroom hrun).widen fun _ => .left) ?_
    intro value between hleft
    have hbetween := ((evaluate_continues left hroom).of_outcome hleft).identified hrun
    refine .followed ((evaluate_justified h right hroom hbetween).widen fun _ => .right hleft) ?_
    exact fun amount later hright => diluteBy_justified hleft hright
  | .call kernel positional keywords, room, run, hroom, hrun => by
    rw [evaluateHistory]
    split
    case isFalse => exact .cons trivial .nil
    case isTrue hopened =>
      have hinside : room - 1 ≤ env.limits.depth := Nat.le_trans (Nat.sub_le room 1) hroom
      refine .cons trivial (.append ?_ (.cons trivial .nil))
      unfold insideHistory
      cases hdeclared : declaredTraits? positional with
      | some traits =>
        refine declare_justified h fun id hlookup => ?_
        exact ⟨_, .here _, .redeclared hopened hdeclared hlookup⟩
      | none =>
        refine .followed ((evaluateAll_justified h positional hinside hrun).widen fun _ =>
          .positional hopened hdeclared) ?_
        intro values between hvalues
        have honward := (evaluateAll_continues positional hinside).of_outcome hvalues
        refine .followed ((evaluateKeywords_justified h keywords hinside
          (honward.identified hrun)).widen fun _ => .keyword hopened hdeclared hvalues) ?_
        intro options later hoptions
        -- the characters among the values were known before the keyword arguments were evaluated
        have hknown := ((evaluateKeywords_continues keywords hinside).of_outcome hoptions).knows
          (evaluateAll_knows positional hinside hrun hvalues)
        refine recovering_justified h.answers (fun id hid => hknown id (mem_mentionsOf hid)) ?_
        exact fun message hrefused =>
          ⟨_, .here _, .refused hopened hdeclared hvalues hoptions hrefused⟩

theorem evaluateAll_justified (h : env.Agrees refuses) :
    ∀ (items : List Expr) {room : Nat} {run : Run},
    room ≤ env.limits.depth → run.narrative.Identified →
    Justified env.templates (env.FaultFrom refuses (env.VisitsAll room items run))
      (env.allHistory room items run)
  | [], room, run, _, _ => by
    rw [allHistory]
    exact .nil
  | first :: rest, room, run, hroom, hrun => by
    rw [allHistory]
    refine .followed ((evaluate_justified h first hroom hrun).widen fun _ => .first) ?_
    intro value between hfirst
    have hbetween := ((evaluate_continues first hroom).of_outcome hfirst).identified hrun
    exact (evaluateAll_justified h rest hroom hbetween).widen fun _ => .rest hfirst

theorem evaluateKeywords_justified (h : env.Agrees refuses) :
    ∀ (keywords : List (String × Expr)) {room : Nat} {run : Run},
    room ≤ env.limits.depth → run.narrative.Identified →
    Justified env.templates
      (env.FaultFrom refuses (env.VisitsAll room (keywords.map Prod.snd) run))
      (env.keywordsHistory room keywords run)
  | [], room, run, _, _ => by
    rw [keywordsHistory]
    exact .nil
  | (_, first) :: rest, room, run, hroom, hrun => by
    rw [keywordsHistory]
    refine .followed ((evaluate_justified h first hroom hrun).widen fun _ => .first) ?_
    intro value between hfirst
    have hbetween := ((evaluate_continues first hroom).of_outcome hfirst).identified hrun
    exact (evaluateKeywords_justified h rest hroom hbetween).widen fun _ => .rest hfirst

end

/-- What happens while statements are told is justified by the expressions that are evaluated. -/
theorem tell_justified (h : env.Agrees refuses) (statements : List Expr) {run : Run}
    (hrun : run.narrative.Identified) :
    Justified env.templates (env.FaultFrom refuses (env.VisitsTelling statements run))
      (env.history statements run) := by
  induction statements generalizing run with
  | nil => exact .nil
  | cons statement rest ih =>
    have hstatement := evaluate_justified h statement (Nat.le_refl _) hrun
    refine .followed (hstatement.widen fun _ => .first) fun value between hvalue => .append ?_ ?_
    · intro event hevent
      obtain ⟨fragment, -, rfl⟩ := List.mem_map.1 hevent
      trivial
    · have hbetween := ((evaluate_continues statement (Nat.le_refl _)).of_outcome hvalue).trans
        (emitAll_continues value.generated between)
      exact (ih (hbetween.identified hrun)).widen fun _ => .rest hvalue

end Environment

end Storyweave.Evaluation
