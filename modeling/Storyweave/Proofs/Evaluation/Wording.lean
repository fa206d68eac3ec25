import Storyweave.Engine
import Storyweave.Proofs.Evaluation.History
import Storyweave.Proofs.Language.RoundTrip
import Storyweave.Proofs.Starter.Wording

/-!
# The wording of a story

The same source told with two seeds, by kernels that go by no words. Both tellings go the same way
to the end: they are the same but for the words they use and the things that the story is about.
Results:
1. `perform_alike`, `dispatch_alike`: actions that are alike, and so dispatches, lead states that
   are alike to states that are alike.
2. `evaluate_alike`, `tell_alike`: so do expressions and statements whose words are names.
3. `seed_chooses_wording`: the seed of a story chooses nothing but its wording, where the starter
   kernels tell it with the starter templates.
-/

namespace Storyweave

open Storyweave.Story Storyweave.Kernel Storyweave.Language

/-- A name says something. -/
theorem worded_of_isName {word : String} (h : IsName word) : Worded word := by
  obtain ⟨c, cs, hword, hstart, -⟩ := h
  have hcontent : isContent c = true := by
    rcases Bool.or_eq_true_iff.1 hstart with halpha | hline
    · refine isContent_iff.2 (plain_of_isAlphanumeric ?_)
      rw [Text.isAlphanumeric, halpha, Bool.true_or]
    · rw [beq_iff_eq.1 hline]
      decide
  rw [Worded, hword, content, List.filter_cons_of_pos hcontent]
  exact List.cons_ne_nil _ _

namespace Evaluation

/-! ## Two states -/

/-- Two states of which the stories are alike and all else but chance is the same. -/
structure Run.Alike (run other : Run) : Prop where
  narrative : run.narrative.Alike other.narrative
  refusedLevels : run.refusedLevels = other.refusedLevels
  calls : run.calls = other.calls
  exceeded : run.exceeded = other.exceeded

/-- Two ends, each with the state behind it, that are alike. -/
structure OutcomeAlike {ε α β : Type} (R : α → β → Prop) (outcome : Except ε α × Run)
    (other : Except ε β × Run) : Prop where
  ends : EndsAlike R outcome.1 other.1
  runs : outcome.2.Alike other.2

namespace Run.Alike

variable {run other : Run}

theorem diagnose (h : run.Alike other) (kind : DiagnosticKind) (subject : Option String)
    (message : String) : (run.diagnose kind subject message).Alike
      (other.diagnose kind subject message) :=
  { h with narrative := h.narrative.diagnose kind subject message }

theorem emit (h : run.Alike other) {f g : Fragment} (hfg : f.Alike g) :
    (run.emit f).Alike (other.emit g) :=
  { h with narrative := h.narrative.emit hfg }

theorem emitAll (h : run.Alike other) {fs gs : List Fragment} (hfs : AlikeFragments fs gs) :
    (fs.foldl Run.emit run).Alike (gs.foldl Run.emit other) :=
  List.rel_foldl (fun _ _ h _ _ hfg => h.emit hfg) h hfs

/-- The same bound is reported, in whatever form. -/
theorem exceed {ε α β : Type} {R : α → β → Prop} (h : run.Alike other) (report : LimitError → ε)
    (error : LimitError) :
    OutcomeAlike R (.error (report (run.exceed error).1), (run.exceed error).2)
      (.error (report (other.exceed error).1), (other.exceed error).2) := by
  have hdiagnosed := h.diagnose .recursionLimitExceeded none error.message
  simp only [Run.exceed, ← hdiagnosed.exceeded]
  cases (run.diagnose .recursionLimitExceeded none error.message).exceeded with
  | some first => exact ⟨.error _, hdiagnosed⟩
  | none => exact ⟨.error _, { hdiagnosed with exceeded := rfl }⟩

/-- The two differ in their stories only. -/
theorem exists_narrative (h : run.Alike other) :
    ∃ m, run.narrative.Alike m ∧ other = { run with narrative := m } := by
  obtain ⟨n, levels, calls, exceeded⟩ := run
  obtain ⟨m, levels', calls', exceeded'⟩ := other
  obtain ⟨hnarrative, rfl, rfl, rfl⟩ := h
  exact ⟨m, hnarrative, rfl⟩

theorem cast_eq (h : run.Alike other) : run.cast = other.cast := h.narrative.characters

theorem lookup_eq (h : run.Alike other) (name : String) :
    run.narrative.lookup name = other.narrative.lookup name := by
  rw [Narrative.lookup, Narrative.lookup, h.narrative.byName]

theorem resolve_eq (h : run.Alike other) (word : String) :
    run.narrative.resolve word = other.narrative.resolve word := by
  rw [Narrative.resolve, Narrative.resolve, h.lookup_eq]

end Run.Alike

namespace Environment

variable {env : Environment} {run run' : Run}

theorem refuseLevel_alike {ε α β : Type} {R : α → β → Prop} (h : run.Alike run')
    (report : LimitError → ε) :
    OutcomeAlike R (.error (report (env.refuseLevel run).1), (env.refuseLevel run).2)
      (.error (report (env.refuseLevel run').1), (env.refuseLevel run').2) := by
  have hrefused : { run with refusedLevels := run.refusedLevels + 1 }.Alike
      { run' with refusedLevels := run'.refusedLevels + 1 } :=
    { h with refusedLevels := congrArg (· + 1) h.refusedLevels }
  exact hrefused.exceed report _

/-- Both kernels see the same but for the thing that the story is about. -/
theorem scene_alike (room : Nat) (h : run.Alike run') :
    env.scene room run' = { env.scene room run with object := run'.narrative.object } := by
  simp only [scene, depth, h.narrative.characters, h.narrative.focus, h.refusedLevels]
  rfl

theorem named_scene (room : Nat) (h : run.Alike run') : (env.scene room run).Named :=
  List.forall_mem_map.1 h.narrative.named

theorem fillTemplate_worded {category : String} {slots : Template.Slots}
    (h : env.templates.Speaks category slots) (run : Run) :
    ∃ text, (env.fillTemplate category slots run).1 = .ok text ∧ Worded text :=
  h _

theorem fillTemplate_alike (category : String) (slots slots' : Template.Slots)
    (h : run.Alike run') : (env.fillTemplate category slots run).2.Alike
      (env.fillTemplate category slots' run').2 := by
  unfold fillTemplate
  split
  case isTrue => exact { h with narrative := h.narrative.withChance _ _ }
  case isFalse =>
    have hdiagnosed := h.diagnose .missingTemplateCategory (some category)
      ("no templates registered for '" ++ category ++ "'")
    exact { hdiagnosed with narrative := hdiagnosed.narrative.withChance _ _ }

/-! ## Dispatches -/

/-- Nested calls with arguments that are alike are answered alike. -/
def AnswerAlike (answer : Answer) : Prop :=
  ∀ kernel args args' run run', args.Alike args' → run.Alike run' →
    OutcomeAlike Fragment.Alike (answer kernel args run) (answer kernel args' run')

/-- Two actions that were carried out with results that are related and effects that are alike. -/
structure PerformedAlike {α β : Type} (R : α → β → Prop) (performed : (α × List Effect) × Run)
    (other : (β × List Effect) × Run) : Prop where
  result : R performed.1.1 other.1.1
  effects : List.Forall₂ Effect.Alike performed.1.2 other.1.2
  runs : performed.2.Alike other.2

section

variable {room : Nat} {answer : Answer}

theorem perform_alike {α β : Type} {R : α → β → Prop} {action : Action α} {other : Action β}
    (hanswer : AnswerAlike answer) (h : action.Alike env.templates R other)
    (hrun : run.Alike run') :
    PerformedAlike R (env.perform room answer action run) (env.perform room answer other run') := by
  induction h generalizing run run' with
  | done hab => exact ⟨hab, .nil, hrun⟩
  | look _ ih =>
    simp only [perform, scene_alike room hrun]
    exact ih _ _ (named_scene room hrun) hrun
  | draw _ ih => exact ih _ _ { hrun with narrative := hrun.narrative.withChance _ _ }
  | @template category slots slots' _ _ hslots hslots' _ ih =>
    obtain ⟨text, htext, hworded⟩ := fillTemplate_worded hslots run
    obtain ⟨other, hother, hworded'⟩ := fillTemplate_worded hslots' run'
    simp only [perform, htext, hother]
    exact ih text other hworded hworded' (fillTemplate_alike category slots slots' hrun)
  | request heffect _ ih =>
    obtain ⟨hresult, heffects, hruns⟩ := ih hrun
    exact ⟨hresult, .cons heffect heffects, hruns⟩
  | call hargs _ ih =>
    obtain ⟨hends, hruns⟩ := hanswer _ _ _ _ _ hargs hrun
    exact ih _ _ hends hruns

theorem conclude_alike (kernel : String) {result result' : Except Refusal Fragment}
    {effects effects' : List Effect} (hresult : EndsAlike Fragment.Alike result result')
    (heffects : List.Forall₂ Effect.Alike effects effects') (hrun : run.Alike run') :
    OutcomeAlike Fragment.Alike (conclude kernel result effects run)
      (conclude kernel result' effects' run') := by
  obtain ⟨m, hnarrative, rfl⟩ := hrun.exists_narrative
  obtain ⟨n, levels, calls, exceeded⟩ := run
  cases exceeded with
  | some error => exact ⟨.error _, hrun⟩
  | none =>
    cases hresult with
    | error refusal => exact ⟨.error _, hrun⟩
    | ok hfg =>
      refine ⟨.ok ?_, hnarrative.applyAll heffects, rfl, rfl, rfl⟩
      unfold named
      rw [hfg.kernel]
      split
      case isTrue => exact ⟨hfg.text, hfg.weight, rfl⟩
      case isFalse => exact hfg

theorem dispatchWith_alike (henv : env.registry.HandlersAlike env.templates)
    (hanswer : AnswerAlike answer) : AnswerAlike (env.dispatchWith room answer) := by
  intro kernel args args' run run' hargs hrun
  obtain ⟨m, hnarrative, rfl⟩ := hrun.exists_narrative
  have hcounted : { run with calls := run.calls + 1 }.Alike
      { run with narrative := m, calls := run.calls + 1 } := ⟨hnarrative, rfl, rfl, rfl⟩
  unfold dispatchWith
  dsimp only
  split
  case isTrue => exact hcounted.exceed CallError.limit _
  case isFalse =>
    cases hfind : env.registry.find? kernel with
    | none =>
      refine ⟨.ok ?_, hcounted.diagnose _ _ _⟩
      rw [← hcounted.cast_eq]
      exact fallback_alike _ kernel hargs
    | some handler =>
      have haction := henv kernel handler hfind kernel args args' hargs
      obtain ⟨hresult, heffects, hruns⟩ : PerformedAlike _ (env.perform room answer _ _) _ :=
        perform_alike hanswer haction hcounted
      exact conclude_alike kernel hresult heffects hruns

theorem openLevel_alike (hanswer : AnswerAlike answer) :
    AnswerAlike (env.openLevel room answer) := by
  intro kernel args args' run run' hargs hrun
  simp only [openLevel, ← hrun.refusedLevels]
  split
  case isTrue => exact hanswer kernel args args' run run' hargs hrun
  case isFalse => exact refuseLevel_alike hrun CallError.limit

end

theorem below_alike (henv : env.registry.HandlersAlike env.templates) (room : Nat) :
    AnswerAlike (env.below room) := by
  induction room with
  | zero => exact fun _ _ _ _ _ _ hrun => refuseLevel_alike hrun CallError.limit
  | succ room ih =>
    rw [below, dispatch_eq]
    exact openLevel_alike (dispatchWith_alike henv ih)

/-- Dispatches with arguments that are alike end alike. -/
theorem dispatch_alike (henv : env.registry.HandlersAlike env.templates) (room : Nat) :
    AnswerAlike (env.dispatch room) := by
  rw [dispatch_eq]
  exact dispatchWith_alike henv (below_alike henv room)

end Environment

/-! ## Steps -/

/-- From two states that are alike, two steps end alike. -/
def StepAlike {α β : Type} (R : α → β → Prop) (step : Step α) (other : Step β) : Prop :=
  ∀ run run' : Run, run.Alike run' → OutcomeAlike R (step.outcome run) (other.outcome run')

namespace StepAlike

variable {α β α' β' : Type} {R : α → β → Prop} {S : α' → β' → Prop}

theorem pure {a : α} {b : β} (h : R a b) : StepAlike R (Pure.pure a) (Pure.pure b) :=
  fun _ _ hrun => ⟨.ok h, hrun⟩

theorem bind {step : Step α} {other : Step β} {f : α → Step α'} {g : β → Step β'}
    (h : StepAlike R step other) (hfg : ∀ a b, R a b → StepAlike S (f a) (g b)) :
    StepAlike S (step >>= f) (other >>= g) := by
  intro run run' hrun
  obtain ⟨hends, hruns⟩ := h run run' hrun
  rw [Step.outcome_bind, Step.outcome_bind]
  generalize step.outcome run = outcome, other.outcome run' = outcome' at hends hruns
  obtain ⟨result, later⟩ := outcome
  obtain ⟨result', later'⟩ := outcome'
  cases hends with
  | error error => exact ⟨.error error, hruns⟩
  | ok hab => exact hfg _ _ hab later later' hruns

theorem get_bind {f : Run → Step α'} {g : Run → Step β'}
    (h : ∀ run run' : Run, run.Alike run' → StepAlike S (f run) (g run')) :
    StepAlike S (get >>= f) (get >>= g) :=
  fun run run' hrun => h run run' hrun run run' hrun

theorem of_modify {change change' : Run → Run}
    (h : ∀ run run' : Run, run.Alike run' → (change run).Alike (change' run')) :
    StepAlike Eq (modify change) (modify change') :=
  fun run run' hrun => ⟨.ok rfl, h run run' hrun⟩

end StepAlike

namespace Environment

variable {env : Environment}

/-! ## Expressions and statements -/

theorem dilute_alike (cast : List Character) {value other : Value} (h : value.Alike other)
    (d : Float) : (dilute cast value d).Alike (dilute cast other d) := by
  have hparts := (Value.toParts_alike cast h).diluted d
  unfold dilute
  generalize (value.toParts cast).map (·.diluted d) = fs,
    (other.toParts cast).map (·.diluted d) = gs at hparts
  have hmany : (Value.composition (.join fs [])).Alike (.composition (.join gs [])) :=
    .composition (Composition.alike_join hparts .nil)
  rcases hparts with _ | ⟨hfirst, _ | ⟨_, _⟩⟩
  · exact hmany
  · exact .fragment hfirst
  · exact hmany

theorem divisor_eq {amount other : Value} (h : amount.Alike other) :
    divisor amount = divisor other := by
  rw [divisor, divisor, h.asNumber_eq, h.kind_eq]

theorem diluteBy_alike (head : Option String) {value other amount amount' : Value}
    (hvalue : value.Alike other) (hamount : amount.Alike amount') :
    StepAlike Value.Alike (diluteBy head value amount) (diluteBy head other amount') := by
  unfold diluteBy
  rw [divisor_eq hamount]
  cases divisor amount' with
  | ok d =>
    refine .get_bind fun run run' hrun => .pure ?_
    rw [← hrun.cast_eq]
    exact dilute_alike _ hvalue d
  | error message =>
    refine .bind (.of_modify fun run run' hrun => hrun.diagnose _ _ _) fun _ _ _ =>
      .get_bind fun run run' hrun => .pure (.fragment ?_)
    rw [← hrun.cast_eq]
    exact .refl _

theorem call_alike {room : Nat} {kernel : String} {positional : List Expr}
    {keywords : List (String × Expr)}
    (h : StepAlike Value.Alike (env.callInside (room - 1) kernel positional keywords)
      (env.callInside (room - 1) kernel positional keywords)) :
    StepAlike Value.Alike (env.evaluate room (.call kernel positional keywords))
      (env.evaluate room (.call kernel positional keywords)) := by
  intro run run' hrun
  rw [outcome_call, outcome_call, ← hrun.refusedLevels]
  split
  case isTrue => exact h run run' hrun
  case isFalse => exact refuseLevel_alike hrun id

section

variable (henv : env.registry.HandlersAlike env.templates)
include henv

theorem dispatchRecovering_alike (room : Nat) (kernel : String) {args args' : Args}
    (hargs : args.Alike args') :
    StepAlike Fragment.Alike (env.dispatchRecovering room kernel args)
      (env.dispatchRecovering room kernel args') := by
  intro run run' hrun
  obtain ⟨hends, hruns⟩ := dispatch_alike henv room kernel args args' run run' hargs hrun
  rw [outcome_dispatchRecovering, outcome_dispatchRecovering]
  generalize env.dispatch room kernel args run = outcome,
    env.dispatch room kernel args' run' = outcome' at hends hruns
  obtain ⟨result, later⟩ := outcome
  obtain ⟨result', later'⟩ := outcome'
  cases hends with
  | ok hfg => exact ⟨.ok hfg, hruns⟩
  | error error =>
    cases error with
    | limit error => exact ⟨.error error, hruns⟩
    | refused refusal =>
      refine ⟨.ok ?_, hruns.diagnose _ _ _⟩
      rw [← hruns.cast_eq]
      exact fallback_alike _ kernel hargs

theorem introduce_alike (room : Nat)
    (id : CharacterId) :
    StepAlike Value.Alike (env.introduce room id) (env.introduce room id) := by
  unfold introduce
  split
  case isTrue =>
    exact .bind (dispatchRecovering_alike henv room characterMarker (.refl _)) fun _ _ hfg =>
      .bind (.of_modify fun _ _ hrun => hrun.emit hfg) fun _ _ _ => .pure (.same _)
  case isFalse => exact .pure (.same _)

theorem declare_alike (room : Nat)
    {name : String} (hname : Worded name) (traits : List String) :
    StepAlike Value.Alike (env.declare room name traits) (env.declare room name traits) := by
  intro run run' hrun
  have hintroduced := hrun.narrative.introduced hname traits
  simp only [Narrative.introduced, ← hrun.narrative.characters] at hintroduced
  rw [outcome_declare, outcome_declare]
  cases hlookup : run.narrative.lookup name with
  | some id =>
    rw [Narrative.declare_eq_none hlookup, Narrative.declare_eq_none (hrun.lookup_eq name ▸ hlookup),
      ← hrun.resolve_eq]
    exact ⟨.ok (.same _), hrun.diagnose _ _ _⟩
  | none =>
    rw [Narrative.declare_eq_some hlookup, Narrative.declare_eq_some (hrun.lookup_eq name ▸ hlookup),
      ← hrun.narrative.characters]
    exact introduce_alike henv room _ _ _ { hrun with narrative := hintroduced }

theorem callInside_alike (room : Nat)
    {kernel : String} (hkernel : Worded kernel) {positional : List Expr}
    {keywords : List (String × Expr)}
    (hpositional : StepAlike AlikeValues (env.evaluateAll room positional)
      (env.evaluateAll room positional))
    (hkeywords : StepAlike AlikeKeywords
      (env.evaluateKeywords room keywords) (env.evaluateKeywords room keywords)) :
    StepAlike Value.Alike (env.callInside room kernel positional keywords)
      (env.callInside room kernel positional keywords) := by
  unfold callInside
  cases declaredTraits? positional with
  | some traits => exact declare_alike henv room hkernel traits
  | none =>
    exact .bind hpositional fun _ _ hvalues => .bind hkeywords fun _ _ hkeys =>
      .bind (dispatchRecovering_alike henv room kernel ⟨hvalues, hkeys⟩) fun _ _ hfg =>
        .pure (.fragment hfg)

end

mutual

/-- From states that are alike, an expression whose words are names evaluates alike. -/
theorem evaluate_alike (henv : env.registry.HandlersAlike env.templates) (room : Nat) :
    ∀ e : Expr, WordsValid e.atoms →
      StepAlike Value.Alike (env.evaluate room e) (env.evaluate room e)
  | .name word, _ => by
    simp only [evaluate]
    refine .get_bind fun run run' hrun => .pure ?_
    rw [hrun.resolve_eq]
    exact .same _
  | .text words, _ => .pure (.same _)
  | .number x, _ => .pure (.same _)
  | .list items, hwords =>
    .bind (evaluateAll_alike henv room items hwords) fun _ _ hitems => .pure (.list hitems)
  | .binary .compose left right, hwords =>
    .bind (evaluate_alike henv room left hwords.left) fun _ _ hleft =>
      .bind (evaluate_alike henv room right hwords.right) fun _ _ hright =>
        .get_bind fun run run' hrun => .pure (by
          rw [← hrun.cast_eq]
          exact .composition (Composition.alike_join (Value.toParts_alike _ hleft)
            (Value.toParts_alike _ hright)))
  | .binary .dilute left right, hwords =>
    .bind (evaluate_alike henv room left hwords.left) fun _ _ hvalue =>
      .bind (evaluate_alike henv room right hwords.right) fun _ _ hamount =>
        diluteBy_alike _ hvalue hamount
  | .call kernel positional keywords, hwords =>
    call_alike (callInside_alike henv (room - 1) (worded_of_isName (hwords kernel (.head _)))
      (evaluateAll_alike henv (room - 1) positional hwords.tail.left)
      (evaluateKeywords_alike henv (room - 1) keywords hwords.tail.right))

theorem evaluateAll_alike (henv : env.registry.HandlersAlike env.templates) (room : Nat) :
    ∀ items : List Expr, WordsValid (Expr.atomsAll items) →
      StepAlike AlikeValues (env.evaluateAll room items) (env.evaluateAll room items)
  | [], _ => .pure .nil
  | first :: rest, hwords =>
    .bind (evaluate_alike henv room first hwords.left) fun _ _ hfirst =>
      .bind (evaluateAll_alike henv room rest hwords.right) fun _ _ hrest =>
        .pure (.cons hfirst hrest)

theorem evaluateKeywords_alike (henv : env.registry.HandlersAlike env.templates) (room : Nat) :
    ∀ keywords : List (String × Expr), WordsValid (Expr.atomsKeywords keywords) →
      StepAlike AlikeKeywords
        (env.evaluateKeywords room keywords) (env.evaluateKeywords room keywords)
  | [], _ => .pure .nil
  | (_, first) :: rest, hwords =>
    .bind (evaluate_alike henv room first hwords.tail.left) fun _ _ hfirst =>
      .bind (evaluateKeywords_alike henv room rest hwords.tail.right) fun _ _ hrest =>
        .pure (.cons ⟨rfl, hfirst⟩ hrest)

end

/-- From states that are alike, statements whose words are names are told alike. -/
theorem tell_alike (henv : env.registry.HandlersAlike env.templates) (statements : List Expr)
    (hwords : WordsValid (Expr.atomsAll statements)) :
    StepAlike Eq (env.tell statements) (env.tell statements) := by
  induction statements with
  | nil => exact .pure rfl
  | cons statement rest ih =>
    refine .bind (evaluate_alike henv env.limits.depth statement hwords.left) fun _ _ hvalue => ?_
    refine .bind (.of_modify fun _ _ hrun => hrun.emitAll (Value.generated_alike hvalue))
      fun _ _ _ => ?_
    exact ih hwords.right

end Environment

end Evaluation

/-! ## Two tellings -/

/-- Two stories that are the same but for what their texts say and for the things that they were
about. -/
structure Tale.Alike (tale other : Tale) : Prop where
  fragments : AlikeFragments tale.fragments other.fragments
  diagnostics : tale.diagnostics = other.diagnostics
  characters : tale.characters = other.characters
  effects : List.Forall₂ Effect.Alike tale.effects other.effects

/-- Two tellings that end in the same way: with stories that are alike, or with the same error,
then with what was told until then. -/
inductive ToldAlike : Except TaleError Tale → Except TaleError Tale → Prop where
  | told {tale other : Tale} : tale.Alike other → ToldAlike (.ok tale) (.ok other)
  | malformed (error : SyntaxError) :
    ToldAlike (.error (.malformed error)) (.error (.malformed error))
  | limit {fragments fragments' : List Fragment} {diagnostics diagnostics' : List Diagnostic}
    (error : LimitError) : AlikeFragments fragments fragments' → diagnostics = diagnostics' →
    ToldAlike (.error (.limit error fragments diagnostics))
      (.error (.limit error fragments' diagnostics'))

/-! ## Stories and their seeds -/

open Storyweave.Evaluation

namespace Engine

theorem tellStatements_alike {e : Engine} (henv : e.registry.HandlersAlike e.templates)
    {statements : List Expr} (hwords : WordsValid (Expr.atomsAll statements))
    (seed other : UInt64) :
    ToldAlike (e.tellStatements statements seed) (e.tellStatements statements other) := by
  have hstart : (Run.start (.start seed e.config.clamp)).Alike
      (Run.start (.start other e.config.clamp)) :=
    ⟨Narrative.alike_start seed other _, rfl, rfl, rfl⟩
  obtain ⟨hends, hruns⟩ : OutcomeAlike Eq _ _ :=
    e.environment.tell_alike henv statements hwords _ _ hstart
  unfold tellStatements
  unfold Step.outcome at hends hruns
  dsimp only
  generalize (e.environment.tell statements).run.run (Run.start (.start seed e.config.clamp)) =
      outcome, (e.environment.tell statements).run.run (Run.start (.start other e.config.clamp)) =
      outcome' at hends hruns
  obtain ⟨result, run⟩ := outcome
  obtain ⟨result', run'⟩ := outcome'
  cases hends with
  | error error => exact .limit error hruns.narrative.fragments hruns.narrative.diagnostics
  | ok _ =>
    exact .told ⟨hruns.narrative.fragments, hruns.narrative.diagnostics, hruns.narrative.characters,
      hruns.narrative.effects⟩

theorem generateWith_alike {e : Engine} (henv : e.registry.HandlersAlike e.templates)
    (source : String) (seed other : UInt64) :
    ToldAlike (e.generateWith source seed) (e.generateWith source other) := by
  unfold generateWith
  cases hparse : parse source with
  | error error => exact .malformed error
  | ok statements =>
    exact tellStatements_alike henv (contents_of_parse hparse).1 seed other

/-- An engine of the starter kernels and templates with settings that are of use. -/
theorem build_starter (config : Config) (own : UInt64) :
    build [Starter.registry] [Starter.templates] (some config) own =
      config.check.map fun _ => ⟨Starter.registry, Starter.templates, config, own⟩ := by
  have htemplates : Template.Table.empty.merge Starter.templates = Starter.templates :=
    congrArg Template.Table.mk (Catalogue.empty_merge _)
  simp only [build, List.foldl_cons, List.foldl_nil, Catalogue.empty_merge, htemplates,
    Option.getD_some]
  cases config.check <;> rfl

/-- The seed of a story chooses nothing but its wording, where the starter kernels tell it with the
starter templates, whatever the settings: two tellings of a source end in the same way, with
fragments of the same weights from the same kernels, with the same diagnostics and characters, and
with effects that are the same but for the names of things. -/
theorem seed_chooses_wording (config : Config) :
    let engine (own : UInt64) : Engine := ⟨Starter.registry, Starter.templates, config, own⟩
    (∀ own, build [Starter.registry] [Starter.templates] (some config) own =
      config.check.map fun _ => engine own) ∧
    ∀ source own own' seed other,
      ToldAlike ((engine own).generateWith source seed) ((engine own').generateWith source other) :=
  ⟨build_starter config, fun source own _ seed other =>
    generateWith_alike (e := ⟨Starter.registry, Starter.templates, config, own⟩)
      Starter.handlersAlike_registry source seed other⟩

end Engine

end Storyweave
