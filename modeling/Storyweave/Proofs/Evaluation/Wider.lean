import Storyweave.Proofs.Evaluation.Crossing

/-!
# Wider limits

The same statements told within two limits, of which one is at least as wide as the other. Both
tellings go the same way until the narrow one crosses a bound; from then on its story stays as it
is, and the wide one goes on. Results:
1. `dispatch_follows`, `evaluate_paced`: this holds of dispatches, whatever handlers do with the
   failures of their nested calls, and of expressions.
2. `tell_of_wider`: it holds of statements.
-/

namespace Storyweave.Evaluation

open Storyweave.Story Storyweave.Kernel Storyweave.Language

/-! ## Two evaluations -/

/-- Limits that are at least as wide as others. -/
structure Wider (wide narrow : Limits) : Prop where
  depth : narrow.depth ≤ wide.depth
  calls : narrow.calls ≤ wide.calls

/-- What is common to all that happens between two states. -/
structure Run.Leads (run later : Run) : Prop where
  grows : run.narrative.Grows later.narrative
  /-- A crossed bound stays crossed, and the story stays as it is. -/
  halts : run.exceeded ≠ none →
    later.exceeded ≠ none ∧ run.narrative.SameStory later.narrative
  refusedLevels : later.exceeded = none → later.refusedLevels = run.refusedLevels

theorem Run.Leads.refl (run : Run) : run.Leads run := ⟨.refl _, fun h => ⟨h, .refl _⟩, fun _ => rfl⟩

theorem Run.Leads.trans {run later last : Run} (h : run.Leads later) (h' : later.Leads last) :
    run.Leads last where
  grows := h.grows.trans h'.grows
  halts hcrossed :=
    have hlater := h.halts hcrossed
    have hlast := h'.halts hlater.1
    ⟨hlast.1, hlater.2.trans hlast.2⟩
  refusedLevels hnone := by
    have hlater : later.exceeded = none :=
      Decidable.not_not.1 fun hcrossed => (h'.halts hcrossed).1 hnone
    rw [h'.refusedLevels hnone, h.refusedLevels hlater]

theorem Environment.Course.leads {env : Environment} {m m' : Moment} {history : History}
    (h : env.Course m history m') : m.run.Leads m'.run where
  grows := h.grows
  halts hcrossed := by
    refine ⟨?_, h.sameStory hcrossed⟩
    obtain ⟨first, hfirst⟩ := Option.ne_none_iff_exists'.1 hcrossed
    rw [h.exceeded_eq, hfirst, Option.some_or]
    exact Option.some_ne_none first
  refusedLevels := h.refusedLevels_eq

theorem Run.Leads.clear {run later : Run} (h : run.Leads later) (hrun : run.Clear)
    (hexceeded : later.exceeded = none) : later.Clear :=
  ⟨hexceeded, (h.refusedLevels hexceeded).trans hrun.refusedLevels⟩

/-- The wide one of two results follows the narrow one: it is the same unless the narrow one came
from crossing a bound, and in any case its story goes on from the other. -/
structure Follows {β : Type} (narrow wide : β × Run) : Prop where
  same : narrow.2.exceeded = none → wide = narrow
  grows : narrow.2.narrative.Grows wide.2.narrative

namespace Follows

variable {β γ : Type} {narrow wide : β × Run} {narrow' wide' : γ × Run}

theorem refl (result : β × Run) : Follows result result := ⟨fun _ => rfl, .refl _⟩

/-- Where the narrow one crosses a bound at once, the wide one may do anything. -/
theorem of_crossed {run : Run} (hcrossed : narrow.2.exceeded ≠ none)
    (hstory : run.narrative.SameStory narrow.2.narrative) (hwide : run.Leads wide.2) :
    Follows narrow wide :=
  ⟨fun h => absurd h hcrossed, hstory.symm.grows.trans hwide.grows⟩

/-- What comes behind two results follows if it does so where they are the same. -/
theorem followed (h : Follows narrow wide) (hnarrow : narrow.2.Leads narrow'.2)
    (hwide : wide.2.Leads wide'.2)
    (hsame : narrow.2.exceeded = none → wide = narrow → Follows narrow' wide') :
    Follows narrow' wide' := by
  cases hcrossed : narrow.2.exceeded with
  | none => exact hsame hcrossed (h.same hcrossed)
  | some first =>
    -- behind a crossing the narrow story stands still, and the wide one can only grow
    have hhalts := hnarrow.halts (by rw [hcrossed]; exact Option.some_ne_none first)
    exact ⟨fun hnone => absurd hnone hhalts.1,
      (hhalts.2.symm.grows.trans h.grows).trans hwide.grows⟩

theorem map (h : Follows narrow wide) (change : β → γ) :
    Follows (change narrow.1, narrow.2) (change wide.1, wide.2) :=
  ⟨fun hnone => by rw [h.same hnone], h.grows⟩

end Follows

namespace Environment

variable {env : Environment} {limits : Limits}

/-! ## Dispatches -/

/-- Nested calls that are answered by `wide` follow those that are answered by `narrow`. -/
def AnswerFollows (narrow wide : Answer) : Prop :=
  ∀ kernel args run, run.Clear → Follows (narrow kernel args run) (wide kernel args run)

section

variable {levels room room' : Nat} {narrow wide : Answer}
  {during during' : String → Args → Run → History}

theorem AnswerTraced.leads (h : env.AnswerTraced levels narrow during) (kernel : String)
    (args : Args) (run : Run) : run.Leads (narrow kernel args run).2 :=
  (h kernel args run []).leads

theorem perform_leads {α : Type} (h : env.AnswerTraced levels narrow during) (action : Action α)
    (run : Run) : run.Leads (env.perform room narrow action run).2 :=
  (perform_course h action run [] []).leads

/-- Where as many levels are open, the same is seen. -/
theorem scene_eq (hroom : levels + room = env.limits.depth) (hroom' : levels + room' = limits.depth)
    (run : Run) : { env with limits }.scene room' run = env.scene room run := by
  have hdepth : env.limits.depth - room = levels := by omega
  have hdepth' : limits.depth - room' = levels := by omega
  simp only [scene, depth, hdepth, hdepth']

theorem perform_follows {α : Type} (h : AnswerFollows narrow wide)
    (hnarrow : env.AnswerTraced levels narrow during)
    (hwide : { env with limits }.AnswerTraced levels wide during')
    (hroom : levels + room = env.limits.depth) (hroom' : levels + room' = limits.depth)
    (action : Action α) {run : Run} (hrun : run.Clear) :
    Follows (env.perform room narrow action run)
      ({ env with limits }.perform room' wide action run) := by
  induction action generalizing run with
  | done result => exact .refl _
  | look next ih =>
    simp only [perform, scene_eq hroom hroom']
    exact ih _ hrun
  | draw next ih => exact ih _ ⟨hrun.exceeded, hrun.refusedLevels⟩
  | template category slots next ih =>
    refine ih _ ⟨?_, ?_⟩
    · exact (exceeded_fillTemplate category slots run).trans hrun.exceeded
    · exact (refusedLevels_fillTemplate category slots run).trans hrun.refusedLevels
  | request effect next ih =>
    exact (ih hrun).map fun performed => (performed.1, effect :: performed.2)
  | call kernel args next ih =>
    -- if the nested call crossed a bound, the handler may go on as it likes: it is `followed` that
    -- covers what it does then
    have hcall := h kernel args run hrun
    have hleads := hnarrow.leads kernel args run
    refine hcall.followed (perform_leads hnarrow _ _) (perform_leads hwide _ _) ?_
    intro hexceeded heq
    rw [perform, perform, heq]
    exact ih _ (hleads.clear hrun hexceeded)

theorem conclude_leads (kernel : String) (result : Except Refusal Fragment)
    (effects : List Effect) (run : Run) :
    run.Leads (conclude kernel result effects run).2 := by
  obtain ⟨narrative, refusedLevels, calls, exceeded⟩ := run
  cases exceeded with
  | some first => exact .refl _
  | none =>
    cases result with
    | error refusal => exact .refl _
    | ok fragment =>
      exact ⟨Narrative.grows_foldl_apply _ _, fun h => absurd rfl h, fun _ => rfl⟩

theorem conclude_follows (kernel : String)
    {narrow wide : (Except Refusal Fragment × List Effect) × Run} (h : Follows narrow wide) :
    Follows (conclude kernel narrow.1.1 narrow.1.2 narrow.2)
      (conclude kernel wide.1.1 wide.1.2 wide.2) := by
  refine h.followed (conclude_leads _ _ _ _) (conclude_leads _ _ _ _) ?_
  intro _ heq
  rw [heq]
  exact .refl _

theorem dispatchWith_follows (h : AnswerFollows narrow wide)
    (hcalls : env.limits.calls ≤ limits.calls)
    (hnarrow : env.AnswerTraced levels narrow during)
    (hwide : { env with limits }.AnswerTraced levels wide during')
    (hroom : levels + room = env.limits.depth) (hroom' : levels + room' = limits.depth) :
    AnswerFollows (env.dispatchWith room narrow) ({ env with limits }.dispatchWith room' wide) := by
  intro kernel args run hrun
  have hleads : run.Leads ({ env with limits }.dispatchWith room' wide kernel args run).2 :=
    (dispatchWith_course hwide).leads kernel args run
  by_cases hcrossed : env.limits.calls < run.calls + 1
  · have hcross := dispatchWith_of_full room narrow kernel args hcrossed
    refine .of_crossed ?_ ?_ hleads
    · rw [hcross, run.exceeded_cross, hrun.exceeded]
      exact Option.some_ne_none _
    · rw [hcross]
      exact run.sameStory_cross _
  have hcounted : ¬ limits.calls < run.calls + 1 := by omega
  simp only [dispatchWith, hcrossed, hcounted, if_false]
  cases env.registry.find? kernel with
  | none => exact .refl _
  | some handler =>
    have hcounting : { run with calls := run.calls + 1 }.Clear :=
      ⟨hrun.exceeded, hrun.refusedLevels⟩
    exact conclude_follows kernel (perform_follows h hnarrow hwide hroom hroom' _ hcounting)

end

/-- Nested calls within wider limits follow those within narrower ones. -/
theorem below_follows (h : Wider limits env.limits) {levels room room' : Nat}
    (hroom : levels + room = env.limits.depth) (hroom' : levels + room' = limits.depth) :
    AnswerFollows (env.below room) ({ env with limits }.below room') := by
  induction room generalizing levels room' with
  | zero =>
    intro kernel args run hrun
    refine .of_crossed ?_ ?_ ((below_course hroom').leads kernel args run)
    · rw [below, refuseLevel_exceeded]
      exact Option.some_ne_none _
    · exact run.sameStory_cross (.depth env.limits.depth)
  | succ room ih =>
    have hdepth := h.depth
    obtain ⟨room', rfl⟩ : ∃ k, room' = k + 1 := ⟨room' - 1, by omega⟩
    intro kernel args run hrun
    have hopen : run.refusedLevels < room + 1 := by rw [hrun.refusedLevels]; omega
    have hopen' : run.refusedLevels < room' + 1 := by rw [hrun.refusedLevels]; omega
    have hbelow : levels + 1 + room = env.limits.depth := by omega
    have hbelow' : levels + 1 + room' = limits.depth := by omega
    simp only [below, openLevel, hopen, hopen', if_true]
    rw [dispatch_eq, dispatch_eq]
    exact dispatchWith_follows (ih hbelow hbelow') h.calls (below_course hbelow)
      (below_course hbelow') hbelow hbelow' kernel args run hrun

/-- A dispatch within wider limits follows the one within narrower limits. -/
theorem dispatch_follows (h : Wider limits env.limits) {levels room room' : Nat}
    (hroom : levels + room = env.limits.depth) (hroom' : levels + room' = limits.depth) :
    AnswerFollows (env.dispatch room) ({ env with limits }.dispatch room') := by
  rw [dispatch_eq, dispatch_eq]
  exact dispatchWith_follows (below_follows h hroom hroom') h.calls
    (below_course hroom) (below_course hroom') hroom hroom'

end Environment

/-! ## Steps -/

/-- A step that leads on from any state in which no bound was crossed. -/
structure Leading {α : Type} (step : Step α) : Prop where
  leads : ∀ run : Run, run.exceeded = none → run.Leads (step.outcome run).2
  halts : Halts step

theorem Environment.Traced.leading {env : Environment} {α : Type} {room levels : Nat}
    {step : Step α} {history : Run → History} (h : env.Traced room step history)
    (hlevels : levels + room = env.limits.depth) : Leading step :=
  ⟨fun run hrun => (h.course run levels hrun hlevels).leads, h.halts⟩

namespace Leading

variable {α β : Type} {step : Step α} {following : α → Step β}

theorem of_silent (h : Silent step) : Leading step where
  leads run _ := by
    obtain ⟨value, hvalue⟩ := h run
    rw [hvalue]
    exact .refl run
  halts := h.halts

theorem leads_bind (h : Leading step) (hfollowing : ∀ value, Leading (following value))
    {run : Run} (hrun : run.exceeded = none) :
    (step.outcome run).2.Leads ((step >>= following).outcome run).2 := by
  have hexceeded := h.halts run hrun
  rw [Step.outcome_bind]
  rcases hstep : step.outcome run with ⟨error | value, later⟩
  · exact .refl _
  · rw [hstep] at hexceeded
    exact (hfollowing value).leads later hexceeded

theorem bind (h : Leading step) (hfollowing : ∀ value, Leading (following value)) :
    Leading (step >>= following) where
  leads run hrun := (h.leads run hrun).trans (h.leads_bind hfollowing hrun)
  halts := h.halts.bind fun value => (hfollowing value).halts

end Leading

/-- A step within wider limits keeps pace with one within narrower limits. -/
structure Paced {α : Type} (narrow wide : Step α) : Prop where
  leading : Leading narrow
  leadingWide : Leading wide
  follows : ∀ run, run.Clear → Follows (narrow.outcome run) (wide.outcome run)

namespace Paced

variable {α β : Type} {narrow wide : Step α} {following following' : α → Step β}

theorem of_leading (h : Leading narrow) : Paced narrow narrow := ⟨h, h, fun _ _ => .refl _⟩

theorem of_silent (h : Silent narrow) : Paced narrow narrow := of_leading (.of_silent h)

theorem bind (h : Paced narrow wide)
    (hrest : ∀ value, Paced (following value) (following' value)) :
    Paced (narrow >>= following) (wide >>= following') := by
  have hfollowing (value : α) := (hrest value).leading
  have hfollowing' (value : α) := (hrest value).leadingWide
  refine ⟨h.leading.bind hfollowing, h.leadingWide.bind hfollowing', fun run hrun => ?_⟩
  refine (h.follows run hrun).followed (h.leading.leads_bind hfollowing hrun.exceeded)
    (h.leadingWide.leads_bind hfollowing' hrun.exceeded) fun hexceeded heq => ?_
  have hclear := (h.leading.leads run hrun.exceeded).clear hrun hexceeded
  rw [Step.outcome_bind, Step.outcome_bind, heq]
  rcases hstep : narrow.outcome run with ⟨error | value, later⟩
  · exact .refl _
  · rw [hstep] at hclear
    exact (hrest value).follows later hclear

theorem bind_silent {following : α → Step β} (h : Paced narrow wide)
    (hrest : ∀ value, Silent (following value)) :
    Paced (narrow >>= following) (wide >>= following) := h.bind fun value => of_silent (hrest value)

end Paced

namespace Environment

variable {env : Environment} {limits : Limits}

/-- A refusal that is replaced by fallback text is recorded, and that is all. -/
theorem dispatch_leads_recovering (env : Environment) (room : Nat) (kernel : String) (args : Args)
    {run : Run} (hrun : run.exceeded = none) :
    (env.dispatch room kernel args run).2.Leads
      ((env.dispatchRecovering room kernel args).outcome run).2 := by
  have hexceeded := dispatch_exceeded env room kernel args hrun
  rw [outcome_dispatchRecovering]
  rcases hdispatch : env.dispatch room kernel args run with ⟨(refusal | error) | fragment, later⟩
  · rw [hdispatch] at hexceeded
    exact ⟨Narrative.SameStory.grows rfl, fun h => absurd hexceeded h, fun _ => rfl⟩
  · exact .refl _
  · exact .refl _

theorem dispatchRecovering_paced (h : Wider limits env.limits) {levels room room' : Nat}
    (hroom : levels + room = env.limits.depth) (hroom' : levels + room' = limits.depth)
    (kernel : String) (args : Args) : Paced (env.dispatchRecovering room kernel args)
      ({ env with limits }.dispatchRecovering room' kernel args) := by
  refine ⟨(dispatchRecovering_traced kernel args).leading hroom,
    (dispatchRecovering_traced kernel args).leading hroom', fun run hrun => ?_⟩
  refine (dispatch_follows h hroom hroom' kernel args run hrun).followed
    (dispatch_leads_recovering env _ _ _ hrun.exceeded)
    (dispatch_leads_recovering { env with limits } _ _ _ hrun.exceeded) fun _ heq => ?_
  rw [outcome_dispatchRecovering, outcome_dispatchRecovering, heq]
  exact .refl _

theorem introduce_paced (h : Wider limits env.limits) {levels room room' : Nat}
    (hroom : levels + room = env.limits.depth) (hroom' : levels + room' = limits.depth)
    (id : CharacterId) :
    Paced (env.introduce room id) ({ env with limits }.introduce room' id) := by
  unfold introduce
  by_cases hregistered : env.registry.contains characterMarker
  · simp only [hregistered, if_true]
    refine (dispatchRecovering_paced h hroom hroom' _ _).bind fun introduction => ?_
    exact .bind_silent (.of_leading ((emit_traced introduction).leading hroom)) fun _ _ => ⟨_, rfl⟩
  · simp only [hregistered]
    exact .of_silent fun _ => ⟨_, rfl⟩

theorem declare_paced (h : Wider limits env.limits) {levels room room' : Nat}
    (hroom : levels + room = env.limits.depth) (hroom' : levels + room' = limits.depth)
    (name : String) (traits : List String) :
    Paced (env.declare room name traits) ({ env with limits }.declare room' name traits) := by
  refine ⟨(declare_traced name traits).leading hroom, (declare_traced name traits).leading hroom',
    fun run hrun => ?_⟩
  rw [outcome_declare, outcome_declare]
  cases run.narrative.declare name traits with
  | none => exact .refl _
  | some declared =>
    exact (introduce_paced h hroom hroom' declared.1).follows _
      ⟨hrun.exceeded, hrun.refusedLevels⟩

theorem callInside_paced (h : Wider limits env.limits) {levels room room' : Nat}
    (hroom : levels + room = env.limits.depth) (hroom' : levels + room' = limits.depth)
    {kernel : String} {positional : List Expr} {keywords : List (String × Expr)}
    (hpositional : Paced (env.evaluateAll room positional)
      ({ env with limits }.evaluateAll room' positional))
    (hkeywords : Paced (env.evaluateKeywords room keywords)
      ({ env with limits }.evaluateKeywords room' keywords)) :
    Paced (env.callInside room kernel positional keywords)
      ({ env with limits }.callInside room' kernel positional keywords) := by
  unfold callInside
  cases declaredTraits? positional with
  | some traits => exact declare_paced h hroom hroom' kernel traits
  | none =>
    refine hpositional.bind fun _ => hkeywords.bind fun _ => ?_
    exact (dispatchRecovering_paced h hroom hroom' _ _).bind_silent fun _ _ => ⟨_, rfl⟩

/-- A call keeps pace if what it does inside does, as long as there is room for it. Where there is
none within the narrow limits, these are crossed. -/
theorem call_paced (h : Wider limits env.limits) {levels room room' : Nat}
    (hroom : levels + room = env.limits.depth) (hroom' : levels + room' = limits.depth)
    {kernel : String} {positional : List Expr} {keywords : List (String × Expr)}
    (hinside : 0 < room → Paced (env.callInside (room - 1) kernel positional keywords)
      ({ env with limits }.callInside (room' - 1) kernel positional keywords)) :
    Paced (env.evaluate room (.call kernel positional keywords))
      ({ env with limits }.evaluate room' (.call kernel positional keywords)) := by
  have hwide : Leading ({ env with limits }.evaluate room' (.call kernel positional keywords)) :=
    (evaluate_traced _ _).leading hroom'
  have hdepth := h.depth
  refine ⟨(evaluate_traced _ _).leading hroom, hwide, fun run hrun => ?_⟩
  -- a narrow telling without room crosses its bound here, where the wide one may go on
  by_cases hopen : 0 < room
  · have hopened : run.refusedLevels < room := by rw [hrun.refusedLevels]; exact hopen
    have hopened' : run.refusedLevels < room' := by omega
    rw [outcome_call, outcome_call, if_pos hopened, if_pos hopened']
    exact (hinside hopen).follows run hrun
  · have hfull : ¬ run.refusedLevels < room := by omega
    refine .of_crossed ?_ ?_ (hwide.leads run hrun.exceeded)
    · rw [outcome_call, if_neg hfull]
      show (env.refuseLevel run).2.exceeded ≠ none
      rw [refuseLevel_exceeded]
      exact Option.some_ne_none _
    · rw [outcome_call, if_neg hfull]
      exact run.sameStory_cross (.depth env.limits.depth)

mutual

/-- An expression within wider limits keeps pace. -/
theorem evaluate_paced (h : Wider limits env.limits) {levels room room' : Nat}
    (hroom : levels + room = env.limits.depth) (hroom' : levels + room' = limits.depth) :
    ∀ e : Expr, Paced (env.evaluate room e) ({ env with limits }.evaluate room' e)
  | .name word => by
    simp only [evaluate]
    exact .of_silent fun _ => ⟨_, rfl⟩
  | .text words => .of_silent fun _ => ⟨_, rfl⟩
  | .number x => .of_silent fun _ => ⟨_, rfl⟩
  | .list items => (evaluateAll_paced h hroom hroom' items).bind_silent fun _ _ => ⟨_, rfl⟩
  | .binary .compose left right =>
    (evaluate_paced h hroom hroom' left).bind fun _ =>
      (evaluate_paced h hroom hroom' right).bind_silent fun _ _ => ⟨_, rfl⟩
  | .binary .dilute left right =>
    (evaluate_paced h hroom hroom' left).bind fun value =>
      (evaluate_paced h hroom hroom' right).bind fun amount =>
        .of_leading ((diluteBy_traced _ value amount).leading hroom)
  | .call kernel positional keywords =>
    have hdepth := h.depth
    call_paced h hroom hroom' fun hopen =>
      have hinside : levels + 1 + (room - 1) = env.limits.depth := by omega
      have hinside' : levels + 1 + (room' - 1) = limits.depth := by omega
      callInside_paced h hinside hinside' (evaluateAll_paced h hinside hinside' positional)
        (evaluateKeywords_paced h hinside hinside' keywords)

theorem evaluateAll_paced (h : Wider limits env.limits) {levels room room' : Nat}
    (hroom : levels + room = env.limits.depth) (hroom' : levels + room' = limits.depth) :
    ∀ items : List Expr, Paced (env.evaluateAll room items)
      ({ env with limits }.evaluateAll room' items)
  | [] => .of_silent fun _ => ⟨_, rfl⟩
  | first :: rest =>
    (evaluate_paced h hroom hroom' first).bind fun _ =>
      (evaluateAll_paced h hroom hroom' rest).bind_silent fun _ _ => ⟨_, rfl⟩

theorem evaluateKeywords_paced (h : Wider limits env.limits) {levels room room' : Nat}
    (hroom : levels + room = env.limits.depth) (hroom' : levels + room' = limits.depth) :
    ∀ keywords : List (String × Expr), Paced (env.evaluateKeywords room keywords)
      ({ env with limits }.evaluateKeywords room' keywords)
  | [] => .of_silent fun _ => ⟨_, rfl⟩
  | (_, first) :: rest =>
    (evaluate_paced h hroom hroom' first).bind fun _ =>
      (evaluateKeywords_paced h hroom hroom' rest).bind_silent fun _ _ => ⟨_, rfl⟩

end

theorem tell_paced (h : Wider limits env.limits) (statements : List Expr) :
    Paced (env.tell statements) ({ env with limits }.tell statements) := by
  have hroom : 0 + env.limits.depth = env.limits.depth := Nat.zero_add _
  have hroom' : 0 + limits.depth = limits.depth := Nat.zero_add _
  induction statements with
  | nil => exact .of_silent fun _ => ⟨_, rfl⟩
  | cons statement rest ih =>
    refine (evaluate_paced h hroom hroom' statement).bind fun value => ?_
    exact .bind (.of_leading ((emitAll_traced value.generated).leading hroom)) fun _ => ih

/-- Statements that are told within limits have the same story within wider ones. If they cross a
bound, then their fragments, their effects and the names they declare so far are where the wider
telling begins with. -/
theorem tell_of_wider (env : Environment) (limits : Limits)
    (hdepth : env.limits.depth ≤ limits.depth) (hcalls : env.limits.calls ≤ limits.calls)
    (statements : List Expr) (seed : UInt64) (clamp : Clamp) :
    let start := Run.start (.start seed clamp)
    let narrow := (env.tell statements).outcome start
    let wide := ({ env with limits }.tell statements).outcome start
    (narrow.1 = .ok () → wide = narrow) ∧
    narrow.2.narrative.fragments <+: wide.2.narrative.fragments ∧
    narrow.2.narrative.effects <+: wide.2.narrative.effects ∧
    narrow.2.narrative.names <+: wide.2.narrative.names := by
  intro start narrow wide
  have hpaced : Follows narrow wide :=
    (tell_paced ⟨hdepth, hcalls⟩ statements).follows start ⟨rfl, rfl⟩
  refine ⟨fun hok => hpaced.same ?_, hpaced.grows.fragments, hpaced.grows.effects,
    hpaced.grows.names⟩
  have hexceeded : narrow.2.exceeded = crossedStep narrow.1 :=
    (tell_traced statements).halts start rfl
  rw [hexceeded, hok, crossedStep]

/-- A kernel that calls itself crosses both limits, the wider ones later. -/
theorem tell_insisting_of_wider :
    let start := Run.start (.start 0 .unbounded)
    let statements : List Expr := [.call "Storm" [] [], .call "Insist" [] []]
    let narrow := ((insisting ⟨2, 5⟩).tell statements).outcome start
    let wide := ((insisting ⟨4, 9⟩).tell statements).outcome start
    (narrow.1 = .ok () → wide = narrow) ∧
    narrow.2.narrative.fragments <+: wide.2.narrative.fragments ∧
    narrow.2.narrative.effects <+: wide.2.narrative.effects ∧
    narrow.2.narrative.names <+: wide.2.narrative.names :=
  tell_of_wider (insisting ⟨2, 5⟩) ⟨4, 9⟩ (by decide) (by decide) _ 0 .unbounded

end Environment

end Storyweave.Evaluation
