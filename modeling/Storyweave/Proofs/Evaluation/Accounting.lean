import Mathlib.Data.Finset.Card
import Storyweave.Engine
import Storyweave.Proofs.Evaluation.History
import Storyweave.Proofs.Kernel.CallFree

/-!
# What statements demand of the limits

Where no handler makes a nested call, the levels and dispatches of a telling can be counted in its
statements. Results:
1. `evaluate_metered`: an expression has a result exactly if what it demands is still left of the
   limits, and then it takes just that.
2. `told_iff_demand_within`: so do statements, whatever the templates, the chance and the arguments.
-/

namespace Storyweave

open Storyweave.Story Storyweave.Kernel Storyweave.Language

namespace Evaluation

/-! ## Demands -/

/-- What something demands of the limits. -/
structure Demand where
  /-- The deepest nesting of calls. -/
  nesting : Nat
  /-- How many calls are there, without declarations. -/
  dispatches : Nat
  /-- The names that are declared. -/
  names : Finset String

namespace Demand

/-- Nothing. -/
def none : Demand := ⟨0, 0, ∅⟩

/-- One thing and then another. -/
def both (d e : Demand) : Demand :=
  ⟨max d.nesting e.nesting, d.dispatches + e.dispatches, d.names ∪ e.names⟩

end Demand

mutual

/-- What an expression demands. The arguments of a declaration are not evaluated. -/
def demand : Expr → Demand
  | .name _ => .none
  | .text _ => .none
  | .number _ => .none
  | .list items => allDemand items
  | .binary _ left right => (demand left).both (demand right)
  | .call kernel positional keywords =>
    match declaredTraits? positional with
    | some _ => ⟨1, 0, {kernel}⟩
    | none =>
      let inside := (allDemand positional).both (keywordsDemand keywords)
      ⟨inside.nesting + 1, inside.dispatches + 1, inside.names⟩

/-- What expressions demand. -/
def allDemand : List Expr → Demand
  | [] => .none
  | first :: rest => (demand first).both (allDemand rest)

/-- What keyword arguments demand. -/
def keywordsDemand : List (String × Expr) → Demand
  | [] => .none
  | (_, first) :: rest => (demand first).both (keywordsDemand rest)

end

namespace Demand

variable {d e : Demand}

theorem both_none (d : Demand) : d.both none = d := by
  simp [both, none]

theorem none_both (d : Demand) : none.both d = d := by
  simp [both, none]

theorem both_dispatch (d e : Demand) : d.both (e.both ⟨0, 1, ∅⟩) =
    ⟨(d.both e).nesting, (d.both e).dispatches + 1, (d.both e).names⟩ := by
  simp [both, Nat.add_assoc]

/-- How many dispatches a demand comes to where some names are known, if every character that is
declared is introduced. -/
def calls (d : Demand) (introduced : Bool) (known : Finset String) : Nat :=
  d.dispatches + if introduced then (d.names \ known).card else 0

theorem calls_both (introduced : Bool) (known : Finset String) :
    (d.both e).calls introduced known =
      d.calls introduced known + e.calls introduced (known ∪ d.names) := by
  -- a name that both declare is new in the first only
  have hsplit : (d.names ∪ e.names) \ known =
      (d.names \ known) ∪ (e.names \ (known ∪ d.names)) := by
    ext name
    simp only [Finset.mem_union, Finset.mem_sdiff]
    tauto
  have hdisjoint : Disjoint (d.names \ known) (e.names \ (known ∪ d.names)) := by
    refine Finset.disjoint_left.2 fun name hd he => ?_
    exact (Finset.mem_sdiff.1 he).2 (Finset.mem_union_right _ (Finset.mem_sdiff.1 hd).1)
  cases introduced with
  | false => simp [calls, both]
  | true =>
    simp only [calls, both, if_true]
    rw [hsplit, Finset.card_union_of_disjoint hdisjoint]
    omega

/-- Whether a demand is within limits. Where declared characters are introduced, each of them
takes a dispatch. -/
def Within (d : Demand) (registry : Registry) (limits : Limits) : Prop :=
  d.nesting ≤ limits.depth ∧
  d.dispatches + (if registry.contains characterMarker then d.names.card else 0) ≤ limits.calls

instance (d : Demand) (registry : Registry) (limits : Limits) :
    Decidable (d.Within registry limits) := inferInstanceAs (Decidable (_ ∧ _))

end Demand

/-! ## States within the limits -/

/-- The names of the characters so far. -/
def Run.known (run : Run) : Finset String := run.narrative.byName.names.toFinset

/-- What counts for the limits is the same in two states. -/
structure Run.Keeps (run later : Run) : Prop where
  exceeded : later.exceeded = run.exceeded
  refusedLevels : later.refusedLevels = run.refusedLevels
  calls : later.calls = run.calls
  byName : later.narrative.byName = run.narrative.byName

theorem Run.Keeps.refl (run : Run) : run.Keeps run := ⟨rfl, rfl, rfl, rfl⟩

theorem Run.Keeps.trans {run later last : Run} (h : run.Keeps later) (h' : later.Keeps last) :
    run.Keeps last where
  exceeded := h'.exceeded.trans h.exceeded
  refusedLevels := h'.refusedLevels.trans h.refusedLevels
  calls := h'.calls.trans h.calls
  byName := h'.byName.trans h.byName

theorem Run.diagnose_keeps (run : Run) (kind : DiagnosticKind) (subject : Option String)
    (message : String) : run.Keeps (run.diagnose kind subject message) := ⟨rfl, rfl, rfl, rfl⟩

namespace Environment

variable (env : Environment)

/-- A state in which no limit was crossed. -/
structure Ready (run : Run) : Prop where
  clear : run.Clear
  calls : run.calls ≤ env.limits.calls

/-- How many dispatches a demand comes to in a state. -/
def callsFor (d : Demand) (run : Run) : Nat :=
  d.calls (env.registry.contains characterMarker) run.known

/-- Whether what is left of the limits meets a demand where `room` levels are unopened. -/
def Affords (room : Nat) (run : Run) (d : Demand) : Prop :=
  d.nesting ≤ room ∧ run.calls + env.callsFor d run ≤ env.limits.calls

/-- A demand was met between two states. -/
structure Met (run later : Run) (d : Demand) : Prop where
  clear : later.Clear
  calls : later.calls = run.calls + env.callsFor d run
  known : later.known = run.known ∪ d.names

/-- What comes behind a state shows whether a demand could be met there, where `room` levels are
unopened: there is a result exactly if it could, and then it was met. -/
structure Settles {α : Type} (room : Nat) (run : Run) (result : Except LimitError α × Run)
    (d : Demand) : Prop where
  ok_iff : (∃ value, result.1 = .ok value) ↔ env.Affords room run d
  met : (∃ value, result.1 = .ok value) → env.Met run result.2 d

/-- A step that meets just this demand if it has a result. -/
def Metered {α : Type} (room : Nat) (step : Step α) (d : Demand) : Prop :=
  ∀ run, env.Ready run → env.Settles room run (step.outcome run) d

variable {env} {room : Nat} {run later last : Run} {d e : Demand}

theorem Met.ready (h : env.Met run later d) (haffords : env.Affords room run d) :
    env.Ready later := ⟨h.clear, h.calls ▸ haffords.2⟩

theorem Met.callsFor_both (h : env.Met run later d) :
    env.callsFor (d.both e) run = env.callsFor d run + env.callsFor e later := by
  rw [callsFor, Demand.calls_both, ← h.known]
  rfl

theorem Met.trans (h : env.Met run later d) (h' : env.Met later last e) :
    env.Met run last (d.both e) where
  clear := h'.clear
  calls := by rw [h'.calls, h.calls, h.callsFor_both, Nat.add_assoc]
  known := by rw [h'.known, h.known, Finset.union_assoc]; rfl

theorem Met.affords_both (h : env.Met run later d) :
    env.Affords room run (d.both e) ↔ env.Affords room run d ∧ env.Affords room later e := by
  unfold Affords
  rw [h.callsFor_both, h.calls]
  simp only [Demand.both, max_le_iff]
  omega

theorem Affords.left (h : env.Affords room run (d.both e)) : env.Affords room run d := by
  have hcalls : env.callsFor d run ≤ env.callsFor (d.both e) run := by
    rw [callsFor, callsFor, Demand.calls_both]
    exact Nat.le_add_right _ _
  exact ⟨(le_max_left _ _).trans h.1, (Nat.add_le_add_left hcalls _).trans h.2⟩

theorem callsFor_none (run : Run) : env.callsFor .none run = 0 := by
  simp [callsFor, Demand.calls, Demand.none]

theorem Ready.settles_none {α : Type} (h : env.Ready run) (value : α) (hkeeps : run.Keeps later) :
    env.Settles room run (.ok value, later) .none :=
  ⟨iff_of_true ⟨value, rfl⟩ ⟨Nat.zero_le _, by rw [callsFor_none]; exact h.calls⟩, fun _ =>
    ⟨⟨hkeeps.exceeded.trans h.clear.exceeded, hkeeps.refusedLevels.trans h.clear.refusedLevels⟩,
      by rw [callsFor_none]; exact hkeeps.calls,
      by rw [Run.known, hkeeps.byName]; exact (Finset.union_empty _).symm⟩⟩

/-- The same result settles a demand from another state that comes to the same. -/
theorem Settles.of_same {α : Type} {result : Except LimitError α × Run}
    (h : env.Settles room later result e) (hnesting : d.nesting = e.nesting)
    (hcalls : run.calls + env.callsFor d run = later.calls + env.callsFor e later)
    (hknown : run.known ∪ d.names = later.known ∪ e.names) : env.Settles room run result d where
  ok_iff := by rw [h.ok_iff, Affords, Affords, hnesting, hcalls]
  met hok :=
    have hmet := h.met hok
    ⟨hmet.clear, hmet.calls.trans hcalls.symm, hmet.known.trans hknown.symm⟩

namespace Metered

variable {α β : Type} {step : Step α} {following : α → Step β}

theorem of_silent (h : Silent step) : env.Metered room step .none := by
  intro run hrun
  obtain ⟨value, hvalue⟩ := h run
  rw [hvalue]
  exact hrun.settles_none value (.refl run)

theorem bind (h : env.Metered room step d)
    (hfollowing : ∀ value, env.Metered room (following value) e) :
    env.Metered room (step >>= following) (d.both e) := by
  intro run hrun
  have hfirst := h run hrun
  rw [Step.outcome_bind]
  rcases hstep : step.outcome run with ⟨error | value, later⟩
  · -- what the first step cannot afford, both together cannot
    rw [hstep] at hfirst
    refine ⟨iff_of_false nofun fun hboth => ?_, nofun⟩
    obtain ⟨value, hvalue⟩ := hfirst.ok_iff.2 hboth.left
    cases hvalue
  · rw [hstep] at hfirst
    -- the second step begins with what the first one has left
    have haffords := hfirst.ok_iff.1 ⟨value, rfl⟩
    have hmet := hfirst.met ⟨value, rfl⟩
    have hrest := hfollowing value later (hmet.ready haffords)
    refine ⟨?_, fun hok => hmet.trans (hrest.met hok)⟩
    rw [hmet.affords_both, and_iff_right haffords]
    exact hrest.ok_iff

/-- What follows may be free of demands. -/
theorem bind_none (h : env.Metered room step d)
    (hfollowing : ∀ value, env.Metered room (following value) .none) :
    env.Metered room (step >>= following) d := by
  have hbind := h.bind hfollowing
  rwa [Demand.both_none] at hbind

theorem bind_silent (h : env.Metered room step d) (hfollowing : ∀ value, Silent (following value)) :
    env.Metered room (step >>= following) d :=
  h.bind_none fun value => of_silent (hfollowing value)

end Metered

/-! ## Dispatches -/

theorem fillTemplate_keeps (category : String) (slots : Template.Slots) (run : Run) :
    run.Keeps (env.fillTemplate category slots run).2 := by
  unfold fillTemplate
  split <;> exact ⟨rfl, rfl, rfl, rfl⟩

theorem perform_keeps {α : Type} {answer : Answer} {action : Action α} (h : action.CallFree)
    (run : Run) : run.Keeps (env.perform room answer action run).2 := by
  induction h generalizing run with
  | done result => exact .refl run
  | look _ ih => exact ih _ run
  | draw _ ih =>
    have hdrawn : run.Keeps { run with narrative := run.narrative.draw.2 } := ⟨rfl, rfl, rfl, rfl⟩
    exact hdrawn.trans (ih run.narrative.draw.1 _)
  | template category slots _ ih => exact (fillTemplate_keeps category slots run).trans (ih _ _)
  | request effect _ ih => exact ih run

theorem conclude_keeps (kernel : String) (result : Except Refusal Fragment) (effects : List Effect)
    (run : Run) : run.Keeps (conclude kernel result effects run).2 := by
  obtain ⟨narrative, refusedLevels, calls, exceeded⟩ := run
  cases exceeded with
  | some first => exact .refl _
  | none =>
    cases result with
    | error refusal => exact .refl _
    | ok fragment => exact ⟨rfl, rfl, rfl, Narrative.byName_foldl_apply _ _⟩

/-- A dispatch without nested calls takes one of the calls that are left. -/
theorem dispatch_keeps (h : env.registry.CallFree) (kernel : String) (args : Args) {run : Run}
    (hcalls : run.calls < env.limits.calls) :
    { run with calls := run.calls + 1 }.Keeps (env.dispatch room kernel args run).2 := by
  have hleft : ¬ env.limits.calls < run.calls + 1 := by omega
  rw [dispatch_eq]
  simp only [dispatchWith, hleft, if_false]
  cases hfind : env.registry.find? kernel with
  | none => exact Run.diagnose_keeps _ _ _ _
  | some handler =>
    exact (perform_keeps (h kernel handler hfind _) _).trans (conclude_keeps _ _ _ _)

theorem dispatchRecovering_keeps (env : Environment) (room : Nat) (kernel : String) (args : Args)
    (run : Run) :
    (env.dispatch room kernel args run).2.Keeps
      ((env.dispatchRecovering room kernel args).outcome run).2 := by
  rw [outcome_dispatchRecovering]
  rcases env.dispatch room kernel args run with ⟨(refusal | error) | fragment, later⟩
  · exact later.diagnose_keeps _ _ _
  · exact .refl later
  · exact .refl later

theorem callsFor_dispatches (count : Nat) (run : Run) : env.callsFor ⟨0, count, ∅⟩ run = count := by
  simp [callsFor, Demand.calls]

/-- A call that has no nested calls takes one dispatch, also if its arguments are refused or nobody
handles it. -/
theorem dispatchRecovering_metered (h : env.registry.CallFree) (kernel : String) (args : Args) :
    env.Metered room (env.dispatchRecovering room kernel args) ⟨0, 1, ∅⟩ := by
  intro run hrun
  have hrecovering := dispatchRecovering_keeps env room kernel args run
  have htraced : env.Traced room _ _ := dispatchRecovering_traced kernel args
  have hok := htraced.halts.ok_iff hrun.clear.exceeded
  rcases houtcome : (env.dispatchRecovering room kernel args).outcome run with ⟨result, later⟩
  rw [houtcome] at hrecovering hok
  by_cases hcalls : run.calls < env.limits.calls
  · have hkeeps := (dispatch_keeps h kernel args hcalls).trans hrecovering
    obtain ⟨value, rfl⟩ := hok.2 (hkeeps.exceeded.trans hrun.clear.exceeded)
    -- the rest of the dispatch demands nothing once it was counted
    have hcounted : env.Ready { run with calls := run.calls + 1 } :=
      ⟨⟨hrun.clear.exceeded, hrun.clear.refusedLevels⟩, hcalls⟩
    refine (hcounted.settles_none value hkeeps).of_same rfl ?_ rfl
    rw [callsFor_dispatches, callsFor_none]
  · have hcrossed : later.exceeded ≠ none := by
      rw [hrecovering.exceeded, dispatch_eq, dispatchWith_of_full _ _ _ _ (by omega),
        Run.exceeded_cross, hrun.clear.exceeded]
      exact Option.some_ne_none _
    have hstopped := mt hok.1 hcrossed
    refine ⟨iff_of_false hstopped fun haffords => ?_, fun hvalue => absurd hvalue hstopped⟩
    rw [Affords, callsFor_dispatches] at haffords
    exact hcalls haffords.2

theorem emitAll_metered (fragments : List Fragment) :
    env.Metered room (modify fun run => fragments.foldl Run.emit run) .none := by
  intro run hrun
  refine hrun.settles_none () ?_
  clear hrun
  induction fragments generalizing run with
  | nil => exact .refl run
  | cons first rest ih =>
    have hemitted : run.Keeps (run.emit first) := by
      unfold Run.emit Narrative.emit
      split <;> exact ⟨rfl, rfl, rfl, rfl⟩
    exact hemitted.trans (ih (run.emit first))

theorem diluteBy_metered (head : Option String) (value amount : Value) :
    env.Metered room (diluteBy head value amount) .none := by
  unfold diluteBy
  cases divisor amount with
  | ok d => exact .of_silent fun _ => ⟨_, rfl⟩
  | error message => exact fun run hrun => hrun.settles_none _ (run.diagnose_keeps _ _ _)

/-! ## Declarations -/

theorem introduce_metered (h : env.registry.CallFree) (id : CharacterId) :
    env.Metered room (env.introduce room id)
      ⟨0, if env.registry.contains characterMarker then 1 else 0, ∅⟩ := by
  unfold introduce
  by_cases hregistered : env.registry.contains characterMarker
  · simp only [hregistered, if_true]
    exact (dispatchRecovering_metered h _ _).bind_none fun introduction =>
      (emitAll_metered [introduction]).bind_silent fun _ _ => ⟨_, rfl⟩
  · simp only [hregistered]
    exact .of_silent fun _ => ⟨_, rfl⟩

theorem mem_known_iff {name : String} : name ∈ run.known ↔ run.narrative.lookup name ≠ none := by
  rw [Run.known, List.mem_toFinset, Catalogue.mem_names_iff, Option.isSome_iff_ne_none]
  rfl

theorem callsFor_declaration (name : String) (run : Run) :
    env.callsFor ⟨0, 0, {name}⟩ run =
      if name ∈ run.known then 0 else if env.registry.contains characterMarker then 1 else 0 := by
  by_cases hknown : name ∈ run.known
  · simp [callsFor, Demand.calls, hknown]
  · have hnew : {name} \ run.known = {name} :=
      Finset.sdiff_eq_self_of_disjoint (Finset.disjoint_singleton_left.2 hknown)
    simp [callsFor, Demand.calls, hknown, hnew]

theorem known_declare {name : String} (h : name ∉ run.known) (traits : List String) :
    (run.declare name traits).known = run.known ∪ {name} := by
  have hlookup : run.narrative.lookup name = none := by simpa [mem_known_iff] using h
  rw [Run.declare, Narrative.declare_eq_some hlookup]
  ext key
  rw [Run.known, List.mem_toFinset, Catalogue.mem_names_insert, Finset.mem_union,
    Finset.mem_singleton, Run.known, List.mem_toFinset, or_comm]

theorem Ready.declare (h : env.Ready run) (name : String) (traits : List String) :
    env.Ready (run.declare name traits) where
  clear := ⟨(run.exceeded_declare _ _).trans h.clear.exceeded,
    (run.refusedLevels_declare _ _).trans h.clear.refusedLevels⟩
  calls := (run.calls_declare _ _).trans_le h.calls

theorem outcome_declare_of_new {name : String} (h : run.narrative.lookup name = none)
    (traits : List String) : (env.declare room name traits).outcome run =
      (env.introduce room run.narrative.characters.length).outcome (run.declare name traits) := by
  rw [outcome_declare, Run.declare, Narrative.declare_eq_some h]

/-- A declaration opens no level of its own. It takes a dispatch if the name is new and declared
characters are introduced. -/
theorem declare_metered (h : env.registry.CallFree) (name : String) (traits : List String) :
    env.Metered room (env.declare room name traits) ⟨0, 0, {name}⟩ := by
  intro run hrun
  cases hlookup : run.narrative.lookup name with
  | some id =>
    have hknown : name ∈ run.known := mem_known_iff.2 (hlookup ▸ Option.some_ne_none id)
    rw [outcome_declare, Narrative.declare_eq_none hlookup]
    refine (hrun.settles_none _ (run.diagnose_keeps _ _ _)).of_same rfl ?_ ?_
    · rw [callsFor_declaration, if_pos hknown, callsFor_none]
    · exact (Finset.union_eq_left.2 (Finset.singleton_subset_iff.2 hknown)).trans
        (Finset.union_empty _).symm
  | none =>
    have hknown : name ∉ run.known := fun hmem => mem_known_iff.1 hmem hlookup
    rw [outcome_declare_of_new hlookup]
    refine (introduce_metered h _ _ (hrun.declare name traits)).of_same rfl ?_ ?_
    · rw [callsFor_declaration, if_neg hknown, callsFor_dispatches, Run.calls_declare]
    · rw [known_declare hknown]
      exact (Finset.union_empty _).symm

/-! ## Expressions and statements -/

/-- A call opens a level for what it does inside. -/
theorem call_metered {kernel : String} {positional : List Expr} {keywords : List (String × Expr)}
    (h : env.Metered (room - 1) (env.callInside (room - 1) kernel positional keywords) d) :
    env.Metered room (env.evaluate room (.call kernel positional keywords))
      ⟨d.nesting + 1, d.dispatches, d.names⟩ := by
  intro run hrun
  rw [outcome_call, hrun.clear.refusedLevels]
  by_cases hroom : 0 < room
  · rw [if_pos hroom]
    have hinside := h run hrun
    have hnesting : d.nesting ≤ room - 1 ↔ d.nesting + 1 ≤ room := by omega
    refine ⟨hinside.ok_iff.trans (and_congr_left' hnesting), fun hok => ?_⟩
    have hmet := hinside.met hok
    exact ⟨hmet.clear, hmet.calls, hmet.known⟩
  · rw [if_neg hroom]
    refine ⟨iff_of_false nofun fun haffords => ?_, nofun⟩
    have hnesting : d.nesting + 1 ≤ room := haffords.1
    omega

mutual

/-- An expression meets just what it demands. -/
theorem evaluate_metered (h : env.registry.CallFree) (room : Nat) :
    ∀ e : Expr, env.Metered room (env.evaluate room e) (demand e)
  | .name word => by
    simp only [evaluate]
    exact .of_silent fun _ => ⟨_, rfl⟩
  | .text words => .of_silent fun _ => ⟨_, rfl⟩
  | .number x => .of_silent fun _ => ⟨_, rfl⟩
  | .list items => (evaluateAll_metered h room items).bind_silent fun _ _ => ⟨_, rfl⟩
  | .binary .compose left right =>
    (evaluate_metered h room left).bind fun _ =>
      (evaluate_metered h room right).bind_silent fun _ _ => ⟨_, rfl⟩
  | .binary .dilute left right =>
    (evaluate_metered h room left).bind fun value =>
      (evaluate_metered h room right).bind_none (diluteBy_metered _ value)
  | .call kernel positional keywords => by
    have hpositional := evaluateAll_metered h (room - 1) positional
    have hkeywords := evaluateKeywords_metered h (room - 1) keywords
    rw [demand]
    cases hdeclared : declaredTraits? positional with
    | some traits =>
      have hinside : env.Metered (room - 1) (env.callInside (room - 1) kernel positional keywords)
          ⟨0, 0, {kernel}⟩ := by
        rw [callInside, hdeclared]
        exact declare_metered h kernel traits
      exact call_metered hinside
    | none =>
      have hinside : env.Metered (room - 1) (env.callInside (room - 1) kernel positional keywords)
          ((allDemand positional).both ((keywordsDemand keywords).both ⟨0, 1, ∅⟩)) := by
        rw [callInside, hdeclared]
        exact hpositional.bind fun _ => hkeywords.bind fun _ =>
          (dispatchRecovering_metered h _ _).bind_silent fun _ _ => ⟨_, rfl⟩
      rw [Demand.both_dispatch] at hinside
      exact call_metered hinside

theorem evaluateAll_metered (h : env.registry.CallFree) (room : Nat) :
    ∀ items : List Expr, env.Metered room (env.evaluateAll room items) (allDemand items)
  | [] => .of_silent fun _ => ⟨_, rfl⟩
  | first :: rest =>
    (evaluate_metered h room first).bind fun _ =>
      (evaluateAll_metered h room rest).bind_silent fun _ _ => ⟨_, rfl⟩

theorem evaluateKeywords_metered (h : env.registry.CallFree) (room : Nat) :
    ∀ keywords : List (String × Expr),
      env.Metered room (env.evaluateKeywords room keywords) (keywordsDemand keywords)
  | [] => .of_silent fun _ => ⟨_, rfl⟩
  | (_, first) :: rest =>
    (evaluate_metered h room first).bind fun _ =>
      (evaluateKeywords_metered h room rest).bind_silent fun _ _ => ⟨_, rfl⟩

end

theorem tell_metered (h : env.registry.CallFree) (statements : List Expr) :
    env.Metered env.limits.depth (env.tell statements) (allDemand statements) := by
  induction statements with
  | nil => exact .of_silent fun _ => ⟨_, rfl⟩
  | cons statement rest ih =>
    have hemit (value : Value) : env.Metered env.limits.depth
        ((modify fun run => value.generated.foldl Run.emit run) >>= fun _ => env.tell rest)
        (Demand.none.both (allDemand rest)) := (emitAll_metered _).bind fun _ => ih
    rw [Demand.none_both] at hemit
    exact (evaluate_metered h env.limits.depth statement).bind hemit

/-- Statements that are told from the beginning have a result exactly if what they demand is within
the limits. -/
theorem tell_ok_iff (h : env.registry.CallFree) (statements : List Expr) (seed : UInt64)
    (clamp : Clamp) :
    ((env.tell statements).outcome (Run.start (.start seed clamp))).1 = .ok () ↔
      (allDemand statements).Within env.registry env.limits := by
  have hstart : env.Ready (Run.start (.start seed clamp)) := ⟨⟨rfl, rfl⟩, Nat.zero_le _⟩
  have hknown : (Run.start (.start seed clamp)).known = ∅ := rfl
  have hcalls : (Run.start (.start seed clamp)).calls = 0 := rfl
  have hsettled := (tell_metered h statements _ hstart).ok_iff
  rw [Affords, callsFor, Demand.calls, hknown, hcalls, Finset.sdiff_empty, Nat.zero_add] at hsettled
  exact Iff.trans ⟨fun hok => ⟨(), hok⟩, fun ⟨(), hok⟩ => hok⟩ hsettled

end Environment

end Evaluation

/-! ## Stories -/

open Storyweave.Evaluation

theorem Engine.exists_tale_iff (engine : Engine) (statements : List Expr) (seed : UInt64) :
    (∃ tale, engine.tellStatements statements seed = .ok tale) ↔
      ((engine.environment.tell statements).outcome
        (Run.start (.start seed engine.config.clamp))).1 = .ok () := by
  unfold tellStatements Step.outcome
  dsimp only
  rcases (engine.environment.tell statements).run.run
    (Run.start (.start seed engine.config.clamp)) with ⟨error | ⟨⟩, run⟩
  · refine iff_of_false ?_ nofun
    rintro ⟨tale, htale⟩
    cases htale
  · exact iff_of_true ⟨_, rfl⟩ rfl

/-- The starter kernels make no nested call. With any kernels that make none, statements have a
result exactly if what they demand is within the limits, and a source that can be read has a story
exactly if what its statements demand is within the standard ones: it depends neither on templates
nor on chance, nor on what kernels there are, but for the one that introduces characters. -/
theorem told_iff_demand_within :
    Starter.registry.CallFree ∧
    ∀ registry : Registry, registry.CallFree → ∀ statements : List Expr,
      (∀ (templates : Template.Table) (limits : Limits) (seed : UInt64) (clamp : Clamp),
        ((Environment.tell ⟨registry, templates, limits⟩ statements).outcome
            (Run.start (.start seed clamp))).1 = .ok () ↔
          (allDemand statements).Within registry limits) ∧
      (∀ (source : String) (templates : Template.Table) (seed : UInt64),
        parse source = .ok statements →
        ((∃ tale, generate source registry templates seed = .ok tale) ↔
          (allDemand statements).Within registry .standard)) := by
  refine ⟨Starter.callFree_registry, fun registry hfree statements => ⟨?_, ?_⟩⟩
  · intro templates limits seed clamp
    exact Environment.tell_ok_iff hfree statements seed clamp
  · intro source templates seed hparse
    have hgenerate : generate source registry templates seed =
        Engine.tellStatements ⟨registry, templates, .standard, seed⟩ statements seed := by
      rw [generate, Engine.generate, Engine.generateWith, hparse]
      rfl
    rw [hgenerate, Engine.exists_tale_iff]
    exact Environment.tell_ok_iff hfree statements seed .unbounded

/-- A telling with the starter kernels that uses up its limits. -/
theorem told_ann_and_joy :
    ((Environment.tell ⟨Starter.registry, Starter.templates, ⟨1, 2⟩⟩
        [.call "Ann" [.name "Character"] [], .call "Joy" [.name "Ann"] []]).outcome
      (Run.start (.start 7 .unbounded))).1 = .ok () := by
  refine ((told_iff_demand_within.2 Starter.registry Starter.callFree_registry _).1 _ _ _ _).2 ?_
  decide

end Storyweave
