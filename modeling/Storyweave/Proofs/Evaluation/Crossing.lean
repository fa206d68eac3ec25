import Storyweave.Proofs.Evaluation.History

/-!
# Crossed bounds

A handler sees the failure of a nested call and may go on as if nothing had happened. Results:
1. `Course.reports_eq`: every crossed bound is recorded when it is crossed, and nothing else is
   recorded as one.
2. `tell_stops_at_first_crossing`: nevertheless statements have a result exactly if no bound was
   crossed while they were told, and the first crossing ends the story.
-/

namespace Storyweave.Evaluation

open Storyweave.Story Storyweave.Kernel Storyweave.Language

/-- The crossed bounds that were recorded, in words. -/
def Run.reports (run : Run) : List String :=
  (run.narrative.diagnostics.filter (·.kind == .recursionLimitExceeded)).map Diagnostic.message

/-- The crossed bounds of a history. -/
def crossings (history : History) : List LimitError := history.filterMap Event.crossing

theorem firstCrossing_eq (history : History) : firstCrossing history = (crossings history).head? :=
  List.head?_filterMap.symm

namespace Run

theorem reports_diagnose (run : Run) {kind : DiagnosticKind} (subject : Option String)
    (message : String) (h : kind ≠ .recursionLimitExceeded) :
    (run.diagnose kind subject message).reports = run.reports := by
  simp [reports, diagnose, Narrative.diagnose, List.filter_append, h]

theorem reports_cross (run : Run) (error : LimitError) :
    (run.cross error).reports = run.reports ++ [error.message] := by
  cases error <;> cases h : run.exceeded <;>
    simp [cross, exceed, diagnose, Narrative.diagnose, reports, List.filter_append, h]

theorem reports_emit (run : Run) (fragment : Fragment) :
    (run.emit fragment).reports = run.reports := by
  simp only [reports, emit, Narrative.emit]
  split <;> rfl

theorem reports_declare (run : Run) (name : String) (traits : List String) :
    (run.declare name traits).reports = run.reports := by
  simp only [reports, declare, Narrative.declare]
  cases run.narrative.byName.contains name <;> rfl

end Run

theorem diagnostics_foldl_apply (effects : List Effect) (n : Narrative) :
    (effects.foldl Narrative.apply n).diagnostics = n.diagnostics := by
  induction effects generalizing n with
  | nil => rfl
  | cons effect rest ih =>
    rw [List.foldl_cons, ih]
    cases effect with
    | emotion id emotion delta =>
      unfold Narrative.apply
      cases h : n.character id <;> simp only [h]
    | focus _ => rfl
    | object _ => rfl

namespace Environment

variable {env : Environment} {m m' : Moment} {history : History}

theorem reports_fillTemplate (category : String) (slots : Template.Slots) (run : Run) :
    (env.fillTemplate category slots run).2.reports = run.reports := by
  unfold fillTemplate
  split
  · rfl
  · exact run.reports_diagnose _ _ (by decide)

theorem reports_next (m : Moment) (event : Event) :
    (env.next m event).run.reports =
      m.run.reports ++ (event.crossing.map LimitError.message).toList := by
  cases event with
  | crossed error => exact m.run.reports_cross error
  | unknown kernel =>
    exact (m.run.reports_diagnose _ _ (by decide)).trans (List.append_nil _).symm
  | recovered subject message =>
    exact (m.run.reports_diagnose _ _ (by decide)).trans (List.append_nil _).symm
  | filled category slots =>
    exact (reports_fillTemplate category slots m.run).trans (List.append_nil _).symm
  | declared name traits =>
    exact (m.run.reports_declare name traits).trans (List.append_nil _).symm
  | emitted fragment => exact (m.run.reports_emit fragment).trans (List.append_nil _).symm
  | ended ending =>
    cases ending with
    | settled =>
      simp only [next, Run.reports, diagnostics_foldl_apply]
      exact (List.append_nil _).symm
    | refused => exact (List.append_nil _).symm
    | stopped => exact (List.append_nil _).symm
  | _ => exact (List.append_nil _).symm

/-- Every crossed bound is recorded when it is crossed, and nothing else is recorded as one. -/
theorem Course.reports_eq (h : env.Course m history m') :
    m'.run.reports = m.run.reports ++ (crossings history).map LimitError.message := by
  induction h with
  | done => simp [crossings]
  | @step m m' event rest _ _ ih =>
    rw [ih, reports_next, List.append_assoc, crossings, crossings, List.filterMap_cons]
    cases event.crossing <;> rfl

/-- Statements that are told from the beginning have a result exactly if no bound was crossed
while they were told; if one was, the first one that was crossed is the answer. From the first
crossing on nothing is added to the story and no effect takes place, whatever handlers go on to
do. All crossings are recorded, so one is recorded exactly if there is no result. -/
theorem tell_stops_at_first_crossing (env : Environment) (statements : List Expr) (seed : UInt64)
    (clamp : Clamp) :
    let start := Run.start (.start seed clamp)
    let history := env.history statements start
    let outcome := (env.tell statements).outcome start
    let moment (i : Nat) := (env.replay (.outside start) (history.take i)).run
    env.Course (.outside start) history (.outside outcome.2) ∧
    outcome.1 = (firstCrossing history).elim (.ok ()) .error ∧
    (∀ i j, i ≤ j → firstCrossing (history.take i) ≠ none →
      (moment i).narrative.SameStory (moment j).narrative) ∧
    outcome.2.reports = (crossings history).map LimitError.message ∧
    ((∃ d ∈ outcome.2.narrative.diagnostics, d.kind = .recursionLimitExceeded) ↔
      ∃ error, outcome.1 = .error error) := by
  intro start history outcome moment
  have hcourse : env.Course (.outside start) history (.outside outcome.2) :=
    tell_course statements rfl
  have hexceeded : crossedStep outcome.1 = firstCrossing history :=
    ((tell_traced statements).halts start rfl).symm.trans hcourse.exceeded_eq
  have hreports : outcome.2.reports = (crossings history).map LimitError.message :=
    hcourse.reports_eq
  have houtcome : outcome.1 = (firstCrossing history).elim (.ok ()) .error := by
    rw [← hexceeded]
    cases outcome.1 <;> rfl
  refine ⟨hcourse, houtcome, fun i j hij hcrossed => ?_, hreports, ?_⟩
  · -- cut at `i`, the history until `j` goes on from a moment behind the first crossing
    have hbefore := (hcourse.take j).take i
    have hafter := (hcourse.take j).drop i
    rw [List.take_take, Nat.min_eq_left hij] at hbefore hafter
    refine hafter.sameStory ?_
    rwa [hbefore.exceeded_eq]
  · have hmem : (∃ d ∈ outcome.2.narrative.diagnostics, d.kind = .recursionLimitExceeded) ↔
        outcome.2.reports ≠ [] := by
      simp [Run.reports]
    rw [hmem, hreports, houtcome, firstCrossing_eq]
    cases crossings history <;> simp

/-- A handler that calls its own kernel, whatever comes of it, and goes on. -/
def insist : Handler := fun i => do
  let _ ← Telling.call i.kernel i.args
  return i.fragment "It went on."

/-- Where no other kernel is known than one that insists. -/
def insisting (limits : Limits) : Environment := ⟨.ofList [("Insist", insist)], .empty, limits⟩

example : crossedStep (((insisting ⟨3, 10⟩).tell [.call "Insist" [] []]).outcome
    (Run.start (.start 0 .unbounded))).1 = some (.depth 3) := by decide

end Environment

end Storyweave.Evaluation
