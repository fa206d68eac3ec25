import Storyweave.Proofs.Evaluation.History

/-!
# The ledger of effects

Which dispatches came to an end in a history, and what each of them asked for. Result:
`effects_eq_contributions`: at every moment the effects that took place are the ones that the
kernels which succeeded so far asked for, in the order in which the kernels ended. A kernel that
did not succeed adds nothing, and takes nothing away from the calls inside it.
-/

namespace Storyweave.Evaluation

open Storyweave.Story Storyweave.Kernel Storyweave.Language

/-- A dispatch of a kernel that came to its end. -/
structure Dispatch where
  kernel : String
  /-- What its handler asked for, in order. -/
  requests : List Effect
  ending : Ending
  /-- How many characters there were when it ended. -/
  cast : Nat

/-- What a dispatch adds to the effects that took place. -/
def Dispatch.contribution (d : Dispatch) : List Effect :=
  match d.ending with
  | .settled => d.requests.filter (Narrative.takesPlace d.cast)
  | .refused => []
  | .stopped => []

/-- The dispatches of a history. -/
structure Ledger where
  /-- How many characters were declared. -/
  cast : Nat
  /-- The kernels whose handlers are running and what they asked for so far, the one that began
  last first. -/
  running : List (String × List Effect)
  /-- The dispatches that ended, in order. -/
  completed : List Dispatch

namespace Ledger

/-- Before anything happened. -/
def empty : Ledger := ⟨0, [], []⟩

/-- The ledger with another event. -/
def record (l : Ledger) : Event → Ledger
  | .began kernel => { l with running := (kernel, []) :: l.running }
  | .requested effect =>
    { l with running := l.running.modifyHead fun (kernel, requests) =>
        (kernel, requests ++ [effect]) }
  | .ended ending =>
    match l.running with
    | [] => l
    | (kernel, requests) :: running =>
      { l with running, completed := l.completed ++ [⟨kernel, requests, ending, l.cast⟩] }
  | .declared _ _ => { l with cast := l.cast + 1 }
  | _ => l

/-- The ledger of a history. -/
def ofHistory (history : History) : Ledger := history.foldl record empty

/-- What the dispatches that ended have added to the effects that took place. -/
def effects (l : Ledger) : List Effect := l.completed.flatMap Dispatch.contribution

/-- A ledger says what is the case at a moment. -/
structure Fits (l : Ledger) (m : Moment) : Prop where
  cast : l.cast = m.run.narrative.characters.length
  running : l.running.map Prod.snd = m.pending
  effects : l.effects = m.run.narrative.effects

end Ledger

namespace Environment

variable {env : Environment} {m m' : Moment} {history : History} {l : Ledger}

theorem ended_fits {ending : Ending} (h : env.Allowed m (.ended ending)) (hl : l.Fits m) :
    (l.record (.ended ending)).Fits (env.next m (.ended ending)) := by
  -- a kernel that ends is the one that began last, so its requests stand first
  have hpending : m.pending ≠ [] := by cases ending <;> exact h.1
  obtain ⟨cast, running, completed⟩ := l
  obtain ⟨hcast, hrunning, heffects⟩ := hl
  simp only [Ledger.effects] at hcast hrunning heffects
  subst hcast
  cases running with
  | nil => exact absurd hrunning.symm hpending
  | cons first running =>
    have htail : running.map Prod.snd = m.pending.tail := by rw [← hrunning]; rfl
    have hhead : m.pending.headD [] = first.2 := by rw [← hrunning]; rfl
    cases ending with
    | settled =>
      refine ⟨?_, htail, ?_⟩
      · simp only [Ledger.record, next, hhead, Narrative.length_foldl_apply]
      · simp only [Ledger.record, Ledger.effects, next, hhead, Narrative.effects_foldl_apply,
          List.flatMap_append, heffects, List.flatMap_singleton, Dispatch.contribution]
    | refused =>
      refine ⟨rfl, htail, ?_⟩
      simp [Ledger.record, Ledger.effects, next, heffects, Dispatch.contribution]
    | stopped =>
      refine ⟨rfl, htail, ?_⟩
      simp [Ledger.record, Ledger.effects, next, heffects, Dispatch.contribution]

/-- An event that says the same in the ledger as it does to the moment. -/
theorem fits_next {event : Event} (h : env.Allowed m event) (hl : l.Fits m) :
    (l.record event).Fits (env.next m event) := by
  cases event with
  | ended ending => exact ended_fits h hl
  | began kernel => exact ⟨hl.cast, congrArg ([] :: ·) hl.running, hl.effects⟩
  | requested effect =>
    refine ⟨hl.cast, ?_, hl.effects⟩
    simp only [Ledger.record, next, ← hl.running]
    cases l.running <;> rfl
  | declared name traits =>
    simp only [next, Run.declare, Narrative.declare_eq_some h.2.2]
    exact ⟨by simp [Ledger.record, hl.cast], hl.running, hl.effects⟩
  | crossed error =>
    have hstory := m.run.sameStory_cross error
    refine ⟨?_, hl.running, ?_⟩
    · exact hl.cast.trans (by rw [next, hstory])
    · exact hl.effects.trans (by rw [next, hstory])
  | filled category slots =>
    have hstory : m.run.narrative.SameStory (env.fillTemplate category slots m.run).2.narrative :=
      sameStory_fillTemplate category slots m.run
    refine ⟨?_, hl.running, ?_⟩
    · exact hl.cast.trans (by rw [next, hstory])
    · exact hl.effects.trans (by rw [next, hstory])
  | emitted fragment =>
    simp only [next, Run.emit, Narrative.emit]
    split <;> exact ⟨hl.cast, hl.running, hl.effects⟩
  | _ => exact ⟨hl.cast, hl.running, hl.effects⟩

theorem Course.fits (h : env.Course m history m') (hl : l.Fits m) :
    (history.foldl Ledger.record l).Fits m' := by
  induction h generalizing l with
  | done => exact hl
  | step hallowed _ ih => exact ih (fits_next hallowed hl)

/-- At every moment of statements that are told from the beginning, the effects that took place
are what the kernels which succeeded so far asked for: kernel after kernel in the order in which
they ended, each in the order of its requests, without what is about a character that was unknown
then. Exactly that is ignored when it is applied. What took place stays. -/
theorem effects_eq_contributions (env : Environment) (statements : List Expr) (seed : UInt64)
    (clamp : Clamp) :
    let start := Run.start (.start seed clamp)
    let history := env.history statements start
    let moment (i : Nat) := (env.replay (.outside start) (history.take i)).run.narrative
    let ledger (i : Nat) := Ledger.ofHistory (history.take i)
    env.Course (.outside start) history (.outside ((env.tell statements).outcome start).2) ∧
    (∀ i, (moment i).effects = (ledger i).completed.flatMap Dispatch.contribution) ∧
    (∀ i, (ledger i).cast = (moment i).characters.length) ∧
    (∀ (n : Narrative) (effect : Effect),
      Narrative.takesPlace n.characters.length effect = false ↔ n.apply effect = n) ∧
    ∀ i j, i ≤ j → (moment i).effects <+: (moment j).effects := by
  intro start history moment ledger
  have hcourse : env.Course (.outside start) history
      (.outside ((env.tell statements).outcome start).2) := tell_course statements rfl
  have hfits (i : Nat) : (ledger i).Fits (env.replay (.outside start) (history.take i)) :=
    (hcourse.take i).fits ⟨rfl, rfl, rfl⟩
  refine ⟨hcourse, fun i => (hfits i).effects.symm, fun i => (hfits i).cast,
    fun _ _ => Narrative.not_takesPlace_iff, fun i j hij => ?_⟩
  have hafter := ((hcourse.take j).drop i).grows
  rw [List.take_take, Nat.min_eq_left hij] at hafter
  exact hafter.effects

end Environment

end Storyweave.Evaluation
