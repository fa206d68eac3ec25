import Storyweave.Proofs.Evaluation.Balance

/-!
# Within the limits

A level that was refused stays counted, and a handler that saw the refusal may call again as often
as it likes. Results:
1. `Balanced.startsAreCounted`: a handler starts only behind a dispatch that was counted.
2. `Course.counted_le`, `Course.levels_eq`, `Course.levels_le`: what a history may count and open.
3. `starts_and_open_calls_within_limits`: so at every moment of a story no more handlers were
   started and no more calls are open than the limits say.
-/

namespace Storyweave.Evaluation

open Storyweave.Story Storyweave.Kernel Storyweave.Language

namespace Event

/-- Whether a call was entered. -/
def enters : Event → Bool
  | .opened => true
  | _ => false

/-- Whether a call that was entered was left again. -/
def leaves : Event → Bool
  | .closed => true
  | _ => false

/-- Whether a dispatch was counted. -/
def counts : Event → Bool
  | .counted => true
  | _ => false

/-- Whether a handler was started. -/
def starts : Event → Bool
  | .began _ => true
  | _ => false

end Event

/-- How many calls were entered. -/
def entered (history : History) : Nat := history.countP Event.enters

/-- How many calls were left again. -/
def left (history : History) : Nat := history.countP Event.leaves

/-- How many dispatches were counted. -/
def counted (history : History) : Nat := history.countP Event.counts

/-- How many handlers were started. -/
def started (history : History) : Nat := history.countP Event.starts

/-! ## Starts and counts -/

/-- At no time more handlers were started than dispatches were counted. -/
def StartsAreCounted (history : History) : Prop :=
  ∀ i, started (history.take i) ≤ counted (history.take i)

namespace StartsAreCounted

theorem nil : StartsAreCounted [] := fun i => by rw [List.take_nil]; exact Nat.le_refl 0

theorem append {first rest : History} (hfirst : StartsAreCounted first)
    (hrest : StartsAreCounted rest) : StartsAreCounted (first ++ rest) := by
  intro i
  rw [List.take_append, started, counted, List.countP_append, List.countP_append]
  exact Nat.add_le_add (hfirst i) (hrest (i - first.length))

theorem single {event : Event} (h : event.starts = false) : StartsAreCounted [event] := by
  intro i
  cases i with
  | zero => exact Nat.le_refl 0
  | succ i => simp [started, h]

theorem start (kernel : String) : StartsAreCounted [.counted, .began kernel] := by
  intro i
  match i with
  | 0 => exact Nat.le_refl 0
  | 1 => exact Nat.zero_le 1
  | i + 2 => rw [List.take_of_length_le (Nat.le_add_left 2 i)]; exact Nat.le_refl 1

end StartsAreCounted

/-- A handler starts only behind a dispatch that was counted. -/
theorem Balanced.startsAreCounted {history : History} (h : Balanced history) :
    StartsAreCounted history := by
  induction h with
  | nil => exact .nil
  | @single event hplain =>
    refine .single ?_
    cases event <;> first | rfl | cases hplain
  | append _ _ hfirst hrest => exact hfirst.append hrest
  | call _ ih => exact ((StartsAreCounted.single rfl).append ih).append (.single rfl)
  | unknown kernel => exact (StartsAreCounted.single rfl).append (.single rfl)
  | dispatch kernel ending _ ih =>
    exact ((StartsAreCounted.start kernel).append ih).append (.single rfl)

/-! ## What a history may count and open -/

theorem Run.calls_le_cross (run : Run) (error : LimitError) :
    run.calls ≤ (run.cross error).calls := by
  cases error <;> cases h : run.exceeded <;> simp [Run.cross, Run.exceed, Run.diagnose, h]

namespace Environment

variable {env : Environment} {m m' : Moment} {event : Event} {history : History}

/-- A dispatch that is counted is one less that is left, and none is ever given back. -/
theorem calls_next (m : Moment) (event : Event) :
    m.run.calls + (if event.counts then 1 else 0) ≤ (env.next m event).run.calls := by
  cases event with
  | crossed error => exact m.run.calls_le_cross error
  | filled category slots => exact Nat.le_of_eq (calls_fillTemplate category slots m.run).symm
  | declared name traits => exact Nat.le_of_eq (m.run.calls_declare name traits).symm
  | ended ending => cases ending <;> exact Nat.le_refl _
  | _ => exact Nat.le_refl _

/-- A level is opened or closed by what says so, and by nothing else. -/
theorem levels_next (h : env.Allowed m event) :
    m.levels + (if event.enters then 1 else 0) =
      (env.next m event).levels + (if event.leaves then 1 else 0) := by
  cases event with
  | closed => exact (Nat.sub_add_cancel h).symm
  | ended ending => cases ending <;> rfl
  | _ => rfl

/-- A level is opened only as long as there is one left, however many were refused. -/
theorem levels_next_le (h : env.Allowed m event) (hm : m.levels ≤ env.limits.depth) :
    (env.next m event).levels ≤ env.limits.depth := by
  cases event with
  | opened => exact Nat.lt_of_le_of_lt (Nat.le_add_right _ _) h
  | closed => exact Nat.le_trans (Nat.sub_le _ _) hm
  | ended ending => cases ending <;> exact hm
  | _ => exact hm

namespace Course

/-- So many dispatches are counted at most as were left. -/
theorem counted_le (h : env.Course m history m') :
    counted history ≤ env.limits.calls - m.run.calls := by
  induction h with
  | done => exact Nat.zero_le _
  | @step m m' event rest hallowed _ ih =>
    have hnext : _ ≤ (env.next m event).run.calls := calls_next m event
    rw [counted, List.countP_cons, ← counted]
    by_cases hcounts : event.counts = true
    · have hleft : m.run.calls < env.limits.calls := by
        cases event <;> first | exact hallowed | cases hcounts
      rw [if_pos hcounts] at hnext ⊢
      omega
    · rw [if_neg hcounts] at hnext ⊢
      omega

/-- The levels that are open are those that were opened and not closed. -/
theorem levels_eq (h : env.Course m history m') :
    m.levels + entered history = m'.levels + left history := by
  induction h with
  | done => rfl
  | step hallowed _ ih =>
    have hnext := levels_next hallowed
    rw [entered, left, List.countP_cons, List.countP_cons, ← entered, ← left]
    omega

/-- No more levels are open than the limits say. -/
theorem levels_le (h : env.Course m history m') (hm : m.levels ≤ env.limits.depth) :
    m'.levels ≤ env.limits.depth :=
  h.invariant levels_next_le hm

end Course

/-- At every moment of statements that are told from the beginning, no more handlers were started
than there are dispatches in the limits, and the calls that were entered and not left, which are
the levels that are open, are no more than the limits say. This holds whatever handlers do with
the calls that they were refused. -/
theorem starts_and_open_calls_within_limits (env : Environment) (statements : List Expr)
    (seed : UInt64) (clamp : Clamp) :
    let start := Run.start (.start seed clamp)
    let history := env.history statements start
    let moment (i : Nat) := env.replay (.outside start) (history.take i)
    env.Course (.outside start) history (.outside ((env.tell statements).outcome start).2) ∧
    (∀ i, started (history.take i) ≤ env.limits.calls) ∧
    (∀ i, entered (history.take i) = left (history.take i) + (moment i).levels) ∧
    ∀ i, (moment i).levels ≤ env.limits.depth := by
  intro start history moment
  have hcourse : env.Course (.outside start) history
      (.outside ((env.tell statements).outcome start).2) := tell_course statements rfl
  refine ⟨hcourse, fun i => ?_, fun i => ?_, fun i => ?_⟩
  · have hstarted : started (history.take i) ≤ counted (history.take i) :=
      (history_balanced statements start).startsAreCounted i
    exact Nat.le_trans hstarted (hcourse.take i).counted_le
  · have hlevels : 0 + entered (history.take i) = (moment i).levels + left (history.take i) :=
      (hcourse.take i).levels_eq
    omega
  · exact (hcourse.take i).levels_le (Nat.zero_le _)

end Environment

end Storyweave.Evaluation
