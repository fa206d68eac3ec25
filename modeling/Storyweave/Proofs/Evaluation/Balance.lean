import Storyweave.Proofs.Evaluation.History

/-!
# The shape of a history

What is opened is closed again, and a kernel that begins is counted before and comes to its end,
whatever happens in between. `Balanced` says so as a grammar. Result: `history_balanced`: every
history of an evaluation is of this shape.
-/

namespace Storyweave.Evaluation

open Storyweave.Story Storyweave.Kernel Storyweave.Language

/-- Whether an event stands for itself. The others come in pairs. -/
def Event.plain : Event → Bool
  | .crossed _ | .drew | .filled _ _ | .requested _ | .recovered _ _ | .declared _ _
  | .emitted _ => true
  | .opened | .closed | .counted | .unknown _ | .began _ | .ended _ => false

/-- A history in which everything that begins comes to its end.

* `call`: what happens at a level that was opened for a call.
* `unknown`: the dispatch of a kernel that has no handler.
* `dispatch`: what happens in a handler. -/
inductive Balanced : History → Prop where
  | nil : Balanced []
  | single {event : Event} : event.plain = true → Balanced [event]
  | append {first rest : History} : Balanced first → Balanced rest → Balanced (first ++ rest)
  | call {inside : History} : Balanced inside → Balanced (.opened :: inside ++ [.closed])
  | unknown (kernel : String) : Balanced [.counted, .unknown kernel]
  | dispatch {inside : History} (kernel : String) (ending : Ending) :
      Balanced inside → Balanced (.counted :: .began kernel :: inside ++ [.ended ending])

namespace Balanced

theorem cons {event : Event} {rest : History} (h : event.plain = true) (hrest : Balanced rest) :
    Balanced (event :: rest) :=
  (single h).append hrest

theorem emitted (fragments : List Fragment) : Balanced (fragments.map .emitted) := by
  induction fragments with
  | nil => exact nil
  | cons first rest ih => exact ih.cons rfl

theorem followed {α : Type} {step : Step α} {first : Run → History} {rest : α → Run → History}
    (hfirst : ∀ run, Balanced (first run)) (hrest : ∀ value run, Balanced (rest value run))
    (run : Run) : Balanced (step.followed first rest run) := by
  unfold Step.followed
  rcases step.outcome run with ⟨error | value, later⟩
  · exact (hfirst run).append nil
  · exact (hfirst run).append (hrest value later)

end Balanced

/-- What happens in nested calls is balanced. -/
def AnswerBalanced (during : String → Args → Run → History) : Prop :=
  ∀ kernel args run, Balanced (during kernel args run)

namespace Environment

variable {env : Environment}

/-! ## Dispatches -/

section

variable {answer : Answer} {during : String → Args → Run → History}

theorem perform_balanced {α : Type} (room : Nat) (h : AnswerBalanced during) (action : Action α)
    (run : Run) : Balanced (env.performHistory room answer during action run) := by
  induction action generalizing run with
  | done result => exact .nil
  | look next ih => exact ih _ run
  | draw next ih => exact .cons rfl (ih _ _)
  | template category slots next ih => exact .cons rfl (ih _ _)
  | request effect next ih => exact .cons rfl (ih run)
  | call kernel args next ih => exact (h kernel args run).append (ih _ _)

theorem dispatchWith_balanced (room : Nat) (h : AnswerBalanced during) :
    AnswerBalanced (env.dispatchHistoryWith room answer during) := by
  intro kernel args run
  unfold dispatchHistoryWith
  by_cases hcalls : env.limits.calls < run.calls + 1
  · simp only [hcalls, if_true]
    exact .single rfl
  simp only [hcalls, if_false]
  cases env.registry.find? kernel with
  | none => exact .unknown kernel
  | some handler => exact .dispatch kernel _ (perform_balanced room h _ _)

theorem openLevel_balanced (room : Nat) (h : AnswerBalanced during) :
    AnswerBalanced (env.openLevelHistory room during) := by
  intro kernel args run
  unfold openLevelHistory
  split
  · exact .call (h kernel args run)
  · exact .single rfl

end

theorem below_balanced (room : Nat) : AnswerBalanced (env.belowHistory room) := by
  induction room with
  | zero => exact fun _ _ _ => .single rfl
  | succ room ih =>
    refine openLevel_balanced (room + 1) ?_
    rw [dispatchHistory_eq]
    exact dispatchWith_balanced room ih

theorem dispatch_balanced (room : Nat) : AnswerBalanced (env.dispatchHistory room) := by
  rw [dispatchHistory_eq]
  exact dispatchWith_balanced room (below_balanced room)

theorem recovering_balanced (room : Nat) (kernel : String) (args : Args) (run : Run) :
    Balanced (env.recoveringHistory room kernel args run) := by
  refine (dispatch_balanced room kernel args run).append ?_
  split
  · exact .single rfl
  · exact .nil

/-! ## Expressions and statements -/

theorem declare_balanced (room : Nat) (name : String) (traits : List String) (run : Run) :
    Balanced (env.declareHistory room name traits run) := by
  unfold declareHistory
  split
  · exact .single rfl
  · refine .cons rfl ?_
    split
    · exact .followed (recovering_balanced room _ _) (fun _ _ => .single rfl) _
    · exact .nil

theorem dilute_balanced (head : Option String) (amount : Value) :
    Balanced (diluteHistory head amount) := by
  unfold diluteHistory
  split
  · exact .nil
  · exact .single rfl

theorem inside_balanced (room : Nat) (kernel : String) (positional : List Expr)
    (keywords : List (String × Expr)) {first second : Run → History}
    (hfirst : ∀ run, Balanced (first run)) (hsecond : ∀ run, Balanced (second run)) (run : Run) :
    Balanced (env.insideHistory room kernel positional keywords first second run) := by
  unfold insideHistory
  cases declaredTraits? positional with
  | some traits => exact declare_balanced room kernel traits run
  | none =>
    exact .followed hfirst
      (fun _ => .followed hsecond fun _ => recovering_balanced room kernel _) run

mutual

theorem evaluate_balanced (room : Nat) :
    ∀ (e : Expr) (run : Run), Balanced (env.evaluateHistory room e run)
  | .name _, _ => .nil
  | .text _, _ => .nil
  | .number _, _ => .nil
  | .list items, run => evaluateAll_balanced room items run
  | .binary .compose left right, run =>
    .followed (evaluate_balanced room left) (fun _ => evaluate_balanced room right) run
  | .binary .dilute left right, run =>
    .followed (evaluate_balanced room left)
      (fun _ => .followed (evaluate_balanced room right) fun amount _ => dilute_balanced _ amount)
      run
  | .call kernel positional keywords, run => by
    unfold evaluateHistory
    split
    · exact .call (inside_balanced (room - 1) kernel positional keywords
        (evaluateAll_balanced (room - 1) positional)
        (evaluateKeywords_balanced (room - 1) keywords) run)
    · exact .single rfl

theorem evaluateAll_balanced (room : Nat) :
    ∀ (items : List Expr) (run : Run), Balanced (env.allHistory room items run)
  | [], _ => .nil
  | first :: rest, run =>
    .followed (evaluate_balanced room first) (fun _ => evaluateAll_balanced room rest) run

theorem evaluateKeywords_balanced (room : Nat) :
    ∀ (keywords : List (String × Expr)) (run : Run),
      Balanced (env.keywordsHistory room keywords run)
  | [], _ => .nil
  | (_, first) :: rest, run =>
    .followed (evaluate_balanced room first) (fun _ => evaluateKeywords_balanced room rest) run

end

/-- Everything that begins while statements are told comes to its end. -/
theorem history_balanced (statements : List Expr) (run : Run) :
    Balanced (env.history statements run) := by
  induction statements generalizing run with
  | nil => exact .nil
  | cons statement rest ih =>
    exact .followed (evaluate_balanced env.limits.depth statement)
      (fun (value : Value) _ => (Balanced.emitted value.generated).append (ih _)) run

end Environment

end Storyweave.Evaluation
