import Storyweave.Evaluation.Evaluate

/-!
# The moments of an evaluation

An evaluation is a sequence of events: a level is opened, a kernel begins, it asks for an effect,
a fragment is added to the story. `Environment.Allowed` says what may happen at a moment, and
`Environment.next` which moment follows. Results:
1. `Course.exceeded_eq`: the first crossed bound is kept.
2. `Course.sameStory`: once a bound was crossed, the story stays as it is.
3. `Course.grows`: the logs of a story only grow at their ends, and so does its cast.
-/

namespace Storyweave

open Storyweave.Story Storyweave.Kernel Storyweave.Template

namespace Story.Narrative

/-- Two narratives are alike up to diagnostics and chance. -/
def SameStory (n m : Narrative) : Prop :=
  m = { n with diagnostics := m.diagnostics, chance := m.chance }

/-- The names of the characters in order of declaration. -/
def names (n : Narrative) : List String := n.characters.map Character.name

/-- A narrative goes on from another: nothing of its logs is lost. -/
structure Grows (n m : Narrative) : Prop where
  fragments : n.fragments <+: m.fragments
  effects : n.effects <+: m.effects
  names : n.names <+: m.names

theorem SameStory.refl (n : Narrative) : n.SameStory n := rfl

theorem SameStory.trans {n m k : Narrative} (h : n.SameStory m) (h' : m.SameStory k) :
    n.SameStory k := by
  unfold SameStory at *
  rw [h'] at *
  rw [h]

theorem SameStory.symm {n m : Narrative} (h : n.SameStory m) : m.SameStory n := by
  unfold SameStory
  rw [h]

theorem SameStory.grows {n m : Narrative} (h : n.SameStory m) : n.Grows m := by
  rw [h]
  exact ⟨List.prefix_rfl, List.prefix_rfl, List.prefix_rfl⟩

theorem Grows.refl (n : Narrative) : n.Grows n := (SameStory.refl n).grows

theorem Grows.trans {n m k : Narrative} (h : n.Grows m) (h' : m.Grows k) : n.Grows k :=
  ⟨h.fragments.trans h'.fragments, h.effects.trans h'.effects, h.names.trans h'.names⟩

/-- Whether an effect takes place where there are so many characters. -/
def takesPlace (cast : Nat) : Effect → Bool
  | .emotion id _ _ => decide (id < cast)
  | .focus _ => true
  | .object _ => true

theorem apply_of_not_takesPlace {n : Narrative} {effect : Effect}
    (h : takesPlace n.characters.length effect = false) : n.apply effect = n := by
  cases effect with
  | emotion id emotion delta =>
    have hnone : n.character id = none := by
      simpa [takesPlace, character] using h
    simp only [apply, hnone]
  | focus _ => cases h
  | object _ => cases h

theorem effects_apply (n : Narrative) (effect : Effect) :
    (n.apply effect).effects =
      n.effects ++ [effect].filter (takesPlace n.characters.length) := by
  cases h : takesPlace n.characters.length effect with
  | false => simp [apply_of_not_takesPlace h, h]
  | true =>
    cases effect with
    | emotion id emotion delta =>
      have hid : id < n.characters.length := by simpa [takesPlace] using h
      simp [apply, character, List.getElem?_eq_getElem hid, h]
    | focus _ => simp [apply, h]
    | object _ => simp [apply, h]

/-- Exactly the effects that do not take place are ignored. -/
theorem not_takesPlace_iff {n : Narrative} {effect : Effect} :
    takesPlace n.characters.length effect = false ↔ n.apply effect = n := by
  refine ⟨apply_of_not_takesPlace, fun h => ?_⟩
  cases htakes : takesPlace n.characters.length effect with
  | false => rfl
  | true =>
    have heffects := effects_apply n effect
    simp [h, htakes] at heffects

theorem names_apply (n : Narrative) (effect : Effect) : (n.apply effect).names = n.names := by
  cases effect with
  | emotion id emotion delta =>
    cases h : n.character id with
    | none => simp only [apply, h]
    | some c =>
      simp only [apply, h, names]
      apply List.ext_getElem?
      intro i
      simp only [List.getElem?_map, List.getElem?_modify]
      split <;> cases n.characters[i]? <;> rfl
  | focus _ => rfl
  | object _ => rfl

/-- No effect gives a name to a character. -/
theorem byName_apply (n : Narrative) (effect : Effect) : (n.apply effect).byName = n.byName := by
  cases effect with
  | emotion id emotion delta =>
    unfold apply
    cases h : n.character id <;> simp only [h]
  | focus _ => rfl
  | object _ => rfl

theorem byName_foldl_apply (effects : List Effect) (n : Narrative) :
    (effects.foldl apply n).byName = n.byName := by
  induction effects generalizing n with
  | nil => rfl
  | cons effect rest ih => rw [List.foldl_cons, ih, byName_apply]

theorem length_names (n : Narrative) : n.names.length = n.characters.length :=
  List.length_map _

theorem length_apply (n : Narrative) (effect : Effect) :
    (n.apply effect).characters.length = n.characters.length := by
  rw [← length_names, names_apply, length_names]

theorem names_foldl_apply (effects : List Effect) (n : Narrative) :
    (effects.foldl apply n).names = n.names := by
  induction effects generalizing n with
  | nil => rfl
  | cons effect rest ih => rw [List.foldl_cons, ih, names_apply]

theorem length_foldl_apply (effects : List Effect) (n : Narrative) :
    (effects.foldl apply n).characters.length = n.characters.length := by
  rw [← length_names, names_foldl_apply, length_names]

theorem fragments_apply (n : Narrative) (effect : Effect) :
    (n.apply effect).fragments = n.fragments := by
  cases effect with
  | emotion id emotion delta =>
    unfold apply
    cases h : n.character id <;> simp only [h]
  | focus _ => rfl
  | object _ => rfl

theorem fragments_foldl_apply (effects : List Effect) (n : Narrative) :
    (effects.foldl apply n).fragments = n.fragments := by
  induction effects generalizing n with
  | nil => rfl
  | cons effect rest ih => rw [List.foldl_cons, ih, fragments_apply]

/-- Of some effects, those take place that are not about an unknown character. No effect makes a
character known. -/
theorem effects_foldl_apply (effects : List Effect) (n : Narrative) :
    (effects.foldl apply n).effects =
      n.effects ++ effects.filter (takesPlace n.characters.length) := by
  induction effects generalizing n with
  | nil => simp
  | cons effect rest ih =>
    rw [List.foldl_cons, ih, effects_apply, length_apply, List.append_assoc, ← List.filter_append]
    rfl

/-- The effects that are ignored may as well be left out. -/
theorem foldl_apply_filter (effects : List Effect) (n : Narrative) :
    (effects.filter (takesPlace n.characters.length)).foldl apply n = effects.foldl apply n := by
  induction effects generalizing n with
  | nil => rfl
  | cons effect rest ih =>
    have hrest := ih (n.apply effect)
    rw [length_apply] at hrest
    cases htakes : takesPlace n.characters.length effect with
    | true => rw [List.filter_cons_of_pos htakes, List.foldl_cons, List.foldl_cons, hrest]
    | false =>
      rw [List.filter_cons_of_neg (by simp [htakes]), List.foldl_cons, ← hrest,
        apply_of_not_takesPlace htakes]

theorem grows_foldl_apply (effects : List Effect) (n : Narrative) :
    n.Grows (effects.foldl apply n) where
  fragments := (fragments_foldl_apply effects n).symm ▸ List.prefix_rfl
  effects := (effects_foldl_apply effects n).symm ▸ List.prefix_append _ _
  names := (names_foldl_apply effects n).symm ▸ List.prefix_rfl

theorem grows_emit (n : Narrative) (f : Fragment) : n.Grows (n.emit f) := by
  unfold emit
  split
  · exact .refl n
  · exact ⟨List.prefix_append _ _, List.prefix_rfl, List.prefix_rfl⟩

/-- A new name declares a character, which comes last and is found by that name. -/
theorem declare_eq_some {n : Narrative} {name : String} (h : n.lookup name = none)
    (traits : List String) : n.declare name traits = some (n.characters.length,
      { n with
        characters := n.characters ++ [.declare n.characters.length name traits]
        byName := n.byName.insert name n.characters.length }) := by
  rw [declare, if_neg]
  rw [Catalogue.contains, ← lookup, h]
  exact Bool.false_ne_true

/-- A name that is taken declares nothing. -/
theorem declare_eq_none {n : Narrative} {name : String} {id : CharacterId}
    (h : n.lookup name = some id) (traits : List String) : n.declare name traits = none := by
  rw [declare, if_pos]
  rw [Catalogue.contains, ← lookup, h, Option.isSome_some]

end Story.Narrative

namespace Evaluation

/-! ## Events -/

/-- How a kernel ended. -/
inductive Ending where
  /-- It had a result, and its effects took place. -/
  | settled
  /-- It did not accept its arguments. -/
  | refused
  /-- A bound had been crossed by then. -/
  | stopped
deriving DecidableEq, Repr

/-- What can happen in an evaluation. -/
inductive Event where
  /-- A level was opened for a call. -/
  | opened
  | closed
  /-- A dispatch was counted. -/
  | counted
  /-- A bound kept a level from being opened or a dispatch from taking place. -/
  | crossed (error : LimitError)
  /-- There is no handler for the dispatched kernel. -/
  | unknown (kernel : String)
  /-- The handler of a kernel began. -/
  | began (kernel : String)
  /-- The handler drew a random word. -/
  | drew
  /-- The handler filled a template. -/
  | filled (category : String) (slots : Slots)
  /-- The handler asked for an effect. -/
  | requested (effect : Effect)
  /-- The handler that began last came to its end. -/
  | ended (ending : Ending)
  /-- A fault was recorded and replaced by fallback text. -/
  | recovered (subject message : String)
  /-- A character was declared, and the story turned to it. -/
  | declared (name : String) (traits : List String)
  /-- A fragment was added to the story. -/
  | emitted (fragment : Fragment)

/-- Events in order. -/
abbrev History := List Event

/-- The bound that an event crosses. -/
def Event.crossing : Event → Option LimitError
  | .crossed error => some error
  | _ => none

/-- The bound that was crossed first. -/
def firstCrossing (history : History) : Option LimitError := history.findSome? Event.crossing

/-! ## Moments -/

/-- A moment between two events. -/
structure Moment where
  run : Run
  /-- How many levels are open. -/
  levels : Nat
  /-- What the running kernels asked for so far, the kernel that began last first. -/
  pending : List (List Effect)

/-- A moment outside all calls. -/
def Moment.outside (run : Run) : Moment := ⟨run, 0, []⟩

/-- The state after a bound kept a level or a dispatch from it. Both stay counted. -/
def Run.cross (run : Run) : LimitError → Run
  | .depth limit =>
    ({ run with refusedLevels := run.refusedLevels + 1 }.exceed (.depth limit)).2
  | .calls limit => ({ run with calls := run.calls + 1 }.exceed (.calls limit)).2

/-- The fault that a kernel without handler is. -/
def Run.diagnoseUnknown (run : Run) (kernel : String) : Run :=
  run.diagnose .unknownKernel (some kernel) ("no kernel registered as '" ++ kernel ++ "'")

/-- The state after a character was declared. -/
def Run.declare (run : Run) (name : String) (traits : List String) : Run :=
  match run.narrative.declare name traits with
  | none => run
  | some (id, narrative) => { run with narrative := { narrative with focus := some id } }

namespace Environment

variable (env : Environment)

/-- What may happen at a moment. Only a running handler asks for anything, and what changes the
story happens only as long as no bound was crossed. -/
def Allowed (m : Moment) : Event → Prop
  | .opened => m.levels + m.run.refusedLevels < env.limits.depth
  | .closed => 0 < m.levels
  | .counted => m.run.calls < env.limits.calls
  | .crossed (.depth limit) =>
    limit = env.limits.depth ∧ env.limits.depth ≤ m.levels + m.run.refusedLevels
  | .crossed (.calls limit) => limit = env.limits.calls ∧ env.limits.calls ≤ m.run.calls
  | .unknown kernel => env.registry.find? kernel = none
  | .began kernel => (env.registry.find? kernel).isSome
  | .drew => m.pending ≠ []
  | .filled _ _ => m.pending ≠ []
  | .requested _ => m.pending ≠ []
  | .ended .stopped => m.pending ≠ [] ∧ m.run.exceeded ≠ none
  | .ended _ => m.pending ≠ [] ∧ m.run.exceeded = none
  | .recovered _ _ => m.pending = [] ∧ m.run.exceeded = none
  | .declared name _ =>
    m.pending = [] ∧ m.run.exceeded = none ∧ m.run.narrative.lookup name = none
  | .emitted _ => m.pending = [] ∧ m.run.exceeded = none

/-- The moment behind an event. -/
def next (m : Moment) : Event → Moment
  | .opened => { m with levels := m.levels + 1 }
  | .closed => { m with levels := m.levels - 1 }
  | .counted => { m with run := { m.run with calls := m.run.calls + 1 } }
  | .crossed error => { m with run := m.run.cross error }
  | .unknown kernel => { m with run := m.run.diagnoseUnknown kernel }
  | .began _ => { m with pending := [] :: m.pending }
  | .drew => { m with run := { m.run with narrative := m.run.narrative.draw.2 } }
  | .filled category slots => { m with run := (env.fillTemplate category slots m.run).2 }
  | .requested effect => { m with pending := m.pending.modifyHead (· ++ [effect]) }
  | .ended .settled =>
    { m with
      run := { m.run with
        narrative := (m.pending.headD []).foldl Narrative.apply m.run.narrative }
      pending := m.pending.tail }
  | .ended _ => { m with pending := m.pending.tail }
  | .recovered subject message =>
    { m with run := m.run.diagnose .invalidArgumentShape (some subject) message }
  | .declared name traits => { m with run := m.run.declare name traits }
  | .emitted fragment => { m with run := m.run.emit fragment }

/-- The moment behind a history. -/
def replay (m : Moment) (history : History) : Moment := history.foldl env.next m

/-- A history leads from a moment to another one, and each of its events may happen when it
does. -/
inductive Course : Moment → History → Moment → Prop where
  | done (m : Moment) : Course m [] m
  | step {m m' : Moment} {event : Event} {rest : History} :
      env.Allowed m event → Course (env.next m event) rest m' → Course m (event :: rest) m'

end Environment

/-! ## What one event does -/

theorem Run.exceeded_cross (run : Run) (error : LimitError) :
    (run.cross error).exceeded = run.exceeded.or (some error) := by
  cases error <;> cases h : run.exceeded <;> simp [Run.cross, Run.exceed, Run.diagnose, h]

theorem Run.sameStory_cross (run : Run) (error : LimitError) :
    run.narrative.SameStory (run.cross error).narrative := by
  cases error <;> cases h : run.exceeded <;>
    simp only [Run.cross, Run.exceed, Run.diagnose, h] <;> rfl

theorem Run.refusedLevels_declare (run : Run) (name : String) (traits : List String) :
    (run.declare name traits).refusedLevels = run.refusedLevels := by
  unfold Run.declare
  split <;> rfl

theorem Run.calls_declare (run : Run) (name : String) (traits : List String) :
    (run.declare name traits).calls = run.calls := by
  unfold Run.declare
  split <;> rfl

theorem Run.exceeded_declare (run : Run) (name : String) (traits : List String) :
    (run.declare name traits).exceeded = run.exceeded := by
  unfold Run.declare
  split <;> rfl

namespace Environment

variable {env : Environment} {m m₁ m₂ m' : Moment} {history history₁ history₂ : History}

theorem exceeded_fillTemplate (category : String) (slots : Slots) (run : Run) :
    (env.fillTemplate category slots run).2.exceeded = run.exceeded := by
  unfold fillTemplate
  split <;> rfl

theorem refusedLevels_fillTemplate (category : String) (slots : Slots) (run : Run) :
    (env.fillTemplate category slots run).2.refusedLevels = run.refusedLevels := by
  unfold fillTemplate
  split <;> rfl

theorem calls_fillTemplate (category : String) (slots : Slots) (run : Run) :
    (env.fillTemplate category slots run).2.calls = run.calls := by
  unfold fillTemplate
  split <;> rfl

theorem sameStory_fillTemplate (category : String) (slots : Slots) (run : Run) :
    run.narrative.SameStory (env.fillTemplate category slots run).2.narrative := by
  unfold fillTemplate
  split <;> rfl

/-- Only a crossed bound is recorded as one, and the first one stays. -/
theorem exceeded_next (m : Moment) (event : Event) :
    (env.next m event).run.exceeded = m.run.exceeded.or event.crossing := by
  cases event with
  | crossed error => exact m.run.exceeded_cross error
  | filled category slots =>
    exact (exceeded_fillTemplate category slots m.run).trans (Option.or_none).symm
  | declared name traits => exact (m.run.exceeded_declare name traits).trans (Option.or_none).symm
  | ended ending => cases ending <;> exact (Option.or_none).symm
  | _ => exact (Option.or_none).symm

theorem refusedLevels_next {event : Event} (m : Moment) (h : event.crossing = none) :
    (env.next m event).run.refusedLevels = m.run.refusedLevels := by
  cases event with
  | crossed error => cases h
  | filled category slots => exact refusedLevels_fillTemplate category slots m.run
  | declared name traits => exact m.run.refusedLevels_declare name traits
  | ended ending => cases ending <;> rfl
  | _ => rfl

theorem sameStory_next {event : Event} (h : env.Allowed m event)
    (hcrossed : m.run.exceeded ≠ none) :
    m.run.narrative.SameStory (env.next m event).run.narrative := by
  cases event with
  | crossed error => exact m.run.sameStory_cross error
  | filled category slots => exact sameStory_fillTemplate category slots m.run
  | declared name traits => exact absurd h.2.1 hcrossed
  | emitted fragment => exact absurd h.2 hcrossed
  | ended ending =>
    cases ending with
    | settled => exact absurd h.2 hcrossed
    | refused => rfl
    | stopped => rfl
  | _ => rfl

theorem grows_next {event : Event} (h : env.Allowed m event) :
    m.run.narrative.Grows (env.next m event).run.narrative := by
  cases event with
  | crossed error => exact (m.run.sameStory_cross error).grows
  | filled category slots => exact (sameStory_fillTemplate category slots m.run).grows
  | declared name traits =>
    simp only [next, Run.declare, Narrative.declare_eq_some h.2.2]
    exact ⟨List.prefix_rfl, List.prefix_rfl, by simp [Narrative.names]⟩
  | emitted fragment => exact Narrative.grows_emit _ fragment
  | ended ending =>
    cases ending with
    | settled => exact Narrative.grows_foldl_apply _ _
    | refused => exact .refl _
    | stopped => exact .refl _
  | _ => exact Narrative.SameStory.grows rfl

end Environment

/-! ## What a history does -/

namespace Environment.Course

variable {env : Environment} {m m₁ m₂ m' : Moment} {history history₁ history₂ : History}

theorem single {event : Event} (h : env.Allowed m event) :
    env.Course m [event] (env.next m event) :=
  .step h (.done _)

theorem append (h₁ : env.Course m history₁ m₁) (h₂ : env.Course m₁ history₂ m₂) :
    env.Course m (history₁ ++ history₂) m₂ := by
  induction h₁ with
  | done => exact h₂
  | step hallowed _ ih => exact .step hallowed (ih h₂)

/-- A history leads from a moment to one moment only. -/
theorem replay_eq (h : env.Course m history m') : env.replay m history = m' := by
  induction h with
  | done => rfl
  | step _ _ ih => exact ih

/-- What every event that may happen keeps, a history keeps. -/
theorem invariant {P : Moment → Prop}
    (hnext : ∀ {m : Moment} {event : Event}, env.Allowed m event → P m → P (env.next m event))
    (h : env.Course m history m') (hm : P m) : P m' := by
  induction h with
  | done => exact hm
  | step hallowed _ ih => exact ih (hnext hallowed hm)

/-- A history can be cut anywhere. -/
theorem exists_between (h : env.Course m (history₁ ++ history₂) m') :
    ∃ m₁, env.Course m history₁ m₁ ∧ env.Course m₁ history₂ m' := by
  induction history₁ generalizing m with
  | nil => exact ⟨m, .done m, h⟩
  | cons event rest ih =>
    cases h with
    | step hallowed hrest =>
      obtain ⟨m₁, hfirst, hsecond⟩ := ih hrest
      exact ⟨m₁, .step hallowed hfirst, hsecond⟩

theorem take (h : env.Course m history m') (i : Nat) :
    env.Course m (history.take i) (env.replay m (history.take i)) := by
  induction h generalizing i with
  | done => rw [List.take_nil]; exact .done _
  | step hallowed _ ih =>
    cases i with
    | zero => exact .done _
    | succ i => exact .step hallowed (ih i)

theorem drop (h : env.Course m history m') (i : Nat) :
    env.Course (env.replay m (history.take i)) (history.drop i) m' := by
  induction h generalizing i with
  | done => rw [List.take_nil, List.drop_nil]; exact .done _
  | step hallowed hrest ih =>
    cases i with
    | zero => exact .step hallowed hrest
    | succ i => exact ih i

/-- What happens between two moments of a history. -/
theorem between (h : env.Course m history m') {i j : Nat} (hij : i ≤ j) :
    env.Course (env.replay m (history.take i)) ((history.take j).drop i)
      (env.replay m (history.take j)) := by
  have hdrop := (h.take j).drop i
  rw [List.take_take, Nat.min_eq_left hij] at hdrop
  exact hdrop

/-- The first crossed bound is kept. -/
theorem exceeded_eq (h : env.Course m history m') :
    m'.run.exceeded = m.run.exceeded.or (firstCrossing history) := by
  induction h with
  | done => exact (Option.or_none).symm
  | @step m m' event rest _ _ ih =>
    rw [ih, exceeded_next, Option.or_assoc, firstCrossing, firstCrossing, List.findSome?_cons]
    cases event.crossing <;> rfl

/-- Once a bound was crossed, it stays crossed and the story stays as it is. -/
theorem sameStory (h : env.Course m history m') (hcrossed : m.run.exceeded ≠ none) :
    m.run.narrative.SameStory m'.run.narrative := by
  induction h with
  | done => exact .refl _
  | step hallowed _ ih =>
    -- no event takes a crossing back, so the next one also finds a bound crossed
    refine (sameStory_next hallowed hcrossed).trans (ih ?_)
    obtain ⟨first, hfirst⟩ := Option.ne_none_iff_exists'.1 hcrossed
    rw [exceeded_next, hfirst, Option.some_or]
    exact Option.some_ne_none first

/-- The logs of a story only grow at their ends. -/
theorem grows (h : env.Course m history m') : m.run.narrative.Grows m'.run.narrative := by
  induction h with
  | done => exact .refl _
  | step hallowed _ ih => exact (grows_next hallowed).trans ih

/-- As long as no bound is crossed, no level is refused. -/
theorem refusedLevels_eq (h : env.Course m history m') (hexceeded : m'.run.exceeded = none) :
    m'.run.refusedLevels = m.run.refusedLevels := by
  induction h with
  | done => rfl
  | @step m m' event rest _ hrest ih =>
    have hbehind : (env.next m event).run.exceeded = none := by
      rw [hrest.exceeded_eq, Option.or_eq_none_iff] at hexceeded
      exact hexceeded.1
    rw [exceeded_next, Option.or_eq_none_iff] at hbehind
    rw [ih hexceeded, refusedLevels_next m hbehind.2]

end Environment.Course

end Evaluation

end Storyweave
