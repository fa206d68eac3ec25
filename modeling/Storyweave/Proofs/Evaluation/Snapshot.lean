import Storyweave.Proofs.Evaluation.Balance
import Storyweave.Proofs.Evaluation.Ledger
import Storyweave.Proofs.Story.Effects

/-!
# What a handler sees

A handler looks at the scene as it is, not as it was when the handler began. What it asks for
itself takes no place before it ends, but the calls inside it end before. Results:
1. `Balanced.advances`: what happens inside a handler changes the story by the effects of the
   dispatches that end there, and by nothing else.
2. `mem_looks`: so a look shows the scene at the beginning of the handler after these effects.
3. `look_unchanged_iff`: it shows the scene at the beginning exactly if these effects leave it as
   it is; `nested_call_changes_look`: this need not be so.
-/

namespace Storyweave

open Storyweave.Story Storyweave.Kernel Storyweave.Language

/-- Two scenes show the same of the story. -/
structure Kernel.Scene.SameReads (s t : Scene) : Prop where
  focus : s.focus = t.focus
  object : s.object = t.object
  character : ∀ id, s.character id = t.character id

namespace Evaluation

/-! ## Looks -/

/-- A look at the scene in an action. -/
structure Look where
  /-- What happened in the action before. -/
  before : History
  scene : Scene

/-- A look before which more happened. -/
def Look.behind (first : History) (look : Look) : Look := ⟨first ++ look.before, look.scene⟩

/-- The scenes that an action is shown, in order. As in a history, nested calls are answered by
`answer`, and `during` is what happens in these. -/
def Environment.looks (env : Environment) {α : Type} (room : Nat) (answer : Answer)
    (during : String → Args → Run → History) : Action α → Run → List Look
  | .done _, _ => []
  | .look next, run =>
    let scene := env.scene room run
    ⟨[], scene⟩ :: env.looks room answer during (next scene) run
  | .draw next, run =>
    let (word, narrative) := run.narrative.draw
    (env.looks room answer during (next word) { run with narrative }).map (.behind [.drew])
  | .template category slots next, run =>
    let (text, later) := env.fillTemplate category slots run
    (env.looks room answer during (next text) later).map (.behind [.filled category slots])
  | .request effect next, run =>
    (env.looks room answer during next run).map (.behind [.requested effect])
  | .call kernel args next, run =>
    let (result, later) := answer kernel args run
    (env.looks room answer during (next result) later).map (.behind (during kernel args run))

/-- The effects that took place in a history, which begins where there are so many characters. -/
def effectsDuring (cast : Nat) (history : History) : List Effect :=
  (history.foldl Ledger.record ⟨cast, [], []⟩).effects

/-! ## What happens inside a handler -/

/-- A ledger and a moment that go on from others inside a handler. By `own` effects the handler
asked for more, and `done` are the dispatches that ended in between. -/
structure Advance (l : Ledger) (m : Moment) (own : List Effect) (done : List Dispatch)
    (l' : Ledger) (m' : Moment) : Prop where
  cast : l'.cast = l.cast
  running : l'.running = l.running.modifyHead fun (kernel, requests) => (kernel, requests ++ own)
  completed : l'.completed = l.completed ++ done
  pending : m'.pending = m.pending.modifyHead (· ++ own)
  seen : m.run.narrative.SeenAfter (done.flatMap Dispatch.contribution) m'.run.narrative

namespace Advance

variable {l l₁ l' : Ledger} {m m₁ m' : Moment} {own own' : List Effect} {done done' : List Dispatch}

theorem of_still (hledger : l' = l) (hpending : m'.pending = m.pending)
    (hstory : m.run.narrative.SameStory m'.run.narrative) : Advance l m [] [] l' m' where
  cast := by rw [hledger]
  running := by
    rw [hledger]
    cases l.running <;> simp
  completed := by rw [hledger, List.append_nil]
  pending := by
    rw [hpending]
    cases m.pending <;> simp
  seen := by
    rw [hstory]
    exact ⟨rfl, rfl, rfl, fun id => Option.map_id'.symm⟩

theorem trans (h : Advance l m own done l₁ m₁) (h' : Advance l₁ m₁ own' done' l' m') :
    Advance l m (own ++ own') (done ++ done') l' m' where
  cast := h'.cast.trans h.cast
  running := by
    rw [h'.running, h.running]
    cases l.running <;> simp
  completed := by rw [h'.completed, h.completed, List.append_assoc]
  pending := by
    rw [h'.pending, h.pending]
    cases m.pending <;> simp
  seen := by
    rw [List.flatMap_append]
    exact h.seen.trans h'.seen

theorem pending_ne_nil (h : Advance l m own done l' m') (hm : m.pending ≠ []) :
    m'.pending ≠ [] := by
  rw [h.pending]
  cases hpending : m.pending with
  | nil => exact absurd hpending hm
  | cons first rest => exact List.cons_ne_nil _ _

end Advance

namespace Environment

variable {env : Environment} {m m' : Moment} {l : Ledger} {history : History}

theorem next_advance {event : Event} (hplain : event.plain = true) (h : env.Allowed m event)
    (hm : m.pending ≠ []) : ∃ own, Advance l m own [] (l.record event) (env.next m event) := by
  cases event with
  | requested effect => exact ⟨[effect], rfl, rfl, (List.append_nil _).symm, rfl, .refl _⟩
  | crossed error => exact ⟨[], .of_still rfl rfl (m.run.sameStory_cross error)⟩
  | drew => exact ⟨[], .of_still rfl rfl rfl⟩
  | filled category slots =>
    exact ⟨[], .of_still rfl rfl (sameStory_fillTemplate category slots m.run)⟩
  -- what is left happens outside all handlers
  | recovered subject message => exact absurd h.1 hm
  | declared name traits => exact absurd h.1 hm
  | emitted fragment => exact absurd h.1 hm
  | _ => cases hplain

/-- A handler that ended inside another one. -/
theorem ended_advance {kernel : String} {ending : Ending} {own : List Effect}
    {done : List Dispatch} {l₁ : Ledger} {m₁ : Moment}
    (hcast : l.cast = m.run.narrative.characters.length)
    (h : Advance { l with running := (kernel, []) :: l.running }
      { m with pending := [] :: m.pending } own done l₁ m₁) :
    Advance l m [] (done ++ [⟨kernel, own, ending, l.cast⟩]) (l₁.record (.ended ending))
      (env.next m₁ (.ended ending)) := by
  have hrunning : l₁.running = (kernel, own) :: l.running := h.running
  have hpending : m₁.pending = own :: m.pending := h.pending
  have hlength : m₁.run.narrative.characters.length = l.cast :=
    h.seen.length_eq.trans hcast.symm
  have hcontribution : m₁.run.narrative.SeenAfter
      (Dispatch.contribution ⟨kernel, own, ending, l.cast⟩)
      (env.next m₁ (.ended ending)).run.narrative := by
    cases ending with
    | settled =>
      have happlied : (env.next m₁ (.ended .settled)).run.narrative =
          (own.filter (Narrative.takesPlace l.cast)).foldl Narrative.apply m₁.run.narrative := by
        rw [← hlength, Narrative.foldl_apply_filter, next, hpending]
        rfl
      rw [happlied]
      exact .foldl_apply _ _
    | refused => exact .refl _
    | stopped => exact .refl _
  refine ⟨?_, ?_, ?_, ?_, ?_⟩
  · rw [Ledger.record, hrunning]
    exact h.cast
  · rw [Ledger.record, hrunning]
    cases l.running <;> simp
  · rw [Ledger.record, hrunning, ← List.append_assoc, ← h.completed, ← h.cast]
  · have hnext : (env.next m₁ (.ended ending)).pending = m.pending := by
      cases ending <;> simp only [next, hpending, List.tail_cons]
    rw [hnext]
    cases m.pending <;> simp
  · rw [List.flatMap_append, List.flatMap_singleton]
    exact h.seen.trans hcontribution

end Environment

/-- What happens inside a handler changes the story by the effects of the dispatches that end
there, and by nothing else. -/
theorem Balanced.advances {env : Environment} {m m' : Moment} {l : Ledger} {history : History}
    (hbalanced : Balanced history) (h : env.Course m history m') (hm : m.pending ≠ [])
    (hcast : l.cast = m.run.narrative.characters.length) :
    ∃ own done, Advance l m own done (history.foldl Ledger.record l) m' := by
  induction hbalanced generalizing m m' l with
  | nil =>
    cases h
    exact ⟨[], [], .of_still rfl rfl rfl⟩
  | single hplain =>
    cases h with
    | step hallowed hrest =>
      cases hrest
      obtain ⟨own, hown⟩ := Environment.next_advance (l := l) hplain hallowed hm
      exact ⟨own, [], hown⟩
  | append _ _ hfirst hsecond =>
    obtain ⟨m₁, hm₁, hm'⟩ := h.exists_between
    obtain ⟨own, done, hadvance⟩ := hfirst hm₁ hm hcast
    obtain ⟨own', done', hadvance'⟩ := hsecond hm' (hadvance.pending_ne_nil hm)
      (hadvance.cast.trans (hcast.trans hadvance.seen.length_eq.symm))
    rw [List.foldl_append]
    exact ⟨_, _, hadvance.trans hadvance'⟩
  | @call inside _ ih =>
    obtain ⟨m₁, hinside, hclosed⟩ := h.exists_between
    cases hinside with
    | step _ hinside =>
      cases hclosed with
      | step _ hclosed =>
        cases hclosed
        obtain ⟨own, done, hadvance⟩ := ih hinside hm hcast
        rw [List.foldl_append]
        exact ⟨own, done, hadvance.cast, hadvance.running, hadvance.completed, hadvance.pending,
          hadvance.seen⟩
  | unknown kernel =>
    cases h with
    | step _ h =>
      cases h with
      | step _ h =>
        cases h
        exact ⟨[], [], .of_still rfl rfl rfl⟩
  | @dispatch inside kernel ending _ ih =>
    obtain ⟨m₁, hinside, hended⟩ := h.exists_between
    cases hinside with
    | step _ hinside =>
      cases hinside with
      | step _ hinside =>
        cases hended with
        | step _ hended =>
          cases hended
          -- inside, the kernel that begins here is the one that runs
          obtain ⟨own, done, hadvance⟩ :=
            ih (l := { l with running := (kernel, []) :: l.running }) hinside
              (List.cons_ne_nil _ _) hcast
          rw [List.foldl_append]
          exact ⟨[], _, Environment.ended_advance hcast ⟨hadvance.cast, hadvance.running,
            hadvance.completed, hadvance.pending, hadvance.seen⟩⟩

/-! ## What a look shows -/

namespace Environment

variable {env : Environment}

section

variable {room levels : Nat} {answer : Answer} {during : String → Args → Run → History}

/-- A look is at a moment of the action. -/
theorem looks_course {α : Type} (htraced : env.AnswerTraced levels answer during)
    (hbalanced : AnswerBalanced during) (action : Action α) (run : Run) (asked : List Effect)
    (pending : List (List Effect)) {look : Look}
    (hlook : look ∈ env.looks room answer during action run) :
    Balanced look.before ∧ ∃ m', env.Course ⟨run, levels, asked :: pending⟩ look.before m' ∧
      look.scene = env.scene room m'.run := by
  induction action generalizing run asked look with
  | done result => cases hlook
  | look next ih =>
    rcases List.mem_cons.1 hlook with rfl | hlook
    · exact ⟨.nil, _, .done _, rfl⟩
    · exact ih _ run asked hlook
  | draw next ih =>
    obtain ⟨inner, hinner, rfl⟩ := List.mem_map.1 hlook
    obtain ⟨hbefore, m', hcourse, hscene⟩ := ih _ _ asked hinner
    exact ⟨.cons rfl hbefore, m', .step (List.cons_ne_nil _ _) hcourse, hscene⟩
  | template category slots next ih =>
    obtain ⟨inner, hinner, rfl⟩ := List.mem_map.1 hlook
    obtain ⟨hbefore, m', hcourse, hscene⟩ := ih _ _ asked hinner
    exact ⟨.cons rfl hbefore, m', .step (List.cons_ne_nil _ _) hcourse, hscene⟩
  | request effect next ih =>
    obtain ⟨inner, hinner, rfl⟩ := List.mem_map.1 hlook
    obtain ⟨hbefore, m', hcourse, hscene⟩ := ih _ (asked ++ [effect]) hinner
    exact ⟨.cons rfl hbefore, m', .step (List.cons_ne_nil _ _) hcourse, hscene⟩
  | call kernel args next ih =>
    obtain ⟨inner, hinner, rfl⟩ := List.mem_map.1 hlook
    obtain ⟨hbefore, m', hcourse, hscene⟩ := ih _ _ asked hinner
    exact ⟨(hbalanced kernel args run).append hbefore, m',
      (htraced kernel args run _).append hcourse, hscene⟩

end

/-- A look shows the scene at the beginning after the effects of the dispatches that ended in
between. -/
theorem mem_looks {α : Type} {room : Nat} (hroom : room ≤ env.limits.depth) (action : Action α)
    (run : Run) {look : Look}
    (hlook : look ∈ env.looks room (env.below room) (env.belowHistory room) action run) :
    ∃ later : Run, look.scene = env.scene room later ∧ run.narrative.SeenAfter
      (effectsDuring run.narrative.characters.length look.before) later.narrative := by
  have hlevels : env.limits.depth - room + room = env.limits.depth := Nat.sub_add_cancel hroom
  obtain ⟨hbalanced, m', hcourse, hscene⟩ :=
    looks_course (below_course hlevels) (below_balanced room) action run [] [] hlook
  obtain ⟨own, done, hadvance⟩ := hbalanced.advances
    (l := ⟨run.narrative.characters.length, [], []⟩) hcourse (List.cons_ne_nil _ _) rfl
  refine ⟨m'.run, hscene, ?_⟩
  rw [effectsDuring, Ledger.effects, hadvance.completed]
  exact hadvance.seen

/-- A handler that looks at the scene sees it as it was when the handler began exactly if the
calls inside it that succeeded before left it as it was: the last of them that turned the focus or
the object turned it to where it had been, and the emotions of every character came back to what
they were. Nothing else makes a difference, and in particular not what the handler drew, filled in
or asked for itself. -/
theorem look_unchanged_iff (env : Environment) {room : Nat} (hroom : room ≤ env.limits.depth)
    (handler : Handler) (i : Invocation) (run : Run) {look : Look}
    (hlook : look ∈ env.looks room (env.below room) (env.belowHistory room) (handler i).run run) :
    look.scene.SameReads (env.scene room run) ↔
      run.narrative.Unmoved (effectsDuring run.narrative.characters.length look.before) := by
  obtain ⟨later, hscene, hseen⟩ := mem_looks hroom (handler i).run run hlook
  rw [hscene, hseen.unmoved_iff]
  exact ⟨fun h => ⟨h.focus, h.object, h.character⟩, fun h => ⟨h.1, h.2.1, h.2.2⟩⟩

/-- A handler that turns the story to a ball. -/
def hand : Handler := fun i => do
  Telling.request (.object (some "ball"))
  return i.fragment "Here it is."

/-- A handler that looks around, calls `Hand` and looks around again. -/
def ask : Handler := fun i => do
  let before ← Telling.look
  let _ ← Telling.call "Hand" .empty
  let after ← Telling.look
  return i.fragment
    (before.object.getD "Nothing" ++ ", then a " ++ after.object.getD "nothing" ++ ".")

/-- Where there are these two handlers. -/
def asking : Environment := ⟨.ofList [("Ask", ask), ("Hand", hand)], .empty, ⟨2, 10⟩⟩

/-- What `ask` is shown when it is called before anything else was told. -/
def looksOfAsk : List Look :=
  asking.looks 1 (asking.below 1) (asking.belowHistory 1) (ask ⟨"Ask", .empty⟩).run
    (.start (.start 0 .unbounded))

/-- The first look shows the scene at the beginning, and no call came before it. The second one
shows another scene: by then `Hand` had turned the story to the ball. -/
theorem look_unchanged_ask :
    let start := Run.start (.start 0 .unbounded)
    1 ≤ asking.limits.depth ∧
    (∃ look ∈ looksOfAsk, look.scene.SameReads (asking.scene 1 start)) ∧
    ∃ look ∈ looksOfAsk, ¬ look.scene.SameReads (asking.scene 1 start) := by
  intro start
  have hroom : 1 ≤ asking.limits.depth := by decide
  have hiff (look : Look) (hlook : look ∈ looksOfAsk) :
      look.scene.SameReads (asking.scene 1 start) ↔
        start.narrative.Unmoved (effectsDuring 0 look.before) :=
    look_unchanged_iff asking hroom ask ⟨"Ask", .empty⟩ start hlook
  refine ⟨hroom, ⟨looksOfAsk.get ⟨0, by decide⟩, List.get_mem _ _, ?_⟩,
    ⟨looksOfAsk.get ⟨1, by decide⟩, List.get_mem _ _, ?_⟩⟩
  · have hnothing : effectsDuring 0 (looksOfAsk.get ⟨0, by decide⟩).before = [] := rfl
    refine (hiff _ (List.get_mem _ _)).2 ?_
    rw [hnothing]
    exact .nil _
  · intro hsame
    have hball : lastObject (effectsDuring 0 (looksOfAsk.get ⟨1, by decide⟩).before) =
        some (some "ball") := by decide
    have hunmoved := (hiff _ (List.get_mem _ _)).1 hsame
    exact absurd (hunmoved.object _ hball) (by decide)

/-- What a handler sees can change while it runs, and its text with it. -/
theorem nested_call_changes_look :
    let start := Run.start (.start 0 .unbounded)
    (asking.scene 1 start).object = none ∧
    looksOfAsk.map (·.scene.object) = [none, some "ball"] ∧
    ((asking.tell [.call "Ask" [] []]).outcome start).2.narrative.fragments.map Fragment.text =
      ["Nothing, then a ball."] := by
  decide

end Environment

end Evaluation

end Storyweave
