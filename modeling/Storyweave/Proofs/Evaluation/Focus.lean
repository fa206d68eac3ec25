import Storyweave.Proofs.Evaluation.History
import Storyweave.Proofs.Evaluation.Turns
import Storyweave.Proofs.Story.Effects

/-!
# Whom a story is about

An effect on the emotions of an unknown character is ignored, but one that turns the story to an
unknown character takes place. Results:
1. `Course.focusKnown_iff`: the story is about a known character, or about none, all the time
   exactly if every kernel that succeeds turns it to a known character at last, or to none.
2. `subject_known_iff`: then, and only then, every call is about a known character, unless it was
   given another one.
3. `focus_known_iff`: both for statements that are told; `stray_focus_stays`: a kernel need not
   keep to this.
-/

namespace Storyweave

open Storyweave.Story Storyweave.Kernel Storyweave.Language

/-- The story is about a character that is known, or about none. -/
def Story.Narrative.FocusKnown (n : Narrative) : Prop :=
  ∀ id, n.focus = some id → (n.character id).isSome

/-- In a scene, every call is about a character that is known, unless it was given another one. -/
def Kernel.Scene.SubjectsKnown (scene : Scene) : Prop :=
  ∀ args id, scene.subject args = some id →
    args.firstCharacter = some id ∨ (scene.character id).isSome

namespace Story.Narrative

variable {n m : Narrative}

theorem focusKnown_start (seed : UInt64) (clamp : Clamp) : (start seed clamp).FocusKnown :=
  nofun

theorem focusKnown_introduced (n : Narrative) (name : String) (traits : List String) :
    (n.introduced name traits).FocusKnown := by
  rintro id ⟨⟩
  rw [character_introduced, if_pos rfl]
  rfl

theorem SameWorld.focusKnown (h : n.SameWorld m) (hn : n.FocusKnown) : m.FocusKnown := by
  intro id hid
  rw [h.focus] at hid
  rw [h.character]
  exact hn id hid

/-- Of several effects, the last one that turns the story decides. -/
theorem focusKnown_foldl_apply_iff (hn : n.FocusKnown) (effects : List Effect) :
    (effects.foldl apply n).FocusKnown ↔
      ∀ id, lastFocus effects = some (some id) → (n.character id).isSome := by
  unfold FocusKnown
  rw [focus_foldl_apply]
  simp only [character_foldl_apply, Option.isSome_map]
  cases lastFocus effects with
  | none => exact iff_of_true hn nofun
  | some target => simp only [Option.getD_some, Option.some.injEq]

end Story.Narrative

namespace Evaluation

/-- What the kernel that began last asked for turns the story to a known character at last, or to
none, or does not turn it. -/
def Moment.TurnsToKnown (m : Moment) : Prop :=
  ∀ id, lastFocus (m.pending.headD []) = some (some id) → (m.run.narrative.character id).isSome

namespace Environment

variable {env : Environment} {m m' : Moment} {history : History}

theorem subject_known_iff (env : Environment) (room : Nat) (run : Run) :
    (env.scene room run).SubjectsKnown ↔ run.narrative.FocusKnown := by
  constructor
  · intro h id hid
    exact (h .empty id hid).resolve_left nofun
  · intro h args id hid
    unfold Scene.subject at hid
    cases hfirst : args.firstCharacter with
    | some first =>
      rw [hfirst] at hid
      exact .inl hid
    | none =>
      rw [hfirst] at hid
      exact .inr (h id hid)

theorem focusKnown_next_iff {event : Event} (h : env.Allowed m event)
    (hm : m.run.narrative.FocusKnown) :
    (env.next m event).run.narrative.FocusKnown ↔
      (event = .ended .settled → m.TurnsToKnown) := by
  have hturns := turns_next h
  generalize (env.next m event).run.narrative = n at hturns
  cases hturns with
  | aside hevent hworld => exact iff_of_true (hworld.focusKnown hm) fun h => absurd h hevent
  | declared name traits _ =>
    exact iff_of_true (m.run.narrative.focusKnown_introduced name traits) nofun
  | settled =>
    rw [Narrative.focusKnown_foldl_apply_iff hm, forall_prop_of_true rfl]
    rfl

/-- The story is about a known character, or about none, all the time exactly if every kernel that
succeeds turns it to a known character at last, or to none. -/
theorem Course.focusKnown_iff (h : env.Course m history m') (hm : m.run.narrative.FocusKnown) :
    (∀ i, (env.replay m (history.take i)).run.narrative.FocusKnown) ↔
      ∀ i, history[i]? = some (.ended .settled) →
        (env.replay m (history.take i)).TurnsToKnown := by
  induction h with
  | done => simpa [replay] using hm
  | @step m m' event rest hallowed _ ih =>
    have hnext := focusKnown_next_iff hallowed hm
    constructor
    · intro h
      have hbehind : (env.next m event).run.narrative.FocusKnown := h 1
      intro i hi
      cases i with
      | zero => exact hnext.1 hbehind (Option.some.inj hi)
      | succ i => exact (ih hbehind).1 (fun i => h (i + 1)) i hi
    · intro h
      have hbehind := hnext.2 fun hevent => h 0 (congrArg some hevent)
      intro i
      cases i with
      | zero => exact hm
      | succ i => exact (ih hbehind).2 (fun i => h (i + 1)) i

/-- Of the effects that name an unknown character, exactly those on its emotions are ignored. So
while statements are told from the beginning, the story is about a known character, or about none,
all the time exactly if every kernel that succeeds turns it to a known character at last, or to
none. At every moment every call is about a known character, unless it was given another one,
exactly if the story is. -/
theorem focus_known_iff (env : Environment) (statements : List Expr) (seed : UInt64)
    (clamp : Clamp) :
    let start := Run.start (.start seed clamp)
    let history := env.history statements start
    let moment (i : Nat) := env.replay (.outside start) (history.take i)
    env.Course (.outside start) history (.outside ((env.tell statements).outcome start).2) ∧
    (∀ (n : Narrative) (effect : Effect) (id : CharacterId),
      effect.subject = some id → n.character id = none →
        (n.apply effect = n ↔ ∃ emotion delta, effect = .emotion id emotion delta)) ∧
    ((∀ i, (moment i).run.narrative.FocusKnown) ↔
      ∀ i, history[i]? = some (.ended .settled) → (moment i).TurnsToKnown) ∧
    ∀ i room, (env.scene room (moment i).run).SubjectsKnown ↔
      (moment i).run.narrative.FocusKnown := by
  intro start history moment
  have hcourse : env.Course (.outside start) history
      (.outside ((env.tell statements).outcome start).2) := tell_course statements rfl
  exact ⟨hcourse, fun _ _ _ => Narrative.apply_eq_self_iff,
    hcourse.focusKnown_iff (Narrative.focusKnown_start seed clamp),
    fun i room => subject_known_iff env room (moment i).run⟩

/-- A handler that turns the story to a character that nobody declared. -/
def stray : Handler := fun i => do
  Telling.request (.focus (some 9))
  return i.fragment "It strayed."

/-- Where there is this handler. -/
def straying : Environment := ⟨.ofList [("Stray", stray)], .empty, ⟨10, 10⟩⟩

/-- An effect that turns a story to an unknown character takes place and is recorded, and the story
stays with that character: what is told next is about it without having been given it. -/
theorem stray_focus_stays :
    let start := Run.start (.start 0 .unbounded)
    let later := ((straying.tell [.call "Stray" [] []]).outcome start).2
    start.narrative.character 9 = none ∧
    (start.narrative.apply (.focus (some 9))).effects.length = 1 ∧
    (start.narrative.apply (.focus (some 9))).focus = some 9 ∧
    later.narrative.effects.length = 1 ∧
    later.narrative.focus = some 9 ∧
    (later.narrative.character 9).isSome = false ∧
    (straying.scene 10 later).subject .empty = some 9 := by
  decide

end Environment

end Evaluation

end Storyweave
