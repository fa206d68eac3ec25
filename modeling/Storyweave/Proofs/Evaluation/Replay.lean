import Storyweave.Proofs.Evaluation.History
import Storyweave.Proofs.Evaluation.Turns
import Storyweave.Proofs.Story.Effects

/-!
# Replaying the log of effects

The log of effects holds what the characters feel and which thing the story is about: both can be
read off from it. Results:
1. `Replays.foldl_apply`, `Replays.introduced`: effects and declarations keep the log and the story
   together.
2. `Course.replays`: so does every history.
3. `Replays.onward`: between two moments only the effects logged in between make a difference.
4. `emotions_and_object_replayed`: the log tells the emotions and the object of every story.
-/

namespace Storyweave

open Storyweave.Story Storyweave.Language

namespace Story

/-- The effects on a character take place exactly if it is known. -/
theorem adjustments_takesPlace (cast : Nat) (id : CharacterId) (effects : List Effect) :
    adjustments id (effects.filter (Narrative.takesPlace cast)) =
      if id < cast then adjustments id effects else [] := by
  have hsame (effect : Effect) :
      (if Narrative.takesPlace cast effect then effect.adjustment id else none) =
        if id < cast then effect.adjustment id else none := by
    cases effect with
    | emotion other emotion delta =>
      by_cases hid : other = id
      · simp [Narrative.takesPlace, hid]
      · simp [Effect.adjustment, hid]
    | focus target => exact (ite_self none).trans (ite_self none).symm
    | object thing => exact (ite_self none).trans (ite_self none).symm
  rw [adjustments, adjustments, List.filterMap_filter, funext hsame]
  split
  · rfl
  · exact List.filterMap_eq_nil_iff.2 fun _ _ => rfl

theorem lastObject_takesPlace (cast : Nat) (effects : List Effect) :
    lastObject (effects.filter (Narrative.takesPlace cast)) = lastObject effects := by
  have hsame (effect : Effect) :
      (if Narrative.takesPlace cast effect then effect.object? else none) = effect.object? := by
    cases effect with
    | emotion id emotion delta => exact ite_self none
    | focus target => rfl
    | object thing => rfl
  rw [lastObject, lastObject, List.filterMap_filter, funext hsame]

/-! ## Logs and stories -/

/-- The emotions of every character and the object of a story are what the log of effects makes of
them. The log says nothing about a character that is not known yet. -/
structure Narrative.Replays (clamp : Clamp) (n : Narrative) : Prop where
  policy : n.clamp = clamp
  known : ∀ id c, n.character id = some c →
    c.emotions = Emotions.initial.adjustAll clamp (adjustments id n.effects)
  unknown : ∀ id, n.character id = none → adjustments id n.effects = []
  object : n.object = (lastObject n.effects).getD none

namespace Narrative.Replays

variable {clamp : Clamp} {n m : Narrative}

theorem start (seed : UInt64) (clamp : Clamp) : (Narrative.start seed clamp).Replays clamp where
  policy := rfl
  known _ _ h := by cases h
  unknown _ _ := rfl
  object := rfl

theorem of_sameWorld (hn : n.Replays clamp) (h : n.SameWorld m) : m.Replays clamp where
  policy := h.clamp.trans hn.policy
  known id c hc := by
    rw [h.character] at hc
    rw [h.effects]
    exact hn.known id c hc
  unknown id hc := by
    rw [h.character] at hc
    rw [h.effects]
    exact hn.unknown id hc
  object := by rw [h.object, h.effects, hn.object]

/-- A new character has its first emotions, as the log does not name it. -/
theorem introduced (hn : n.Replays clamp) (name : String) (traits : List String) :
    (n.introduced name traits).Replays clamp where
  policy := hn.policy
  known id c hc := by
    rw [character_introduced] at hc
    split at hc
    case isTrue hid =>
      cases hc
      have hnew : adjustments id n.effects = [] :=
        hn.unknown id (List.getElem?_eq_none (Nat.le_of_eq hid.symm))
      show Emotions.initial = Emotions.initial.adjustAll clamp (adjustments id n.effects)
      rw [hnew]
      rfl
    case isFalse => exact hn.known id c hc
  unknown id hc := by
    rw [character_introduced] at hc
    split at hc
    case isTrue => cases hc
    case isFalse => exact hn.unknown id hc
  object := hn.object

theorem foldl_apply (hn : n.Replays clamp) (effects : List Effect) :
    (effects.foldl apply n).Replays clamp where
  policy := (clamp_foldl_apply effects n).trans hn.policy
  known id c hc := by
    rw [character_foldl_apply] at hc
    obtain ⟨before, hbefore, rfl⟩ := Option.map_eq_some_iff.1 hc
    have hknown : id < n.characters.length := (List.getElem?_eq_some_iff.1 hbefore).1
    rw [effects_foldl_apply, adjustments_append, adjustments_takesPlace, if_pos hknown,
      Emotions.adjustAll_append, ← hn.known id before hbefore, Character.feel, hn.policy]
  unknown id hc := by
    rw [character_foldl_apply, Option.map_eq_none_iff] at hc
    have hunknown : ¬ id < n.characters.length := Nat.not_lt.2 (List.getElem?_eq_none_iff.1 hc)
    rw [effects_foldl_apply, adjustments_append, adjustments_takesPlace, if_neg hunknown,
      hn.unknown id hc]
    rfl
  object := by
    rw [object_foldl_apply, effects_foldl_apply, lastObject_append, lastObject_takesPlace,
      hn.object]
    cases lastObject effects <;> rfl

/-- Where a story goes on, only the effects that are logged make a difference to an emotion or to
the object. -/
theorem onward (hn : n.Replays clamp) (hm : m.Replays clamp) (h : n.Grows m) :
    ∃ taken, m.effects = n.effects ++ taken ∧
      (∀ id c, n.character id = some c → ∃ c', m.character id = some c' ∧
        c'.emotions = c.emotions.adjustAll clamp (adjustments id taken)) ∧
      m.object = (lastObject taken).getD n.object := by
  obtain ⟨taken, htaken⟩ := h.effects
  refine ⟨taken, htaken.symm, fun id c hc => ?_, ?_⟩
  · -- no character is lost
    have hlength : n.characters.length ≤ m.characters.length := by
      rw [← length_names, ← length_names]
      exact h.names.length_le
    have hid : id < m.characters.length :=
      Nat.lt_of_lt_of_le (List.getElem?_eq_some_iff.1 hc).1 hlength
    refine ⟨m.characters[id], List.getElem?_eq_getElem hid, ?_⟩
    rw [hm.known id _ (List.getElem?_eq_getElem hid), ← htaken, adjustments_append,
      Emotions.adjustAll_append, ← hn.known id c hc]
  · rw [hm.object, ← htaken, lastObject_append, hn.object]
    cases lastObject taken <;> rfl

end Narrative.Replays

end Story

namespace Evaluation.Environment

variable {env : Environment} {m m' : Moment} {history : History} {clamp : Clamp}

theorem replays_of_turns {event : Event} {n : Narrative} (h : m.Turns event n)
    (hm : m.run.narrative.Replays clamp) : n.Replays clamp := by
  cases h with
  | aside _ hworld => exact hm.of_sameWorld hworld
  | declared name traits _ => exact hm.introduced name traits
  | settled => exact hm.foldl_apply _

theorem Course.replays (h : env.Course m history m') (hm : m.run.narrative.Replays clamp) :
    m'.run.narrative.Replays clamp :=
  h.invariant (fun hallowed => replays_of_turns (turns_next hallowed)) hm

/-- At every moment of statements that are told from the beginning, and at their end, also when a
bound was crossed, the log of effects tells what is the case. A character feels what the logged
effects on it, in their order, make of the emotions that it was declared with, and the story is
about the thing that the last logged effect on the object says. Between two moments nothing but
the effects that were logged in between changed an emotion or the object. -/
theorem emotions_and_object_replayed (env : Environment) (statements : List Expr) (seed : UInt64)
    (clamp : Clamp) :
    let start := Run.start (.start seed clamp)
    let final := ((env.tell statements).outcome start).2
    let history := env.history statements start
    let moment (i : Nat) := (env.replay (.outside start) (history.take i)).run.narrative
    env.Course (.outside start) history (.outside final) ∧
    final.narrative.Replays clamp ∧
    (∀ i, (moment i).Replays clamp) ∧
    ∀ i j, i ≤ j → ∃ taken, (moment j).effects = (moment i).effects ++ taken ∧
      (∀ id c, (moment i).character id = some c → ∃ c', (moment j).character id = some c' ∧
        c'.emotions = c.emotions.adjustAll clamp (adjustments id taken)) ∧
      (moment j).object = (lastObject taken).getD (moment i).object := by
  intro start final history moment
  have hcourse : env.Course (.outside start) history (.outside final) := tell_course statements rfl
  have hreplays (i : Nat) : (moment i).Replays clamp := (hcourse.take i).replays (.start seed clamp)
  exact ⟨hcourse, hcourse.replays (.start seed clamp), hreplays,
    fun i j hij => (hreplays i).onward (hreplays j) (hcourse.between hij).grows⟩

end Evaluation.Environment

end Storyweave
