import Storyweave.Proofs.Evaluation.Moment

/-!
# How a story turns

Only two kinds of events change the characters of a story, whom or what it is about, or the log of
effects: a declaration, and the end of a kernel that succeeded. Result: `turns_next` says for every
event what it makes of the story, so that an invariant of these parts has three cases.
-/

namespace Storyweave

open Storyweave.Story Storyweave.Kernel Storyweave.Template

/-- Two narratives are alike up to fragments, diagnostics and chance. -/
structure Story.Narrative.SameWorld (n m : Narrative) : Prop where
  characters : m.characters = n.characters
  byName : m.byName = n.byName
  focus : m.focus = n.focus
  object : m.object = n.object
  effects : m.effects = n.effects
  clamp : m.clamp = n.clamp

namespace Story.Narrative

theorem SameStory.sameWorld {n m : Narrative} (h : n.SameStory m) : n.SameWorld m := by
  rw [h]
  exact ⟨rfl, rfl, rfl, rfl, rfl, rfl⟩

theorem sameWorld_emit (n : Narrative) (f : Fragment) : n.SameWorld (n.emit f) := by
  unfold emit
  split <;> exact ⟨rfl, rfl, rfl, rfl, rfl, rfl⟩

theorem SameWorld.character {n m : Narrative} (h : n.SameWorld m) (id : CharacterId) :
    m.character id = n.character id := by
  rw [Narrative.character, Narrative.character, h.characters]

/-- The story with another character that it turns to. -/
def introduced (n : Narrative) (name : String) (traits : List String) : Narrative :=
  { n with
    characters := n.characters ++ [.declare n.characters.length name traits]
    byName := n.byName.insert name n.characters.length
    focus := some n.characters.length }

/-- A character of such a story was there before or is the new one. -/
theorem character_introduced (n : Narrative) (name : String) (traits : List String)
    (id : CharacterId) : (n.introduced name traits).character id =
      if id = n.characters.length then some (.declare id name traits) else n.character id := by
  unfold introduced character
  rcases Nat.lt_trichotomy id n.characters.length with hbefore | rfl | hbehind
  · rw [if_neg (Nat.ne_of_lt hbefore)]
    exact List.getElem?_append_left hbefore
  · rw [if_pos rfl]
    exact List.getElem?_concat_length
  · rw [if_neg (Nat.ne_of_gt hbehind), List.getElem?_eq_none (Nat.le_of_lt hbehind)]
    exact List.getElem?_eq_none (by rw [List.length_append]; exact hbehind)

/-- The new name leads to the new character, and every other name leads where it did. -/
theorem lookup_introduced (n : Narrative) (name : String) (traits : List String) (key : String) :
    (n.introduced name traits).lookup key =
      if key = name then some n.characters.length else n.lookup key :=
  n.byName.find?_insert name n.characters.length key

end Story.Narrative

namespace Evaluation

/-- What an event at a moment makes of the story. -/
inductive Moment.Turns (m : Moment) : Event → Narrative → Prop where
  /-- The event is about something else. -/
  | aside {event : Event} {n : Narrative} :
      event ≠ .ended .settled → m.run.narrative.SameWorld n → m.Turns event n
  | declared (name : String) (traits : List String) :
      m.run.narrative.lookup name = none →
      m.Turns (.declared name traits) (m.run.narrative.introduced name traits)
  /-- What the kernel that began last asked for takes place. -/
  | settled : m.Turns (.ended .settled) ((m.pending.headD []).foldl .apply m.run.narrative)

namespace Environment

variable {env : Environment} {m : Moment}

theorem turns_next {event : Event} (h : env.Allowed m event) :
    m.Turns event (env.next m event).run.narrative := by
  have still {event : Event} (hevent : event ≠ .ended .settled)
      (hstory : m.run.narrative.SameStory (env.next m event).run.narrative) :
      m.Turns event (env.next m event).run.narrative := .aside hevent hstory.sameWorld
  cases event with
  | crossed error => exact still (by simp) (m.run.sameStory_cross error)
  | filled category slots => exact still (by simp) (sameStory_fillTemplate category slots m.run)
  | declared name traits =>
    simp only [next, Run.declare, Narrative.declare_eq_some h.2.2]
    exact .declared name traits h.2.2
  | emitted fragment => exact .aside (by simp) (m.run.narrative.sameWorld_emit fragment)
  | ended ending =>
    cases ending with
    | settled => exact .settled
    | refused => exact still (by simp) rfl
    | stopped => exact still (by simp) rfl
  | _ => exact still (by simp) rfl

end Environment

end Evaluation

end Storyweave
