import Storyweave.Story.Narrative

/-!
# What effects do to a story

Effects take place one after another, and each touches one thing: what a character feels, whom the
story is about, or which thing it is about. Results:
1. `character_foldl_apply`: a character feels what the effects on it make of its emotions, and is
   the same otherwise.
2. `focus_foldl_apply`, `object_foldl_apply`: the last effect that turns the story decides.
3. `apply_eq_self_iff`: of the effects that name an unknown character, exactly those on its emotions
   are ignored.
4. `SeenAfter.foldl_apply`, `SeenAfter.unmoved_iff`: what there is to see afterwards, and when it is
   what there was to see before.
-/

namespace Storyweave.Story

namespace Effect

/-- The character that an effect names. -/
def subject : Effect → Option CharacterId
  | .emotion id _ _ => some id
  | .focus target => target
  | .object _ => none

/-- How an effect changes the emotions of a character. -/
def adjustment (id : CharacterId) : Effect → Option (Emotion × Float)
  | .emotion other feeling delta => if other = id then some (feeling, delta) else none
  | .focus _ => none
  | .object _ => none

/-- Whom an effect turns the story to. -/
def focus? : Effect → Option (Option CharacterId)
  | .focus target => some target
  | _ => none

/-- Which thing an effect turns the story to. -/
def object? : Effect → Option (Option String)
  | .object thing => some thing
  | _ => none

end Effect

/-- How effects change the emotions of a character, in order. -/
def adjustments (id : CharacterId) (effects : List Effect) : List (Emotion × Float) :=
  effects.filterMap (Effect.adjustment id)

/-- Whom the last effect that does so turns the story to. -/
def lastFocus (effects : List Effect) : Option (Option CharacterId) :=
  (effects.filterMap Effect.focus?).getLast?

/-- Which thing the last effect that does so turns the story to. -/
def lastObject (effects : List Effect) : Option (Option String) :=
  (effects.filterMap Effect.object?).getLast?

/-- The emotions after several changes. -/
def Emotions.adjustAll (e : Emotions) (clamp : Clamp) (changes : List (Emotion × Float)) :
    Emotions :=
  changes.foldl (fun e change => e.adjust change.1 change.2 clamp) e

/-- The character with an id after some effects. -/
def Character.feel (id : CharacterId) (clamp : Clamp) (effects : List Effect) (c : Character) :
    Character :=
  { c with emotions := c.emotions.adjustAll clamp (adjustments id effects) }

theorem adjustments_append (id : CharacterId) (first rest : List Effect) :
    adjustments id (first ++ rest) = adjustments id first ++ adjustments id rest :=
  List.filterMap_append

theorem Emotions.adjustAll_append (e : Emotions) (clamp : Clamp)
    (first rest : List (Emotion × Float)) :
    e.adjustAll clamp (first ++ rest) = (e.adjustAll clamp first).adjustAll clamp rest :=
  List.foldl_append

theorem Character.feel_append (id : CharacterId) (clamp : Clamp) (first rest : List Effect)
    (c : Character) :
    c.feel id clamp (first ++ rest) = (c.feel id clamp first).feel id clamp rest := by
  simp only [feel, adjustments_append, Emotions.adjustAll_append]

theorem Character.feel_eq_self_iff {id : CharacterId} {clamp : Clamp} {effects : List Effect}
    {c : Character} :
    c.feel id clamp effects = c ↔
      c.emotions.adjustAll clamp (adjustments id effects) = c.emotions :=
  ⟨congrArg emotions, fun h => by rw [feel, h]⟩

theorem Character.feel_emotion (id : CharacterId) (clamp : Clamp) (emotion : Emotion)
    (delta : Float) : Character.feel id clamp [.emotion id emotion delta] =
      fun c => { c with emotions := c.emotions.adjust emotion delta clamp } := by
  funext c
  simp [feel, adjustments, Effect.adjustment, Emotions.adjustAll]

theorem Character.feel_emotion_of_ne {id other : CharacterId} (h : other ≠ id) (clamp : Clamp)
    (emotion : Emotion) (delta : Float) :
    Character.feel id clamp [.emotion other emotion delta] = fun c => c := by
  funext c
  simp [feel, adjustments, Effect.adjustment, Emotions.adjustAll, h]

theorem lastFocus_append (first rest : List Effect) :
    lastFocus (first ++ rest) = (lastFocus rest).or (lastFocus first) := by
  simp only [lastFocus, List.filterMap_append, List.getLast?_append]

theorem lastObject_append (first rest : List Effect) :
    lastObject (first ++ rest) = (lastObject rest).or (lastObject first) := by
  simp only [lastObject, List.filterMap_append, List.getLast?_append]

namespace Narrative

theorem clamp_apply (n : Narrative) (effect : Effect) : (n.apply effect).clamp = n.clamp := by
  cases effect with
  | emotion id emotion delta =>
    unfold apply
    cases h : n.character id <;> simp only [h]
  | focus _ => rfl
  | object _ => rfl

theorem focus_apply (n : Narrative) (effect : Effect) :
    (n.apply effect).focus = effect.focus?.getD n.focus := by
  cases effect with
  | emotion id emotion delta =>
    unfold apply
    cases h : n.character id <;> simp only [h] <;> rfl
  | focus _ => rfl
  | object _ => rfl

theorem object_apply (n : Narrative) (effect : Effect) :
    (n.apply effect).object = effect.object?.getD n.object := by
  cases effect with
  | emotion id emotion delta =>
    unfold apply
    cases h : n.character id <;> simp only [h] <;> rfl
  | focus _ => rfl
  | object _ => rfl

theorem apply_emotion {n : Narrative} {id : CharacterId} {c : Character}
    (h : n.character id = some c) (emotion : Emotion) (delta : Float) :
    n.apply (.emotion id emotion delta) =
      { n with
        effects := n.effects ++ [.emotion id emotion delta]
        characters := n.characters.modify id fun c =>
          { c with emotions := c.emotions.adjust emotion delta n.clamp } } := by
  simp only [apply, h]

theorem apply_emotion_of_unknown {n : Narrative} {id : CharacterId} (h : n.character id = none)
    (emotion : Emotion) (delta : Float) : n.apply (.emotion id emotion delta) = n := by
  simp only [apply, h]

/-- Of the effects that name an unknown character, exactly those on its emotions are ignored. -/
theorem apply_eq_self_iff {n : Narrative} {effect : Effect} {id : CharacterId}
    (hsubject : effect.subject = some id) (hunknown : n.character id = none) :
    n.apply effect = n ↔ ∃ emotion delta, effect = .emotion id emotion delta := by
  cases effect with
  | emotion other emotion delta =>
    cases hsubject
    exact iff_of_true (apply_emotion_of_unknown hunknown emotion delta) ⟨emotion, delta, rfl⟩
  | focus target =>
    -- the log alone tells the two apart
    refine iff_of_false (fun h => ?_) (by rintro ⟨_, _, h⟩; cases h)
    exact List.cons_ne_nil _ _ (List.append_right_eq_self.1 (congrArg effects h))
  | object thing => cases hsubject

theorem character_apply (n : Narrative) (effect : Effect) (id : CharacterId) :
    (n.apply effect).character id = (n.character id).map (Character.feel id n.clamp [effect]) := by
  cases effect with
  | emotion other emotion delta =>
    cases h : n.character other with
    | none =>
      rw [apply_emotion_of_unknown h]
      by_cases hid : other = id
      · rw [← hid, h]
        rfl
      · rw [Character.feel_emotion_of_ne hid, Option.map_id']
    | some c =>
      rw [apply_emotion h, character, character, List.getElem?_modify]
      by_cases hid : other = id
      · rw [hid, Character.feel_emotion]
        simp
      · rw [Character.feel_emotion_of_ne hid]
        simp [hid]
  | focus target => exact Option.map_id'.symm
  | object thing => exact Option.map_id'.symm

theorem clamp_foldl_apply (effects : List Effect) (n : Narrative) :
    (effects.foldl apply n).clamp = n.clamp := by
  induction effects generalizing n with
  | nil => rfl
  | cons effect rest ih => rw [List.foldl_cons, ih, clamp_apply]

theorem focus_foldl_apply (effects : List Effect) (n : Narrative) :
    (effects.foldl apply n).focus = (lastFocus effects).getD n.focus := by
  induction effects generalizing n with
  | nil => rfl
  | cons effect rest ih =>
    rw [List.foldl_cons, ih, focus_apply, lastFocus, lastFocus, List.filterMap_cons]
    cases effect.focus? with
    | none => rfl
    | some target => simp [List.getLast?_cons]

theorem object_foldl_apply (effects : List Effect) (n : Narrative) :
    (effects.foldl apply n).object = (lastObject effects).getD n.object := by
  induction effects generalizing n with
  | nil => rfl
  | cons effect rest ih =>
    rw [List.foldl_cons, ih, object_apply, lastObject, lastObject, List.filterMap_cons]
    cases effect.object? with
    | none => rfl
    | some thing => simp [List.getLast?_cons]

/-- A character feels what the effects on it make of its emotions, and is the same otherwise. -/
theorem character_foldl_apply (effects : List Effect) (n : Narrative) (id : CharacterId) :
    (effects.foldl apply n).character id =
      (n.character id).map (Character.feel id n.clamp effects) := by
  induction effects generalizing n with
  | nil => exact Option.map_id'.symm
  | cons effect rest ih =>
    rw [List.foldl_cons, ih, character_apply, clamp_apply, Option.map_map]
    congr 1
    funext c
    exact (Character.feel_append id n.clamp [effect] rest c).symm

/-- What there is to see of a narrative is what there was to see of another one, after some
effects. -/
structure SeenAfter (n : Narrative) (taken : List Effect) (m : Narrative) : Prop where
  focus : m.focus = (lastFocus taken).getD n.focus
  object : m.object = (lastObject taken).getD n.object
  clamp : m.clamp = n.clamp
  character : ∀ id, m.character id = (n.character id).map (Character.feel id n.clamp taken)

namespace SeenAfter

variable {n m k : Narrative} {taken taken' : List Effect}

theorem foldl_apply (effects : List Effect) (n : Narrative) :
    n.SeenAfter effects (effects.foldl apply n) where
  focus := focus_foldl_apply effects n
  object := object_foldl_apply effects n
  clamp := clamp_foldl_apply effects n
  character := character_foldl_apply effects n

theorem refl (n : Narrative) : n.SeenAfter [] n := foldl_apply [] n

theorem trans (h : n.SeenAfter taken m) (h' : m.SeenAfter taken' k) :
    n.SeenAfter (taken ++ taken') k where
  focus := by
    rw [h'.focus, h.focus, lastFocus_append]
    cases lastFocus taken' <;> rfl
  object := by
    rw [h'.object, h.object, lastObject_append]
    cases lastObject taken' <;> rfl
  clamp := h'.clamp.trans h.clamp
  character id := by
    rw [h'.character, h.character, h.clamp, Option.map_map]
    congr 1
    funext c
    exact (Character.feel_append id n.clamp taken taken' c).symm

/-- No effect makes a character known. -/
theorem length_eq (h : n.SeenAfter taken m) : m.characters.length = n.characters.length := by
  have hnone (id : CharacterId) : m.characters.length ≤ id ↔ n.characters.length ≤ id := by
    have hcharacter : m.characters[id]? = _ := h.character id
    rw [← List.getElem?_eq_none_iff, hcharacter, Option.map_eq_none_iff, Narrative.character,
      List.getElem?_eq_none_iff]
  exact Nat.le_antisymm ((hnone _).2 (Nat.le_refl _)) ((hnone _).1 (Nat.le_refl _))

end SeenAfter

/-- Effects that leave all there is to see of a narrative as it is. -/
structure Unmoved (n : Narrative) (taken : List Effect) : Prop where
  focus : ∀ target, lastFocus taken = some target → target = n.focus
  object : ∀ thing, lastObject taken = some thing → thing = n.object
  emotions : ∀ id c, n.character id = some c →
    c.emotions.adjustAll n.clamp (adjustments id taken) = c.emotions

theorem SeenAfter.unmoved_iff {n m : Narrative} {taken : List Effect} (h : n.SeenAfter taken m) :
    n.Unmoved taken ↔
      m.focus = n.focus ∧ m.object = n.object ∧ ∀ id, m.character id = n.character id := by
  have hfocus : (∀ target, lastFocus taken = some target → target = n.focus) ↔
      m.focus = n.focus := by
    rw [h.focus]
    cases lastFocus taken <;> simp
  have hobject : (∀ thing, lastObject taken = some thing → thing = n.object) ↔
      m.object = n.object := by
    rw [h.object]
    cases lastObject taken <;> simp
  have hcharacter (id : CharacterId) : (∀ c, n.character id = some c →
      c.emotions.adjustAll n.clamp (adjustments id taken) = c.emotions) ↔
      m.character id = n.character id := by
    rw [h.character]
    cases n.character id with
    | none => simp
    | some c => simp [Character.feel_eq_self_iff]
  rw [← hfocus, ← hobject, ← forall_congr' hcharacter]
  exact ⟨fun hn => ⟨hn.focus, hn.object, hn.emotions⟩, fun hn => ⟨hn.1, hn.2.1, hn.2.2⟩⟩

theorem Unmoved.nil (n : Narrative) : n.Unmoved [] :=
  (SeenAfter.refl n).unmoved_iff.2 ⟨rfl, rfl, fun _ => rfl⟩

end Narrative

end Storyweave.Story
