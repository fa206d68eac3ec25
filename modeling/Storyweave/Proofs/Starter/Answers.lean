import Storyweave.Proofs.Kernel.Answers
import Storyweave.Proofs.Starter.Wording

/-!
# What the starter kernels answer

The starter kernels and the starter templates agree. Results:
1. `serves`: every category that a kernel draws on is there, and no template of it lacks a slot.
2. `answers_registry`: a starter kernel refuses only to make friends of nobody and to introduce
   nobody, as long as the characters among its arguments are known.
-/

namespace Storyweave

open Storyweave.Story Storyweave.Kernel Storyweave.Evaluation

/-- Given arguments whose characters are known, every handler refuses for certain reasons only. -/
def Evaluation.Registry.Answers (registry : Registry) (t : Template.Table)
    (refuses : String → Scene → Args → String → Prop) : Prop :=
  ∀ kernel handler, registry.find? kernel = some handler →
    handler.Answers t kernel (refuses kernel)

theorem Evaluation.Registry.Answers.ofList {entries : List (String × Handler)}
    {t : Template.Table} {refuses : String → Scene → Args → String → Prop}
    (h : ∀ entry ∈ entries, entry.2.Answers t entry.1 (refuses entry.1)) :
    Registry.Answers (.ofList entries) t refuses :=
  fun kernel handler hfind => h (kernel, handler) (Catalogue.mem_of_find?_ofList hfind)

namespace Starter

open Telling.Answers (pure refuse bind look_bind adjust request template forEach)

/-- What the starter kernels refuse: friendship where no character is among the arguments and none
is in focus outside of other calls, and the introduction of nobody. -/
inductive Refuses : String → Scene → Args → String → Prop where
  | friendship {scene : Scene} {args : Args} :
      args.characters = [] → scene.nested = true ∨ scene.focus = none →
      Refuses "Friendship" scene args "Friendship needs at least one character"
  | introduction {scene : Scene} {args : Args} :
      args.characters = [] →
      Refuses "Character" scene args "Character introduces a declared character"

theorem affected_eq_nil_iff {scene : Scene} {args : Args} :
    affected scene args = [] ↔
      args.characters = [] ∧ (scene.nested = true ∨ scene.focus = none) := by
  unfold affected
  cases args.characters with
  | nil => cases scene.nested <;> simp
  | cons id rest => simp

variable {kernel : String} {scene : Scene} {args : Args} {refuses : String → Prop}

/-! ## Templates -/

theorem all_contained : ∀ entry ∈ categorySlots, templates.contains entry.1 = true := by
  decide +kernel

/-- The starter kernels draw on categories that are there, and no template of them lacks a slot. -/
theorem serves {category : String} {slots : Template.Slots}
    (h : (category, slots.map Prod.fst) ∈ categorySlots) : templates.Serves category slots where
  contains := all_contained _ h
  fills chance := by
    obtain ⟨text, htext, -⟩ := speaks h chance
    exact ⟨text, htext⟩

theorem answers_template {category : String} {slots : Template.Slots}
    (h : (category, slots.map Prod.fst) ∈ categorySlots) :
    Telling.Answers templates scene refuses
      (do return Invocation.fragment ⟨kernel, args⟩ (← Telling.template category slots)) :=
  bind (template (serves h)) fun _ => pure _

/-! ## Introductions and emotions -/

/-- A known character can be introduced. -/
theorem answers_introduce :
    introduce.Answers templates "Character" (Refuses "Character") := by
  intro scene args hknown
  refine look_bind ?_
  dsimp only
  cases hfirst : args.firstCharacter with
  | none => exact refuse (.introduction (List.head?_eq_none_iff.1 hfirst))
  | some id =>
    obtain ⟨c, hc⟩ := Option.isSome_iff_exists.1 (hknown id (List.mem_of_head? hfirst))
    simp only [hc]
    split <;> exact answers_template (by simp [categorySlots])

theorem answers_feel (feeling : Feeling) (hcategory : ∀ category,
    feeling.category = some category → (category, ["name"]) ∈ categorySlots) :
    Telling.Answers templates scene refuses (feel feeling ⟨kernel, args⟩) := by
  refine look_bind ?_
  dsimp only
  cases affected scene args with
  | nil => exact pure _
  | cons first rest =>
    refine bind (forEach (fun id => forEach (fun _ => adjust _ _ _) _) _) fun _ => ?_
    cases hsentence : feeling.category with
    | none => exact pure _
    | some category => exact answers_template (hcategory category hsentence)

theorem answers_joy : Telling.Answers templates scene refuses (joy ⟨kernel, args⟩) := by
  refine look_bind ?_
  dsimp only
  split
  · exact bind (forEach (fun _ => adjust _ _ _) _) fun _ => pure _
  · exact answers_feel .joy (by rintro _ ⟨⟩; simp [categorySlots])

theorem answers_love : Telling.Answers templates scene refuses (love ⟨kernel, args⟩) := by
  refine look_bind ?_
  dsimp only
  split
  · split <;> exact pure _
  · exact bind (adjust _ _ _) fun _ => pure _

/-! ## Everyday actions -/

theorem answers_play : Telling.Answers templates scene refuses (play ⟨kernel, args⟩) := by
  refine look_bind ?_
  dsimp only
  refine bind (forEach (fun _ => adjust _ _ _) _) fun _ => ?_
  split
  · exact pure _
  · split
    case isTrue => exact answers_template (by simp [categorySlots])
    case isFalse => exact pure _
  · exact pure _

theorem answers_find : Telling.Answers templates scene refuses (find ⟨kernel, args⟩) := by
  refine look_bind ?_
  dsimp only
  split
  · exact pure _
  · refine bind (adjust _ _ _) fun _ => bind (request _) fun _ => ?_
    exact answers_template (by simp [categorySlots])

theorem answers_run : Telling.Answers templates scene refuses (run ⟨kernel, args⟩) := by
  refine look_bind ?_
  split
  · exact bind (adjust _ _ _) fun _ => pure _
  · split <;> exact pure _

theorem answers_help : Telling.Answers templates scene refuses (help ⟨kernel, args⟩) := by
  refine look_bind ?_
  split
  · refine bind (adjust _ _ _) fun _ => bind (adjust _ _ _) fun _ => ?_
    exact bind (adjust _ _ _) fun _ => pure _
  · exact pure _
  · exact pure _

theorem answers_give : Telling.Answers templates scene refuses (give ⟨kernel, args⟩) := by
  refine look_bind ?_
  dsimp only
  split
  · refine bind (adjust _ _ _) fun _ => bind (adjust _ _ _) fun _ => ?_
    exact bind (request _) fun _ => pure _
  · exact pure _
  · exact pure _

theorem answers_cry : Telling.Answers templates scene refuses (cry ⟨kernel, args⟩) := by
  refine look_bind ?_
  split
  · exact pure _
  · exact bind (adjust _ _ _) fun _ => bind (adjust _ _ _) fun _ => pure _

/-! ## Arcs -/

theorem answers_adjustHero (id : Option CharacterId) (shifts : List (Emotion × Float)) :
    Telling.Answers templates scene refuses (adjustHero id shifts) := by
  cases id with
  | none => exact pure _
  | some id => exact bind (forEach (fun _ => adjust _ _ _) _) fun _ => pure _

theorem answers_arc {category : String} {slots : Template.Slots} (sentences : List String)
    (h : (category, slots.map Prod.fst) ∈ categorySlots) :
    Telling.Answers templates scene refuses (arc ⟨kernel, args⟩ sentences category slots) := by
  unfold arc
  split
  case isTrue => exact answers_template h
  case isFalse => exact pure _

theorem answers_journey : Telling.Answers templates scene refuses (journey ⟨kernel, args⟩) := by
  refine look_bind ?_
  dsimp only
  have harc (sentences : List String) : Telling.Answers templates scene refuses
      (arc ⟨kernel, args⟩ sentences "journey" [("name", (hero scene args).2)]) :=
    answers_arc sentences (by simp [categorySlots])
  split
  · refine bind (answers_adjustHero _ _) fun _ => ?_
    split
    · exact bind (answers_adjustHero _ _) fun _ => harc _
    · exact harc _
  · split
    · exact bind (answers_adjustHero _ _) fun _ => harc _
    · exact harc _

theorem answers_cautionary :
    Telling.Answers templates scene refuses (cautionary ⟨kernel, args⟩) := by
  refine look_bind ?_
  dsimp only
  split
  · refine bind (answers_adjustHero _ _) fun _ => ?_
    exact answers_arc _ (by simp [categorySlots])
  · exact answers_arc _ (by simp [categorySlots])

/-- Friendship is refused where nobody is there to make friends. -/
theorem answers_friendship :
    friendship.Answers templates "Friendship" (Refuses "Friendship") := by
  intro scene args _
  refine look_bind ?_
  dsimp only
  cases haffected : affected scene args with
  | nil =>
    obtain ⟨hnobody, hfocus⟩ := affected_eq_nil_iff.1 haffected
    exact refuse (.friendship hnobody hfocus)
  | cons first others =>
    refine bind (forEach (fun _ => adjust _ _ _) _) fun _ => ?_
    exact bind (template (serves (by simp [categorySlots]))) fun _ => pure _

theorem answers_routine : Telling.Answers templates scene refuses (routine ⟨kernel, args⟩) := by
  refine look_bind ?_
  split
  · split <;> exact pure _
  · exact pure _
  · exact pure _

/-! ## The pack -/

/-- A starter kernel refuses only to make friends of nobody and to introduce nobody, as long as the
characters among its arguments are known. -/
theorem answers_registry : registry.Answers templates Refuses := by
  refine Registry.Answers.ofList ?_
  simp only [List.forall_mem_cons]
  exact ⟨answers_introduce, fun _ _ _ => answers_joy,
    fun _ _ _ => answers_feel .fear (by rintro _ ⟨⟩; simp [categorySlots]),
    fun _ _ _ => answers_feel .sadness (by rintro _ ⟨⟩; simp [categorySlots]),
    fun _ _ _ => answers_feel .happiness nofun, fun _ _ _ => answers_feel .bravery nofun,
    fun _ _ _ => answers_love, fun _ _ _ => answers_play, fun _ _ _ => answers_find,
    fun _ _ _ => answers_run, fun _ _ _ => answers_help, fun _ _ _ => answers_give,
    fun _ _ _ => answers_cry, fun _ _ _ => answers_journey, fun _ _ _ => answers_cautionary,
    answers_friendship, fun _ _ _ => answers_routine, nofun⟩

/-- Nothing is refused that has a character among its arguments. -/
theorem Refuses.characters_eq {message : String} (h : Refuses kernel scene args message) :
    args.characters = [] := by
  cases h <;> assumption

end Starter

end Storyweave
