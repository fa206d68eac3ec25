import Storyweave.Proofs.Kernel.CallFree
import Storyweave.Proofs.Kernel.Wording
import Storyweave.Starter.Pack

/-!
# The wording of the starter pack

Chance reaches a starter kernel through the templates it fills and through the texts of its
arguments, and goes into nothing but texts. Results:
1. `Handler.Alike` of every starter kernel, where the starter templates are at hand.
2. `handlersAlike_registry`: so no starter kernel is led by chance.
-/

namespace Storyweave

open Storyweave.Story Storyweave.Kernel Storyweave.Evaluation

/-- Given arguments that are alike, every handler does what is alike. -/
def Evaluation.Registry.HandlersAlike (registry : Registry) (t : Template.Table) : Prop :=
  ∀ kernel handler, registry.find? kernel = some handler → handler.Alike t

theorem Evaluation.Registry.HandlersAlike.ofList {entries : List (String × Handler)}
    {t : Template.Table} (h : ∀ entry ∈ entries, entry.2.Alike t) :
    Registry.HandlersAlike (.ofList entries) t :=
  fun kernel handler hfind => h (kernel, handler) (Catalogue.mem_of_find?_ofList hfind)

/-! ## Options -/

section Options

variable {α β α' β' : Type} {R : α → β → Prop} {S : α' → β' → Prop} {a a' : Option α}
  {b b' : Option β}

theorem rel_optionMap {f : α → α'} {g : β → β'} (hfg : ∀ x y, R x y → S (f x) (g y))
    (h : Option.Rel R a b) : Option.Rel S (a.map f) (b.map g) := by
  cases h with
  | none => exact .none
  | some hxy => exact .some (hfg _ _ hxy)

theorem rel_orElse (h : Option.Rel R a b) (h' : Option.Rel R a' b') :
    Option.Rel R (a.orElse fun _ => a') (b.orElse fun _ => b') := by
  cases h with
  | none => exact h'
  | some hxy => exact .some hxy

theorem rel_toList (h : Option.Rel R a b) : List.Forall₂ R a.toList b.toList := by
  cases h with
  | none => exact .nil
  | some hxy => exact .cons hxy .nil

theorem rel_head? {xs : List α} {ys : List β} (h : List.Forall₂ R xs ys) :
    Option.Rel R xs.head? ys.head? := by
  cases h with
  | nil => exact .none
  | cons hxy _ => exact .some hxy

end Options

namespace Starter

open Telling.Alike (pure refuse bind look_bind adjust request template forEach)

variable {scene : Scene} {args args' : Args}

/-! ## Templates -/

/-- The categories that the starter kernels draw on, and the slots that they give values to. -/
def categorySlots : List (String × List String) :=
  [("intro_first", ["name", "type", "adj"]), ("intro", ["name", "type", "adj"]),
    ("joy", ["name"]), ("sad", ["name"]), ("fear", ["name"]), ("play", ["name"]),
    ("find", ["name", "object"]), ("journey", ["name"]), ("cautionary", []),
    ("friendship", ["name", "other"])]

/-- The starter templates need no other slots, and say something whatever stands in these. -/
theorem all_speak : ∀ entry ∈ categorySlots,
    (templates.alternatives entry.1).all (·.speaks entry.2) = true := by
  decide +kernel

theorem speaks {category : String} {slots : Template.Slots}
    (h : (category, slots.map Prod.fst) ∈ categorySlots) : templates.Speaks category slots :=
  Template.Table.speaks_of_all (all_speak _ h)

/-! ## Who and what a call is about -/

theorem worded_nameOf (h : scene.Named) (id : CharacterId) : Worded (nameOf scene id) := by
  simp only [nameOf, Scene.phrase, Value.phrase]
  cases hcharacter : scene.cast[id]? with
  | none => decide
  | some c => exact h c (List.mem_of_getElem? hcharacter)

theorem affected_eq (h : args.Alike args') (scene : Scene) :
    affected scene args = affected scene args' := by
  rw [affected, affected, h.characters_eq]

theorem subject_eq (h : args.Alike args') (scene : Scene) :
    scene.subject args = scene.subject args' := by
  rw [Scene.subject, Scene.subject, h.firstCharacter_eq]

theorem objects_alike (h : args.Alike args') (scene : Scene) :
    List.Forall₂ Alike (objects scene args) (objects scene args') :=
  Value.phrases_alike scene.cast
    (List.rel_filter (fun _ _ h => by simp only [Value.Alike.asCharacter_eq h]) h.positional)

/-- The answer of a kernel in words of its own. -/
theorem answer {kernel s s' : String} {t : Template.Table} (h : Alike s s') :
    Telling.Alike t Fragment.Alike (Pure.pure (Invocation.fragment ⟨kernel, args⟩ s))
      (Pure.pure (Invocation.fragment ⟨kernel, args'⟩ s')) :=
  pure ⟨h, rfl, rfl⟩

/-- The answer of a kernel whose own words say something, whatever those of its arguments are. -/
theorem answer_worded {kernel s s' : String} {t : Template.Table} (h : Worded s)
    (h' : Worded s') :
    Telling.Alike t Fragment.Alike (Pure.pure (Invocation.fragment ⟨kernel, args⟩ s))
      (Pure.pure (Invocation.fragment ⟨kernel, args'⟩ s')) :=
  answer (h.alike h')

/-- The answer of a kernel that fills a template. -/
theorem template_answer {kernel category : String} {slots slots' : Template.Slots}
    {t : Template.Table} (h : t.Speaks category slots) (h' : t.Speaks category slots') :
    Telling.Alike t Fragment.Alike
      (do return Invocation.fragment ⟨kernel, args⟩ (← Telling.template category slots))
      (do return Invocation.fragment ⟨kernel, args'⟩ (← Telling.template category slots')) :=
  bind (template h h') fun _ _ htext => answer htext

/-! ## Introductions and emotions -/

theorem introduce_alike : introduce.Alike templates := by
  intro kernel args args' h
  refine look_bind (fun _ _ => rfl) fun scene _ => ?_
  simp only [← h.firstCharacter_eq]
  cases args.firstCharacter with
  | none => exact refuse _
  | some id =>
    cases hc : scene.character id with
    | none => simp only [hc]; exact refuse _
    | some c =>
      simp only [hc]
      refine template_answer ?_ ?_
      all_goals split <;> exact speaks (by simp [categorySlots])

/-- A kernel for a feeling whose sentence, if it is a template, needs a name at most. -/
theorem feel_alike (feeling : Feeling) (hcategory : ∀ category,
    feeling.category = some category → (category, ["name"]) ∈ categorySlots) :
    (feel feeling).Alike templates := by
  intro kernel args args' h
  refine look_bind (fun _ _ => rfl) fun scene _ => ?_
  simp only [← affected_eq h]
  cases affected scene args with
  | nil => exact answer (.refl _)
  | cons first rest =>
    refine bind (forEach (fun id => forEach (fun _ => adjust _ _ _) _) _) fun _ _ _ => ?_
    cases hsentence : feeling.category with
    | none => exact answer (.refl _)
    | some category =>
      have hspeaks : templates.Speaks category [("name", nameOf scene first)] :=
        speaks (hcategory category hsentence)
      exact template_answer hspeaks hspeaks

theorem joy_alike : joy.Alike templates := by
  intro kernel args args' h
  refine look_bind (fun _ _ => rfl) fun scene _ => ?_
  simp only [← affected_eq h]
  have hfeel := feel_alike .joy (by rintro _ ⟨⟩; simp [categorySlots]) kernel args args' h
  have hintensity := h.keyword "intensity"
  generalize args.keyword "intensity" = intensity, args'.keyword "intensity" = intensity'
    at hintensity
  cases hintensity with
  | none => exact hfeel
  | some _ =>
    cases affected scene args with
    | nil => exact hfeel
    | cons first rest =>
      refine bind (forEach (fun _ => adjust _ _ _) _) fun _ _ _ => ?_
      exact answer_worded (by simp +decide) (by simp +decide)

theorem love_alike : love.Alike templates := by
  intro kernel args args' h
  refine look_bind (fun _ _ => rfl) fun scene _ => ?_
  simp only [← affected_eq h]
  cases affected scene args with
  | nil =>
    have hobjects := objects_alike h scene
    generalize objects scene args = things, objects scene args' = things' at hobjects
    cases hobjects with
    | nil => exact answer (.refl _)
    | cons _ _ => exact answer_worded (by simp +decide) (by simp +decide)
  | cons lover rest =>
    refine bind (adjust _ _ _) fun _ _ _ => ?_
    exact answer_worded (by simp +decide) (by simp +decide)

/-! ## Everyday actions -/

theorem play_alike : play.Alike templates := by
  intro kernel args args' h
  refine look_bind (fun _ _ => rfl) fun scene _ => ?_
  simp only [← affected_eq h, ← isEmpty_eq_of_forall₂ (objects_alike h scene)]
  refine bind (forEach (fun _ => adjust _ _ _) _) fun _ _ _ => ?_
  rcases affected scene args with _ | ⟨only, _ | ⟨second, rest⟩⟩
  · dsimp only
    split
    case isTrue => exact answer (.refl _)
    case isFalse => exact answer_worded (by simp +decide) (by simp +decide)
  · dsimp only
    split
    case isTrue =>
      have hspeaks : templates.Speaks "play" [("name", nameOf scene only)] :=
        speaks (by simp [categorySlots])
      exact template_answer hspeaks hspeaks
    case isFalse => exact answer_worded (by simp +decide) (by simp +decide)
  · exact answer (.refl _)

theorem find_alike : find.Alike templates := by
  intro kernel args args' h
  refine look_bind (fun _ _ => rfl) fun scene _ => ?_
  simp only [← subject_eq h]
  cases scene.subject args with
  | none => exact answer_worded (by simp +decide) (by simp +decide)
  | some id =>
    refine bind (adjust _ _ _) fun _ _ _ => bind (request (.object _ _)) fun _ _ _ => ?_
    exact template_answer (speaks (by simp [categorySlots])) (speaks (by simp [categorySlots]))

theorem run_alike : run.Alike templates := by
  intro kernel args args' h
  refine look_bind (fun _ _ => rfl) fun scene _ => ?_
  simp only [← h.firstCharacter_eq, ← h.concepts_eq]
  cases args.firstCharacter with
  | none => cases args.concepts <;> exact answer (.refl _)
  | some id => exact bind (adjust _ _ _) fun _ _ _ => answer (.refl _)

theorem help_alike : help.Alike templates := by
  intro kernel args args' h
  refine look_bind (fun _ _ => rfl) fun scene _ => ?_
  simp only [← h.characters_eq]
  rcases args.characters with _ | ⟨helper, _ | ⟨helped, rest⟩⟩
  · exact answer (.refl _)
  · exact answer (.refl _)
  · refine bind (adjust _ _ _) fun _ _ _ => bind (adjust _ _ _) fun _ _ _ => ?_
    exact bind (adjust _ _ _) fun _ _ _ => answer (.refl _)

theorem give_alike : give.Alike templates := by
  intro kernel args args' h
  refine look_bind (fun _ _ => rfl) fun scene _ => ?_
  have hobjects := objects_alike h scene
  simp only [← h.characters_eq]
  generalize objects scene args = gifts, objects scene args' = gifts' at hobjects
  rcases args.characters with _ | ⟨giver, _ | ⟨receiver, rest⟩⟩
  · exact answer (.refl _)
  · cases hobjects with
    | nil => exact answer (.refl _)
    | cons _ _ => exact answer_worded (by simp +decide) (by simp +decide)
  · refine bind (adjust _ _ _) fun _ _ _ => bind (adjust _ _ _) fun _ _ _ => ?_
    refine bind (request (.object _ _)) fun _ _ _ => ?_
    exact answer_worded (by simp +decide) (by simp +decide)

theorem cry_alike : cry.Alike templates := by
  intro kernel args args' h
  refine look_bind (fun _ _ => rfl) fun scene _ => ?_
  simp only [← h.firstCharacter_eq]
  cases args.firstCharacter with
  | none => exact answer (.refl _)
  | some id =>
    refine bind (adjust _ _ _) fun _ _ _ => bind (adjust _ _ _) fun _ _ _ => ?_
    exact answer (.refl _)

/-! ## Arcs -/

theorem step_alike (h : args.Alike args') (key : String) {sentence : Value → String}
    (hsentence : ∀ v w : Value, v.Alike w → Alike (sentence v) (sentence w)) :
    List.Forall₂ Alike (step args key sentence) (step args' key sentence) :=
  rel_toList (rel_optionMap hsentence (h.keyword key))

theorem step_worded (h : args.Alike args') (key : String) {sentence : Value → String}
    (hsentence : ∀ value, Worded (sentence value)) :
    List.Forall₂ Alike (step args key sentence) (step args' key sentence) :=
  step_alike h key fun v w _ => (hsentence v).alike (hsentence w)

theorem keyword_isSome_eq (h : args.Alike args') (key : String) :
    (args.keyword key).isSome = (args'.keyword key).isSome := by
  have hkeyword := h.keyword key
  generalize args.keyword key = value, args'.keyword key = other at hkeyword
  cases hkeyword <;> rfl

theorem hero_eq (h : args.Alike args') (scene : Scene) : hero scene args = hero scene args' := by
  rw [hero, hero, subject_eq h]

theorem worded_hero (h : scene.Named) (args : Args) : Worded (hero scene args).2 := by
  unfold hero
  cases scene.subject args with
  | none => exact (by decide : Worded "someone")
  | some id => exact worded_nameOf h id

theorem adjustHero_alike {t : Template.Table} (id : Option CharacterId)
    (shifts : List (Emotion × Float)) :
    Telling.Alike t Eq (adjustHero id shifts) (adjustHero id shifts) := by
  cases id with
  | none => exact pure rfl
  | some id => exact bind (forEach (fun _ => adjust _ _ _) _) fun _ _ _ => pure rfl

/-- What is done in one case only, before what is done in any case. -/
theorem first_alike {α : Type} {t : Template.Table} {R : α → α → Prop} {c : Prop} [Decidable c]
    {first : Telling Unit} {rest rest' : Telling α} (hfirst : Telling.Alike t Eq first first)
    (h : Telling.Alike t R rest rest') :
    Telling.Alike t R (if c then first >>= fun _ => rest else rest)
      (if c then first >>= fun _ => rest' else rest') := by
  split
  case isTrue => exact bind hfirst fun _ _ _ => h
  case isFalse => exact h

theorem arc_alike {t : Template.Table} {kernel category : String} {slots : Template.Slots}
    {sentences sentences' : List String} (h : List.Forall₂ Alike sentences sentences')
    (hspeaks : t.Speaks category slots) :
    Telling.Alike t Fragment.Alike (arc ⟨kernel, args⟩ sentences category slots)
      (arc ⟨kernel, args'⟩ sentences' category slots) := by
  unfold arc
  rw [isEmpty_eq_of_forall₂ h]
  split
  case isTrue => exact template_answer hspeaks hspeaks
  case isFalse => exact answer (alike_prose h)

theorem journey_alike : journey.Alike templates := by
  intro kernel args args' h
  refine look_bind (fun _ _ => rfl) fun scene hnamed => ?_
  have hwho := worded_hero hnamed args
  simp only [← hero_eq h, ← keyword_isSome_eq h]
  generalize hero scene args = hero at hwho
  obtain ⟨id, who⟩ := hero
  dsimp only at hwho ⊢
  refine first_alike (adjustHero_alike _ _) (first_alike (adjustHero_alike _ _) (arc_alike ?_
    (speaks (by simp [categorySlots]))))
  refine List.rel_append (List.rel_append (List.rel_append (List.rel_append (List.rel_append
    (step_worded h _ ?state) (step_worded h _ ?catalyst)) (step_worded h _ ?crisis))
    (step_worded h _ ?process)) (step_worded h _ ?insight)) (step_worded h _ ?transformation)
  -- the name is what makes the sentence of an action say something
  case process => exact fun _ => by simp [hwho]
  all_goals exact fun _ => by simp +decide

theorem cautionary_alike : cautionary.Alike templates := by
  intro kernel args args' h
  refine look_bind (fun _ _ => rfl) fun scene hnamed => ?_
  have hevent := rel_orElse (h.keyword "event") (h.keyword "trigger")
  simp only [← hero_eq h, ← keyword_isSome_eq h]
  generalize hero scene args = hero
  obtain ⟨id, who⟩ := hero
  refine first_alike (adjustHero_alike _ _) (arc_alike ?_ (speaks (by simp [categorySlots])))
  refine List.rel_append (List.rel_append (List.rel_append (step_worded h _ ?state)
    (rel_toList (rel_optionMap ?event hevent))) (step_worded h _ ?consequence))
    (step_worded h _ ?lesson)
  case event => exact fun _ _ _ => .inr ⟨by simp +decide, by simp +decide⟩
  all_goals exact fun _ => by simp +decide

theorem friendship_alike : friendship.Alike templates := by
  intro kernel args args' h
  refine look_bind (fun _ _ => rfl) fun scene _ => ?_
  simp only [← affected_eq h]
  cases affected scene args with
  | nil => exact refuse _
  | cons first others =>
    refine bind (forEach (fun _ => adjust _ _ _) _) fun _ _ _ => ?_
    refine bind (template (speaks (by simp [categorySlots]))
      (speaks (by simp [categorySlots]))) fun _ _ hmeeting => ?_
    refine answer (alike_prose ?_)
    refine List.rel_append (List.rel_append (List.rel_append (List.rel_append
      (step_worded h _ ?state) (step_worded h _ ?catalyst)) (step_alike h _ ?process))
      (.cons hmeeting .nil)) (step_worded h _ ?transformation)
    case process => exact fun _ _ hprocess => Value.phrase_alike scene.cast hprocess
    all_goals exact fun _ => by simp +decide

theorem activityOf_alike (h : args.Alike args') (scene : Scene) :
    Option.Rel Alike (activityOf scene args) (activityOf scene args') := by
  have hkeyword := rel_orElse (h.keyword "activity") (h.keyword "process")
  refine rel_orElse (rel_optionMap (fun _ _ h => h.phrase) (rel_head? h.fragments)) (rel_orElse
    (rel_optionMap (fun _ _ h => Value.phrase_alike scene.cast h) hkeyword) ?_)
  exact rel_head? (objects_alike h scene)

theorem routine_alike : routine.Alike templates := by
  intro kernel args args' h
  refine look_bind (fun _ _ => rfl) fun scene _ => ?_
  have hactivity := activityOf_alike h scene
  simp only [← subject_eq h]
  generalize activityOf scene args = activity, activityOf scene args' = activity' at hactivity
  cases scene.subject args with
  | none => exact answer (.refl _)
  | some id =>
    cases hactivity with
    | none => exact answer (.refl _)
    | some _ =>
      -- the two activities may end in other ways, so each side goes by its own
      dsimp only
      split <;> split <;> exact answer_worded (by simp +decide) (by simp +decide)

/-! ## The pack -/

/-- Given arguments that are alike, every starter kernel does what is alike. -/
theorem handlersAlike_registry : registry.HandlersAlike templates := by
  refine Registry.HandlersAlike.ofList ?_
  simp only [List.forall_mem_cons]
  exact ⟨introduce_alike, joy_alike, feel_alike .fear (by rintro _ ⟨⟩; simp [categorySlots]),
    feel_alike .sadness (by rintro _ ⟨⟩; simp [categorySlots]), feel_alike .happiness nofun,
    feel_alike .bravery nofun, love_alike, play_alike, find_alike, run_alike, help_alike,
    give_alike, cry_alike, journey_alike, cautionary_alike, friendship_alike, routine_alike,
    nofun⟩

end Starter

end Storyweave
