import Storyweave.Proofs.Kernel.Wording

/-!
# What a kernel answers

A kernel that makes no nested call sees one and the same scene for as long as it runs. Results:
1. `Action.Ends.bind`: such an action ends well if all templates that it asks for are there and can
   be filled.
2. `Telling.Answers.bind`, `Telling.Answers.forEach`: what is put together of actions that refuse
   for certain reasons only refuses for these reasons only.
-/

namespace Storyweave

open Storyweave.Story

/-- A category has templates, and whatever chance chooses, it can be filled. -/
structure Template.Table.Serves (t : Table) (category : String) (slots : Slots) : Prop where
  contains : t.contains category = true
  fills : ∀ chance, ∃ text, (t.generate category slots chance).1 = .ok text

namespace Kernel

open Storyweave.Template

/-- In a scene that does not change, an action makes no nested call, asks only for templates that it
gets, and ends in a result with a property. -/
inductive Action.Ends {α : Type} (t : Table) (scene : Scene) (P : α → Prop) : Action α → Prop where
  | done {result : α} : P result → Ends t scene P (.done result)
  | look {next : Scene → Action α} : Ends t scene P (next scene) → Ends t scene P (.look next)
  | draw {next : UInt32 → Action α} :
    (∀ word, Ends t scene P (next word)) → Ends t scene P (.draw next)
  | template {category : String} {slots : Slots}
    {next : Except TemplateError String → Action α} :
    t.Serves category slots → (∀ text, Ends t scene P (next (.ok text))) →
    Ends t scene P (.template category slots next)
  | request {next : Action α} (effect : Effect) :
    Ends t scene P next → Ends t scene P (.request effect next)

section

variable {α β : Type} {t : Table} {scene : Scene}

theorem Action.Ends.bind {P : α → Prop} {Q : β → Prop} {action : Action α} {f : α → Action β}
    (h : action.Ends t scene P) (hf : ∀ result, P result → (f result).Ends t scene Q) :
    (action.bind f).Ends t scene Q := by
  induction h with
  | done hresult => exact hf _ hresult
  | look _ ih => exact .look ih
  | draw _ ih => exact .draw ih
  | template hserves _ ih => exact .template hserves ih
  | request effect _ ih => exact .request effect ih

/-- An end that is no refusal, or one for a certain reason. -/
def Excused (refuses : String → Prop) (result : Except Refusal α) : Prop :=
  ∀ refusal, result = .error refusal → refuses refusal.message

/-- In a scene that does not change, a kernel makes no nested call, asks only for templates that it
gets, and refuses for certain reasons only. -/
def Telling.Answers (t : Table) (scene : Scene) (refuses : String → Prop)
    (telling : Telling α) : Prop :=
  Action.Ends t scene (Excused refuses) telling.run

namespace Telling.Answers

variable {refuses : String → Prop}

theorem pure (value : α) : Answers t scene refuses (Pure.pure value) := .done nofun

theorem refuse {message : String} (h : refuses message) :
    Answers t scene refuses (Telling.refuse message : Telling α) :=
  .done fun _ heq => Except.error.inj heq ▸ h

theorem bind {telling : Telling α} {f : α → Telling β} (h : Answers t scene refuses telling)
    (hf : ∀ value, Answers t scene refuses (f value)) :
    Answers t scene refuses (telling >>= f) := by
  refine Action.Ends.bind h fun result hresult => ?_
  cases result with
  | error refusal => exact .done fun _ heq => Except.error.inj heq ▸ hresult refusal rfl
  | ok value => exact hf value

/-- A kernel that looks sees the scene. -/
theorem look_bind {f : Scene → Telling α} (h : Answers t scene refuses (f scene)) :
    Answers t scene refuses (Telling.look >>= f) :=
  Action.Ends.look h

theorem request (effect : Effect) : Answers t scene refuses (Telling.request effect) :=
  Action.Ends.request effect (.done nofun)

theorem adjust (id : CharacterId) (emotion : Emotion) (delta : Float) :
    Answers t scene refuses (Telling.adjust id emotion delta) :=
  request _

theorem template {category : String} {slots : Slots} (h : t.Serves category slots) :
    Answers t scene refuses (Telling.template category slots) :=
  Action.Ends.template h fun _ => .done nofun

theorem forEach {step : α → Telling PUnit} (h : ∀ item, Answers t scene refuses (step item))
    (items : List α) :
    Answers t scene refuses
      (ForIn.forIn items PUnit.unit fun item _ => do step item; return .yield ⟨⟩) := by
  induction items with
  | nil => exact pure _
  | cons item rest ih =>
    rw [List.forIn_cons]
    refine bind (bind (h item) fun _ => pure _) fun step => ?_
    cases step with
    | done state => exact pure _
    | yield state => exact ih

end Telling.Answers

end

/-- A scene knows the characters among some arguments. -/
def Scene.Knows (scene : Scene) (args : Args) : Prop :=
  ∀ id ∈ args.characters, (scene.character id).isSome

/-- Given arguments whose characters are known, a handler refuses for certain reasons only. -/
def Handler.Answers (t : Table) (kernel : String) (refuses : Scene → Args → String → Prop)
    (handler : Handler) : Prop :=
  ∀ scene args, scene.Knows args →
    Telling.Answers t scene (refuses scene args) (handler ⟨kernel, args⟩)

end Kernel

end Storyweave
