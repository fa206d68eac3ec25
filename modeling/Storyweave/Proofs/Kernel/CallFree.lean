import Storyweave.Starter.Pack

/-!
# Handlers without nested calls

Results:
1. `Telling.CallFree.bind`, `Telling.CallFree.forEach`: what is put together of actions that make no
   nested call makes none.
2. `Starter.callFree_registry`: the starter kernels make none.
-/

namespace Storyweave

open Storyweave.Story Storyweave.Kernel Storyweave.Evaluation

namespace Kernel

/-- Whatever it is answered, an action makes no nested call. -/
inductive Action.CallFree {α : Type} : Action α → Prop
  | done (result : α) : CallFree (.done result)
  | look {next : Scene → Action α} : (∀ scene, CallFree (next scene)) → CallFree (.look next)
  | draw {next : UInt32 → Action α} : (∀ word, CallFree (next word)) → CallFree (.draw next)
  | template {next : Except Template.TemplateError String → Action α} (category : String)
      (slots : Template.Slots) :
      (∀ answer, CallFree (next answer)) → CallFree (.template category slots next)
  | request {next : Action α} (effect : Effect) :
      CallFree next → CallFree (.request effect next)

theorem Action.CallFree.bind {α β : Type} {action : Action α} {f : α → Action β}
    (h : action.CallFree) (hf : ∀ result, (f result).CallFree) : (action.bind f).CallFree := by
  induction h with
  | done result => exact hf result
  | look _ ih => exact .look ih
  | draw _ ih => exact .draw ih
  | template category slots _ ih => exact .template category slots ih
  | request effect _ ih => exact .request effect ih

/-- An action that may end in a refusal makes no nested call. -/
def Telling.CallFree {α : Type} (telling : Telling α) : Prop := Action.CallFree telling.run

namespace Telling.CallFree

variable {α β : Type}

theorem pure (result : α) : CallFree (Pure.pure result) := .done _

theorem refuse (message : String) : CallFree (Telling.refuse message : Telling α) := .done _

theorem bind {telling : Telling α} {f : α → Telling β} (h : CallFree telling)
    (hf : ∀ result, CallFree (f result)) : CallFree (telling >>= f) := by
  refine Action.CallFree.bind h fun result => ?_
  cases result with
  | error refusal => exact .done _
  | ok value => exact hf value

theorem look : CallFree Telling.look :=
  Action.CallFree.look fun _ => .done _

theorem adjust (id : CharacterId) (emotion : Emotion) (delta : Float) :
    CallFree (Telling.adjust id emotion delta) :=
  Action.CallFree.request _ (.done _)

theorem request (effect : Effect) : CallFree (Telling.request effect) :=
  Action.CallFree.request _ (.done _)

theorem template (category : String) (slots : Template.Slots) :
    CallFree (Telling.template category slots) := by
  refine bind (Action.CallFree.template _ _ fun _ => .done _) fun answer => ?_
  cases answer with
  | ok text => exact pure text
  | error e => exact refuse _

theorem forIn {body : α → β → Telling (ForInStep β)}
    (h : ∀ item state, CallFree (body item state)) (items : List α) (state : β) :
    CallFree (ForIn.forIn items state body) := by
  induction items generalizing state with
  | nil => exact pure state
  | cons item rest ih =>
    rw [List.forIn_cons]
    refine bind (h item state) fun step => ?_
    cases step with
    | done state => exact pure state
    | yield state => exact ih state

theorem forEach {step : α → Telling PUnit} (h : ∀ item, CallFree (step item))
    (items : List α) :
    CallFree (ForIn.forIn items PUnit.unit fun item _ => do step item; return .yield ⟨⟩) :=
  forIn (fun item _ => bind (h item) fun _ => pure _) items PUnit.unit

end Telling.CallFree

/-- A handler makes no nested call. -/
def Handler.CallFree (handler : Handler) : Prop := ∀ call, Telling.CallFree (handler call)

end Kernel

/-- No handler makes a nested call. -/
def Evaluation.Registry.CallFree (registry : Registry) : Prop :=
  ∀ kernel handler, registry.find? kernel = some handler → handler.CallFree

/-- What is found in the catalogue of a list is among its entries. -/
theorem Catalogue.mem_of_find?_ofList {α : Type} {entries : List (String × α)} {name : String}
    {value : α} (h : (Catalogue.ofList entries).find? name = some value) :
    (name, value) ∈ entries := by
  suffices hfold : ∀ (c : Catalogue α),
      (entries.foldl (fun c entry => c.insert entry.1 entry.2) c).find? name = some value →
        (name, value) ∈ entries ∨ c.find? name = some value by
    exact (hfold .empty h).resolve_right (Option.some_ne_none value).symm
  clear h
  induction entries with
  | nil => exact fun c h => .inr h
  | cons entry rest ih =>
    intro c h
    rcases ih _ h with hrest | hinsert
    · exact .inl (List.mem_cons_of_mem _ hrest)
    · rw [Catalogue.find?_insert] at hinsert
      split at hinsert
      case isTrue heq =>
        rw [heq, ← Option.some.inj hinsert]
        exact .inl List.mem_cons_self
      case isFalse => exact .inr hinsert

theorem Evaluation.Registry.CallFree.ofList {entries : List (String × Handler)}
    (h : ∀ entry ∈ entries, entry.2.CallFree) : Registry.CallFree (.ofList entries) :=
  fun kernel handler hfind => h (kernel, handler) (Catalogue.mem_of_find?_ofList hfind)

namespace Starter

open Telling.CallFree (pure refuse bind look adjust request template forEach)

theorem callFree_introduce : introduce.CallFree := by
  intro call
  refine bind look fun scene => ?_
  split
  · exact refuse _
  · split
    · exact refuse _
    · exact bind (template _ _) fun _ => pure _

theorem callFree_feel (feeling : Feeling) : (feel feeling).CallFree := by
  intro call
  refine bind look fun scene => ?_
  dsimp only
  split
  · exact pure _
  · refine bind (forEach (fun id => forEach (fun _ => adjust _ _ _) _) _) fun _ => ?_
    split
    · exact bind (template _ _) fun _ => pure _
    · exact pure _

theorem callFree_joy : joy.CallFree := by
  intro call
  refine bind look fun scene => ?_
  dsimp only
  split
  · exact bind (forEach (fun _ => adjust _ _ _) _) fun _ => pure _
  · exact callFree_feel _ call

theorem callFree_love : love.CallFree := by
  intro call
  refine bind look fun scene => ?_
  dsimp only
  split
  · split <;> exact pure _
  · exact bind (adjust _ _ _) fun _ => pure _

theorem callFree_play : play.CallFree := by
  intro call
  refine bind look fun scene => ?_
  dsimp only
  refine bind (forEach (fun _ => adjust _ _ _) _) fun _ => ?_
  split
  · exact pure _
  · split
    · exact bind (template _ _) fun _ => pure _
    · exact pure _
  · exact pure _

theorem callFree_find : find.CallFree := by
  intro call
  refine bind look fun scene => ?_
  dsimp only
  split
  · exact pure _
  · refine bind (adjust _ _ _) fun _ => bind (request _) fun _ => ?_
    exact bind (template _ _) fun _ => pure _

theorem callFree_run : run.CallFree := by
  intro call
  refine bind look fun scene => ?_
  split
  · exact bind (adjust _ _ _) fun _ => pure _
  · split <;> exact pure _

theorem callFree_help : help.CallFree := by
  intro call
  refine bind look fun scene => ?_
  split
  · refine bind (adjust _ _ _) fun _ => bind (adjust _ _ _) fun _ => ?_
    exact bind (adjust _ _ _) fun _ => pure _
  · exact pure _
  · exact pure _

theorem callFree_give : give.CallFree := by
  intro call
  refine bind look fun scene => ?_
  dsimp only
  split
  · refine bind (adjust _ _ _) fun _ => bind (adjust _ _ _) fun _ => ?_
    exact bind (request _) fun _ => pure _
  · exact pure _
  · exact pure _

theorem callFree_cry : cry.CallFree := by
  intro call
  refine bind look fun scene => ?_
  split
  · exact pure _
  · exact bind (adjust _ _ _) fun _ => bind (adjust _ _ _) fun _ => pure _

theorem callFree_adjustHero (id : Option CharacterId) (shifts : List (Emotion × Float)) :
    Telling.CallFree (adjustHero id shifts) := by
  cases id with
  | none => exact pure _
  | some id => exact bind (forEach (fun _ => adjust _ _ _) _) fun _ => pure _

theorem callFree_arc (call : Invocation) (sentences : List String) (category : String)
    (slots : Template.Slots) : Telling.CallFree (arc call sentences category slots) := by
  unfold arc
  split
  · exact bind (template _ _) fun _ => pure _
  · exact pure _

theorem callFree_journey : journey.CallFree := by
  intro call
  refine bind look fun scene => ?_
  dsimp only
  split
  · refine bind (callFree_adjustHero _ _) fun _ => ?_
    split
    · exact bind (callFree_adjustHero _ _) fun _ => callFree_arc _ _ _ _
    · exact callFree_arc _ _ _ _
  · split
    · exact bind (callFree_adjustHero _ _) fun _ => callFree_arc _ _ _ _
    · exact callFree_arc _ _ _ _

theorem callFree_cautionary : cautionary.CallFree := by
  intro call
  refine bind look fun scene => ?_
  dsimp only
  split
  · exact bind (callFree_adjustHero _ _) fun _ => callFree_arc _ _ _ _
  · exact callFree_arc _ _ _ _

theorem callFree_friendship : friendship.CallFree := by
  intro call
  refine bind look fun scene => ?_
  dsimp only
  split
  · exact refuse _
  · refine bind (forEach (fun _ => adjust _ _ _) _) fun _ => ?_
    exact bind (template _ _) fun _ => pure _

theorem callFree_routine : routine.CallFree := by
  intro call
  refine bind look fun scene => ?_
  split
  · split <;> exact pure _
  · exact pure _
  · exact pure _

/-- The starter kernels make no nested call. -/
theorem callFree_registry : registry.CallFree := by
  refine Registry.CallFree.ofList ?_
  simp only [List.forall_mem_cons]
  exact ⟨callFree_introduce, callFree_joy, callFree_feel .fear, callFree_feel .sadness,
    callFree_feel .happiness, callFree_feel .bravery, callFree_love, callFree_play, callFree_find,
    callFree_run, callFree_help, callFree_give, callFree_cry, callFree_journey,
    callFree_cautionary, callFree_friendship, callFree_routine, nofun⟩

end Starter

end Storyweave
