import Storyweave.Starter.Pack

/-!
# The focus as a missing character

Where a call stands on its own and no character is among its arguments, the character in focus takes
that place. Results:
1. `Args.sameReadings_insert_focus`: to the readings of the starter kernels it is all the same whether
   the focus is among the arguments or not.
2. `Evaluation.Environment.Indistinct`: actions that cannot be told apart where a scene is seen.
3. `indistinct_feel` to `indistinct_routine`: kernels that read their arguments alike do the same.
4. `dispatch_insert_focus`: so the focus stands in for a character with all consequences.
-/

namespace Storyweave

open Storyweave.Story Storyweave.Kernel Storyweave.Evaluation Storyweave.Starter

/-! ## Readings of the arguments -/

namespace Kernel.Args

/-- The arguments with one more in front. -/
def insert (args : Args) (value : Value) : Args := { args with positional := value :: args.positional }

/-- Arguments that the starter kernels read alike in a scene. -/
structure SameReadings (scene : Scene) (a b : Args) : Prop where
  affected : affected scene a = affected scene b
  subject : scene.subject a = scene.subject b
  objects : objects scene a = objects scene b
  fragments : a.fragments = b.fragments
  keyword : a.keyword = b.keyword

variable {scene : Scene} {args : Args} {id : CharacterId}

/-- Outside of other calls the focus is read as if it were the only character of the arguments. -/
theorem sameReadings_insert_focus (hfocus : scene.focus = some id) (hnested : scene.nested = false)
    (hargs : args.characters = []) : SameReadings scene args (args.insert (.character id)) where
  affected := by
    have hcharacters : (args.insert (.character id)).characters = [id] := by
      have hfirst : Value.asCharacter (.character id) = some id := rfl
      rw [characters] at hargs
      rw [characters, insert, List.filterMap_cons_some hfirst, hargs]
    rw [Starter.affected, Starter.affected, hargs, hcharacters, hfocus, hnested]
    rfl
  subject := by
    rw [Scene.subject, firstCharacter, hargs, hfocus]
    rfl
  objects := rfl
  fragments := rfl
  keyword := rfl

end Kernel.Args

/-! ## Actions that cannot be told apart -/

namespace Evaluation.Environment

/-- Two actions that have the same result, ask for the same effects and leave the same state wherever
a scene is seen. -/
def Indistinct (env : Environment) (room : Nat) (scene : Scene) {α : Type} (a b : Telling α) : Prop :=
  ∀ answer run, env.scene room run = scene →
    env.perform room answer a.run run = env.perform room answer b.run run

namespace Indistinct

variable {env : Environment} {room : Nat} {scene : Scene} {α : Type}

variable {a b : Telling α}

theorem refl (a : Telling α) : env.Indistinct room scene a a := fun _ _ _ => rfl

/-- Looking at the scene shows the scene that is seen. -/
theorem look_bind {f g : Scene → Telling α} (h : env.Indistinct room scene (f scene) (g scene)) :
    env.Indistinct room scene (Telling.look >>= f) (Telling.look >>= g) := by
  intro answer run hscene
  show env.perform room answer (f (env.scene room run)).run run =
    env.perform room answer (g (env.scene room run)).run run
  rw [hscene]
  exact h answer run hscene

end Indistinct

/-- A dispatch is the same for arguments that its handler cannot tell apart. -/
theorem dispatchWith_congr {env : Environment} {room : Nat} {kernel : String} {handler : Handler}
    {a b : Args} {run : Run} (hfind : env.registry.find? kernel = some handler)
    (hsame : env.Indistinct room (env.scene room run) (handler ⟨kernel, a⟩) (handler ⟨kernel, b⟩))
    (answer : Answer) :
    env.dispatchWith room answer kernel a run = env.dispatchWith room answer kernel b run := by
  have hperform := hsame answer { run with calls := run.calls + 1 } rfl
  simp only [dispatchWith, hfind, hperform]

theorem dispatch_congr {env : Environment} {room : Nat} {kernel : String} {handler : Handler}
    {a b : Args} {run : Run} (hfind : env.registry.find? kernel = some handler)
    (hsame : env.Indistinct room (env.scene room run) (handler ⟨kernel, a⟩) (handler ⟨kernel, b⟩)) :
    env.dispatch room kernel a run = env.dispatch room kernel b run := by
  cases room with
  | zero => exact dispatchWith_congr hfind hsame _
  | succ room => exact dispatchWith_congr hfind hsame _

end Evaluation.Environment

/-! ## Kernels -/

namespace Starter

open Environment.Indistinct (look_bind)

variable {env : Environment} {room : Nat} {scene : Scene} {a b : Args} {kernel : String}

theorem indistinct_feel (feeling : Feeling) (h : a.SameReadings scene b) :
    env.Indistinct room scene (feel feeling ⟨kernel, a⟩) (feel feeling ⟨kernel, b⟩) := by
  refine look_bind ?_
  simp only [h.affected]
  exact .refl _

theorem indistinct_joy (h : a.SameReadings scene b) :
    env.Indistinct room scene (joy ⟨kernel, a⟩) (joy ⟨kernel, b⟩) := by
  refine look_bind ?_
  simp only [h.affected, h.keyword]
  split
  · exact .refl _
  · exact indistinct_feel _ h

theorem indistinct_love (h : a.SameReadings scene b) :
    env.Indistinct room scene (love ⟨kernel, a⟩) (love ⟨kernel, b⟩) := by
  refine look_bind ?_
  simp only [h.affected, h.objects]
  exact .refl _

theorem indistinct_play (h : a.SameReadings scene b) :
    env.Indistinct room scene (play ⟨kernel, a⟩) (play ⟨kernel, b⟩) := by
  refine look_bind ?_
  simp only [h.affected, h.objects]
  exact .refl _

theorem indistinct_find (h : a.SameReadings scene b) :
    env.Indistinct room scene (find ⟨kernel, a⟩) (find ⟨kernel, b⟩) := by
  refine look_bind ?_
  simp only [h.subject, h.objects, h.keyword]
  exact .refl _

theorem indistinct_journey (h : a.SameReadings scene b) :
    env.Indistinct room scene (journey ⟨kernel, a⟩) (journey ⟨kernel, b⟩) := by
  refine look_bind ?_
  simp only [hero, step, h.subject, h.keyword]
  exact .refl _

theorem indistinct_cautionary (h : a.SameReadings scene b) :
    env.Indistinct room scene (cautionary ⟨kernel, a⟩) (cautionary ⟨kernel, b⟩) := by
  refine look_bind ?_
  simp only [hero, step, h.subject, h.keyword]
  exact .refl _

theorem indistinct_friendship (h : a.SameReadings scene b) :
    env.Indistinct room scene (friendship ⟨kernel, a⟩) (friendship ⟨kernel, b⟩) := by
  refine look_bind ?_
  simp only [step, h.affected, h.keyword]
  exact .refl _

theorem indistinct_routine (h : a.SameReadings scene b) :
    env.Indistinct room scene (routine ⟨kernel, a⟩) (routine ⟨kernel, b⟩) := by
  refine look_bind ?_
  simp only [activityOf, h.subject, h.fragments, h.objects, h.keyword]
  exact .refl _

/-- The kernels that turn to the focus where a character is missing. -/
def standInKernels : List String :=
  ["Joy", "Fear", "Sadness", "Happy", "Brave", "Love", "Play", "Find", "Journey", "Cautionary",
    "Friendship", "Routine"]

/-- All these kernels do the same for arguments that they read alike. -/
theorem indistinct_of_mem_standInKernels (hkernel : kernel ∈ standInKernels) :
    ∃ handler, registry.find? kernel = some handler ∧
      ∀ env room scene a b, Args.SameReadings scene a b →
        Environment.Indistinct env room scene (handler ⟨kernel, a⟩) (handler ⟨kernel, b⟩) := by
  simp only [standInKernels, List.mem_cons, List.not_mem_nil, or_false] at hkernel
  rcases hkernel with rfl | rfl | rfl | rfl | rfl | rfl | rfl | rfl | rfl | rfl | rfl | rfl
  · exact ⟨joy, rfl, fun _ _ _ _ _ => indistinct_joy⟩
  · exact ⟨feel .fear, rfl, fun _ _ _ _ _ => indistinct_feel _⟩
  · exact ⟨feel .sadness, rfl, fun _ _ _ _ _ => indistinct_feel _⟩
  · exact ⟨feel .happiness, rfl, fun _ _ _ _ _ => indistinct_feel _⟩
  · exact ⟨feel .bravery, rfl, fun _ _ _ _ _ => indistinct_feel _⟩
  · exact ⟨love, rfl, fun _ _ _ _ _ => indistinct_love⟩
  · exact ⟨play, rfl, fun _ _ _ _ _ => indistinct_play⟩
  · exact ⟨find, rfl, fun _ _ _ _ _ => indistinct_find⟩
  · exact ⟨journey, rfl, fun _ _ _ _ _ => indistinct_journey⟩
  · exact ⟨cautionary, rfl, fun _ _ _ _ _ => indistinct_cautionary⟩
  · exact ⟨friendship, rfl, fun _ _ _ _ _ => indistinct_friendship⟩
  · exact ⟨routine, rfl, fun _ _ _ _ _ => indistinct_routine⟩

/-- Outside of other calls the focus stands in for the missing character of such a kernel: whether it
is left out or put in front of the arguments, the handler has the same result, asks for the same
effects and leaves the same state, and so does the dispatch. -/
theorem dispatch_insert_focus {env : Environment} {room : Nat} {kernel : String} {run : Run}
    {args : Args} {id : CharacterId} (hkernel : kernel ∈ standInKernels)
    (hregistry : env.registry.find? kernel = registry.find? kernel)
    (hfocus : run.narrative.focus = some id) (hlevel : (env.scene room run).nested = false)
    (hargs : args.characters = []) :
    ∃ handler, env.registry.find? kernel = some handler ∧
      (∀ answer, env.perform room answer (handler ⟨kernel, args⟩).run run =
        env.perform room answer (handler ⟨kernel, args.insert (.character id)⟩).run run) ∧
      env.dispatch room kernel args run =
        env.dispatch room kernel (args.insert (.character id)) run := by
  obtain ⟨handler, hfind, hsame⟩ := indistinct_of_mem_standInKernels hkernel
  rw [← hregistry] at hfind
  have hsame := hsame env room (env.scene room run) _ _
    (Args.sameReadings_insert_focus hfocus hlevel hargs)
  exact ⟨handler, hfind, fun answer => hsame answer run rfl, Environment.dispatch_congr hfind hsame⟩


/-- The starter kernels and templates under the standard limits. -/
def starters : Environment := ⟨registry, templates, .standard⟩

/-- A story that Tim has just entered. -/
def withTim : Run :=
  .start <| ((Narrative.start 0 .percent).declare "Tim" ["boy"]).elim (.start 0 .percent)
    fun declared => { declared.2 with focus := some declared.1 }

/-- Arguments with a thing and a keyword, but no character. -/
def ballAndInsight : Args := ⟨[.concept "ball"], [("insight", .text "patience")]⟩

/-- Tim plays with the ball and goes on a journey, whether the calls name him or not. -/
theorem dispatch_insert_tim :
    (∀ kernel ∈ ["Play", "Journey"], kernel ∈ standInKernels ∧
      starters.registry.find? kernel = registry.find? kernel ∧
      starters.dispatch 63 kernel ballAndInsight withTim =
        starters.dispatch 63 kernel
          ⟨[.character 0, .concept "ball"], [("insight", .text "patience")]⟩ withTim) ∧
    withTim.narrative.focus = some 0 ∧ (starters.scene 63 withTim).nested = false ∧
    ballAndInsight.characters = [] ∧
    (starters.dispatch 63 "Play" ballAndInsight withTim).1 =
      .ok ⟨"Tim played with the ball.", 1, "Play"⟩ ∧
    (starters.dispatch 63 "Journey" ballAndInsight withTim).1 =
      .ok ⟨"Tim learned something important.", 1, "Journey"⟩ := by
  have hfocus : withTim.narrative.focus = some 0 := rfl
  have hlevel : (starters.scene 63 withTim).nested = false := by decide +kernel
  have hargs : ballAndInsight.characters = [] := rfl
  have hkernels : ["Play", "Journey"] ⊆ standInKernels := by decide
  refine ⟨fun kernel hmem => ?_, hfocus, hlevel, hargs, rfl, rfl⟩
  have hregistry : starters.registry.find? kernel = registry.find? kernel := rfl
  obtain ⟨handler, -, -, hdispatch⟩ :=
    dispatch_insert_focus (hkernels hmem) hregistry hfocus hlevel hargs
  exact ⟨hkernels hmem, hregistry, hdispatch⟩

end Starter

end Storyweave
