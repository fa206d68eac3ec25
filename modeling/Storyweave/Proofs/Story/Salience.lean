import Storyweave.Proofs.Number.Order
import Storyweave.Story.Value

/-!
# What a list weighs

As an operand of `+` or `/` a list is one fragment. Its text is put together of all that it holds,
its weight is found among its own items. Results:
1. `Composition.greatest_weight`: a composition weighs as much as the heaviest of its parts, and not
   less than nothing.
2. `Value.greatest_heaviest`: a list weighs as much as the heaviest of its own items.
3. `Value.phrase_bracketed`: a value in brackets of its own reads as it does without them.
4. `Value.toParts_list`: what a list comes to, and when it weighs as much as the heaviest that it
   holds at any depth.
5. `Value.brackets_undo_dilution`: it does not always. What only an inner list holds does not count.
-/

namespace Storyweave.Story

open Storyweave.Number

deriving instance DecidableEq for Fragment

theorem Composition.greatest_weight (c : Composition) :
    Greatest (0 :: c.parts.map Fragment.weight) c.weight :=
  (Greatest.singleton 0).foldl_larger _

namespace Value

variable {items : List Value} {w : Float}

/-! ## Weights -/

mutual

/-- The weights of all generated text in a value, at any depth. -/
def weights : Value → List Float
  | .fragment f => [f.weight]
  | .composition c => c.weight :: c.parts.map Fragment.weight
  | .list items => weightsOf items
  | _ => []

/-- The weights of all generated text in the items of a list, at any depth. -/
def weightsOf : List Value → List Float
  | [] => []
  | first :: rest => weights first ++ weightsOf rest

end

/-- The weights of the items of a list that are generated text themselves. -/
def ownWeights (items : List Value) : List Float := (items.filterMap asFragment).map Fragment.weight

theorem mem_weightsOf : w ∈ weightsOf items ↔ ∃ item ∈ items, w ∈ weights item := by
  induction items with
  | nil => simp [weightsOf]
  | cons first rest ih => simp [weightsOf, ih]

theorem mem_ownWeights :
    w ∈ ownWeights items ↔ ∃ item ∈ items, ∃ f, item.asFragment = some f ∧ f.weight = w := by
  simp only [ownWeights, List.mem_map, List.mem_filterMap]
  constructor
  · rintro ⟨f, ⟨item, hmem, hf⟩, hw⟩
    exact ⟨item, hmem, f, hf, hw⟩
  · rintro ⟨item, hmem, f, hf, hw⟩
    exact ⟨f, ⟨item, hmem, hf⟩, hw⟩

theorem weight_mem_weights {item : Value} {f : Fragment} (h : item.asFragment = some f) :
    f.weight ∈ weights item := by
  cases item with
  | fragment g =>
    obtain rfl := Option.some.inj h
    exact List.mem_singleton_self _
  | composition c =>
    obtain rfl := Option.some.inj h
    exact List.mem_cons_self
  | _ => cases h

theorem ownWeights_subset (items : List Value) : ownWeights items ⊆ weightsOf items := by
  intro w hw
  obtain ⟨item, hmem, f, hf, rfl⟩ := mem_ownWeights.1 hw
  exact mem_weightsOf.2 ⟨item, hmem, weight_mem_weights hf⟩

/-- Generated text weighs at least as much as anything in it. -/
theorem exists_atLeast_of_mem_weights {item : Value} (h : ∀ inner, item ≠ .list inner)
    (hw : w ∈ weights item) : ∃ f, item.asFragment = some f ∧ AtLeast f.weight w := by
  cases item with
  | fragment f =>
    obtain rfl := List.mem_singleton.1 hw
    exact ⟨f, rfl, .refl f.weight⟩
  | composition c =>
    refine ⟨c.toFragment, rfl, ?_⟩
    rcases List.mem_cons.1 hw with rfl | hpart
    · exact .refl c.weight
    · exact c.greatest_weight.atLeast w (List.mem_cons_of_mem 0 hpart)
  | list inner => exact absurd rfl (h inner)
  | _ => cases hw

/-- Where no item is a list, nothing outweighs all of the own items. -/
theorem exists_ownWeight_atLeast (hflat : ∀ inner, .list inner ∉ items) (hw : w ∈ weightsOf items) :
    ∃ v ∈ ownWeights items, AtLeast v w := by
  obtain ⟨item, hmem, hw⟩ := mem_weightsOf.1 hw
  have hitem : ∀ inner, item ≠ .list inner := fun inner heq => hflat inner (heq ▸ hmem)
  obtain ⟨f, hf, hle⟩ := exists_atLeast_of_mem_weights hitem hw
  exact ⟨f.weight, mem_ownWeights.2 ⟨item, hmem, f, hf, rfl⟩, hle⟩

/-! ## The heaviest item -/

theorem heaviest_of_ownWeights_nil (h : ownWeights items = []) : heaviest items = none := by
  rw [ownWeights, List.map_eq_nil_iff] at h
  rw [heaviest, h]

theorem greatest_heaviest (h : ownWeights items ≠ []) :
    ∃ w, heaviest items = some w ∧ Greatest (ownWeights items) w := by
  unfold ownWeights heaviest at *
  cases hitems : items.filterMap asFragment with
  | nil => simp [hitems] at h
  | cons first rest => exact ⟨_, rfl, (Greatest.singleton first.weight).foldl_larger _⟩

/-- The heaviest of the own items is the heaviest at any depth exactly if some own item is. -/
theorem greatest_weightsOf_iff (h : Greatest (ownWeights items) w) :
    Greatest (weightsOf items) w ↔ ∃ v ∈ ownWeights items, Greatest (weightsOf items) v := by
  constructor
  · exact fun hall => ⟨w, h.mem, hall⟩
  · rintro ⟨v, hv, hall⟩
    exact h.of_subset (ownWeights_subset items) fun y hy => ⟨v, hv, hall.atLeast y hy⟩

theorem greatest_weightsOf_of_flat (hflat : ∀ inner, .list inner ∉ items)
    (h : Greatest (ownWeights items) w) : Greatest (weightsOf items) w :=
  h.of_subset (ownWeights_subset items) fun _ => exists_ownWeight_atLeast hflat

/-! ## Operands -/

theorem phrase_bracketed (cast : List Character) (v : Value) :
    phrase cast (.list [v]) = phrase cast v := by
  rw [phrase, phrases, phrases]
  by_cases hempty : phrase cast v = "" <;> simp [hempty, English.joinList]

theorem toParts_list_eq (cast : List Character) (h : items ≠ []) : toParts cast (.list items) =
    [⟨phrase cast (.list items), (heaviest items).getD defaultWeight, "list"⟩] := by
  cases items with
  | nil => exact absurd rfl h
  | cons first rest => rfl

/-- A list that holds generated text at some depth is one fragment as an operand. It weighs as much
as the heaviest of its own items, or the default weight if none of them is generated text. So it
weighs as much as the heaviest of all that it holds exactly if that is found among its own items, or
if none of them is generated text and the default weight is the greatest there is. In particular it
does if it holds no lists. In brackets of its own it reads the same, and has the default weight. -/
theorem toParts_list (cast : List Character) (h : weightsOf items ≠ []) :
    ∃ f : Fragment, toParts cast (.list items) = [f] ∧ f.text = phrase cast (.list items) ∧
      (if ownWeights items = [] then f.weight = defaultWeight
        else Greatest (ownWeights items) f.weight) ∧
      (Greatest (weightsOf items) f.weight ↔
        (∃ w ∈ ownWeights items, Greatest (weightsOf items) w) ∨
          ownWeights items = [] ∧ Greatest (weightsOf items) defaultWeight) ∧
      ((∀ inner, .list inner ∉ items) → Greatest (weightsOf items) f.weight) ∧
      toParts cast (.list [.list items]) = [{ f with weight := defaultWeight }] := by
  have hitems : items ≠ [] := by
    rintro rfl
    exact h rfl
  have hbracketed : toParts cast (.list [.list items]) =
      [⟨phrase cast (.list items), defaultWeight, "list"⟩] := by
    rw [toParts_list_eq cast (List.cons_ne_nil _ _), phrase_bracketed]
    rfl
  refine ⟨_, toParts_list_eq cast hitems, rfl, ?_⟩
  by_cases hown : ownWeights items = []
  · rw [if_pos hown, heaviest_of_ownWeights_nil hown, hbracketed, hown]
    refine ⟨rfl, by simp, fun hflat => ?_, rfl⟩
    obtain ⟨y, hy⟩ := List.exists_mem_of_ne_nil _ h
    obtain ⟨x, hx, -⟩ := exists_ownWeight_atLeast hflat hy
    rw [hown] at hx
    cases hx
  · obtain ⟨w, hw, hgreatest⟩ := greatest_heaviest hown
    rw [if_neg hown, hw, hbracketed]
    refine ⟨hgreatest, ?_, fun hflat => greatest_weightsOf_of_flat hflat hgreatest, rfl⟩
    simpa [hown] using greatest_weightsOf_iff hgreatest

/-- The heaviest is found among the own items. -/
theorem toParts_list_two_greetings :
    let items : List Value :=
      [.fragment ⟨"Hello.", 0.5, "Hi"⟩, .list [.fragment ⟨"Goodbye.", 0.25, "Bye"⟩]]
    weightsOf items ≠ [] ∧ ∃ f : Fragment, toParts [] (.list items) = [f] ∧
      f.text = "Hello and Goodbye" ∧ Greatest [0.5, 0.25] f.weight ∧
      toParts [] (.list [.list items]) = [{ f with weight := 1 }] := by
  intro items
  have hne : weightsOf items ≠ [] := List.cons_ne_nil _ _
  obtain ⟨f, hparts, htext, -, hiff, -, hbracketed⟩ := toParts_list [] hne
  have hhalf : Greatest (weightsOf items) 0.5 := (Greatest.singleton 0.5).larger 0.25
  have hphrase : phrase [] (.list items) = "Hello and Goodbye" := by decide +kernel +zetaReduce
  refine ⟨hne, f, hparts, htext.trans hphrase, ?_, hbracketed⟩
  exact hiff.2 (.inl ⟨0.5, List.mem_singleton_self _, hhalf⟩)

/-- A quarter of a greeting counts as a whole one again in brackets of its own. -/
theorem brackets_undo_dilution :
    let hello : Value := .composition ((Composition.join [⟨"Hello.", 1, "Hi"⟩] []).diluted 4)
    toParts [] (.list [hello]) = [⟨"Hello", 0.25, "list"⟩] ∧
      toParts [] (.list [.list [hello]]) = [⟨"Hello", 1, "list"⟩] ∧
      weightsOf [.list [hello]] = [0.25, 0.25] ∧ ¬Greatest [0.25, 0.25] 1 := by
  intro hello
  have hquarter : ∀ w ∈ [(0.25 : Float), 0.25], w ≠ 1 := by decide +kernel
  refine ⟨?_, ?_, ?_, fun h => hquarter 1 h.mem rfl⟩ <;> decide +kernel +zetaReduce

end Value

end Storyweave.Story
