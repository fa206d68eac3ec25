import Storyweave.Proofs.Story.Identity

/-!
# Operands

What a value comes to as an operand of `+` or `/`. Results:
1. `Composition.join_assoc`: joining is associative, since blank parts are dropped once and for
   all.
2. `shown_diluted`: it makes no difference whether blank parts are dropped before or after their
   weights are divided.
3. `Value.toParts_eq`: a value comes to the same fragments wherever the characters that it speaks
   of have the same names.
4. `Value.Generated.toParts_eq`: as an operand, generated text is what it is as a statement.
-/

namespace Storyweave.Story

/-! ## Parts -/

/-- The fragments that are not blank. -/
def shown (fragments : List Fragment) : List Fragment := fragments.filter (!·.isBlank)

theorem shown_append (xs ys : List Fragment) : shown (xs ++ ys) = shown xs ++ shown ys :=
  List.filter_append xs ys

theorem shown_shown (xs : List Fragment) : shown (shown xs) = shown xs := by
  simp [shown, List.filter_filter]

theorem shown_diluted (xs : List Fragment) (d : Float) :
    shown (xs.map (·.diluted d)) = (shown xs).map (·.diluted d) :=
  List.filter_map

namespace Composition

theorem eq_of_parts {c d : Composition} (h : c.parts = d.parts) : c = d := by
  cases c
  cases d
  cases h
  rfl

theorem parts_join (xs ys : List Fragment) : (join xs ys).parts = shown (xs ++ ys) := rfl

theorem shown_parts (c : Composition) : shown c.parts = c.parts :=
  List.filter_eq_self.2 fun f hf => by simp [c.none_blank f hf]

theorem join_assoc (xs ys zs : List Fragment) :
    join xs (join ys zs).parts = join (join xs ys).parts zs := by
  apply eq_of_parts
  simp only [parts_join, shown_append, shown_shown, List.append_assoc]

end Composition

/-! ## Values -/

namespace Value

/-- Two casts in which some characters have the same names. -/
def SameNames (cast other : List Character) (ids : List CharacterId) : Prop :=
  ∀ id ∈ ids, other[id]?.map Character.name = cast[id]?.map Character.name

variable {cast other : List Character}

mutual

theorem phrase_eq : ∀ v : Value, SameNames cast other v.mentions →
    v.phrase other = v.phrase cast
  | .character id, h => by
    rw [phrase, phrase, h id (List.mem_singleton_self id)]
  | .concept _, _ => rfl
  | .text _, _ => rfl
  | .number _, _ => rfl
  | .fragment _, _ => rfl
  | .composition _, _ => rfl
  | .list items, h => by rw [phrase, phrase, phrases_eq items h]

theorem phrases_eq : ∀ items : List Value, SameNames cast other (mentionsOf items) →
    phrases other items = phrases cast items
  | [], _ => rfl
  | first :: rest, h => by
    have hfirst := phrase_eq first fun id hid => h id (List.mem_append_left _ hid)
    have hrest := phrases_eq rest fun id hid => h id (List.mem_append_right _ hid)
    rw [phrases, phrases, hfirst, hrest]

end

theorem toParts_composition (cast : List Character) (c : Composition) :
    (composition c).toParts cast = c.parts := rfl

/-- A value comes to the same fragments wherever the characters that it speaks of have the same
names. -/
theorem toParts_eq {v : Value} (h : SameNames cast other v.mentions) :
    v.toParts other = v.toParts cast := by
  cases v with
  | character id => simp only [toParts, phrase_eq _ h]
  | list items =>
    cases items with
    | nil => simp only [toParts]
    | cons first rest => simp only [toParts, phrase_eq _ h]
  | _ => simp only [toParts, phrase]

/-- Whether a value is generated text. -/
inductive Generated : Value → Prop where
  | fragment (f : Fragment) : Generated (.fragment f)
  | composition (c : Composition) : Generated (.composition c)

namespace Generated

theorem mentions_eq {v : Value} (h : v.Generated) : v.mentions = [] := by
  cases h <;> rfl

theorem toParts_eq {v : Value} (h : v.Generated) (cast : List Character) :
    v.toParts cast = v.generated := by
  cases h <;> rfl

end Generated

end Value

end Storyweave.Story
