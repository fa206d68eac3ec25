import Mathlib.Data.List.Nodup
import Storyweave.Proofs.Evaluation.Turns
import Storyweave.Proofs.Story.Effects

/-!
# Who is who

A character has a place, which is its id, and a name. The list of characters and the catalogue of
their names are written side by side, and either leads to the other. Results:
1. `Identified.of_sameCast`: names and ids are in step where no one came and no one was renamed,
   whatever the characters feel.
2. `identified_introduced`, `sameCast_foldl_apply`: a declaration writes to both and keeps them in
   step, and effects change nothing about a character but its emotions.
3. `lookup_of_prefix`: where the characters only grow at their end, a name leads to the same
   character for good.
-/

namespace Storyweave.Story

/-- All that there is to a character but its emotions. -/
def Character.identity (c : Character) : Character := { c with emotions := .initial }

theorem Character.id_eq_of_identity {c d : Character} (h : c.identity = d.identity) :
    c.id = d.id :=
  (Character.mk.inj h).1

theorem Character.name_eq_of_identity {c d : Character} (h : c.identity = d.identity) :
    c.name = d.name :=
  (Character.mk.inj h).2.1

namespace Narrative

/-- Who the characters are, in order of declaration. -/
def identities (n : Narrative) : List Character := n.characters.map Character.identity

/-- Names are distinct, the id of a character is its place, and the catalogue of names leads from a
name to the character that has it and to no other. -/
structure Identified (n : Narrative) : Prop where
  names_nodup : n.names.Nodup
  id_eq : ∀ i c, n.character i = some c → c.id = i
  lookup_iff : ∀ name id, n.lookup name = some id ↔ ∃ c, n.character id = some c ∧ c.name = name

/-- Two narratives have the same characters, who are found under the same names. -/
structure SameCast (n m : Narrative) : Prop where
  identities : m.identities = n.identities
  byName : m.byName = n.byName

variable {n m : Narrative} {name : String} {id : CharacterId}

theorem names_eq (n : Narrative) : n.names = n.identities.map Character.name := by
  rw [identities, List.map_map]
  rfl

theorem getElem?_identities (n : Narrative) (id : CharacterId) :
    n.identities[id]? = (n.character id).map Character.identity :=
  List.getElem?_map

/-- A character that is known keeps its name. -/
theorem exists_character_of_prefix (h : n.identities <+: m.identities) {c : Character}
    (hc : n.character id = some c) : ∃ d, m.character id = some d ∧ d.identity = c.identity := by
  obtain ⟨rest, hrest⟩ := h
  have hbefore : n.identities[id]? = some c.identity := by
    rw [getElem?_identities, hc, Option.map_some]
  have hlt : id < n.identities.length := (List.getElem?_eq_some_iff.1 hbefore).1
  have hafter : m.identities[id]? = some c.identity := by
    rw [← hrest, List.getElem?_append_left hlt, hbefore]
  rw [getElem?_identities] at hafter
  exact Option.map_eq_some_iff.1 hafter

theorem SameCast.symm (h : n.SameCast m) : m.SameCast n := ⟨h.identities.symm, h.byName.symm⟩

theorem SameCast.exists_character (h : n.SameCast m) {c : Character}
    (hc : n.character id = some c) : ∃ d, m.character id = some d ∧ d.identity = c.identity :=
  exists_character_of_prefix (h.identities ▸ List.prefix_rfl) hc

/-- It depends on who the characters are and not on what they feel. -/
theorem Identified.of_sameCast (hn : n.Identified) (h : n.SameCast m) : m.Identified where
  names_nodup := by
    rw [names_eq, h.identities, ← names_eq]
    exact hn.names_nodup
  id_eq i c hc := by
    obtain ⟨d, hd, hidentity⟩ := h.symm.exists_character hc
    rw [← Character.id_eq_of_identity hidentity, hn.id_eq i d hd]
  lookup_iff name id := by
    rw [lookup, h.byName, ← lookup, hn.lookup_iff]
    constructor
    · rintro ⟨c, hc, rfl⟩
      obtain ⟨d, hd, hidentity⟩ := h.exists_character hc
      exact ⟨d, hd, Character.name_eq_of_identity hidentity⟩
    · rintro ⟨c, hc, rfl⟩
      obtain ⟨d, hd, hidentity⟩ := h.symm.exists_character hc
      exact ⟨d, hd, Character.name_eq_of_identity hidentity⟩

theorem identified_start (seed : UInt64) (clamp : Clamp) : (start seed clamp).Identified where
  names_nodup := .nil
  id_eq := nofun
  lookup_iff _ _ := iff_of_false nofun nofun

/-- No character has a name that leads to none. -/
theorem Identified.name_ne (hn : n.Identified) (h : n.lookup name = none) {i : CharacterId}
    {c : Character} (hc : n.character i = some c) : c.name ≠ name := by
  intro hname
  have hlookup := (hn.lookup_iff name i).2 ⟨c, hc, hname⟩
  rw [h] at hlookup
  cases hlookup

theorem Identified.not_mem_names (hn : n.Identified) (h : n.lookup name = none) :
    name ∉ n.names := by
  intro hmem
  obtain ⟨c, hc, hname⟩ := List.mem_map.1 hmem
  obtain ⟨i, hi⟩ := List.mem_iff_getElem?.1 hc
  exact hn.name_ne h hi hname

/-! ## What keeps it -/

theorem identities_introduced (n : Narrative) (name : String) (traits : List String) :
    (n.introduced name traits).identities =
      n.identities ++ [.declare n.characters.length name traits] :=
  List.map_append

/-- A declaration of a new name keeps the characters and the catalogue of names in step. -/
theorem identified_introduced (h : n.lookup name = none) (traits : List String)
    (hn : n.Identified) : (n.introduced name traits).Identified where
  names_nodup := by
    have hnames : (n.introduced name traits).names = n.names ++ [name] := List.map_append
    rw [hnames]
    simpa using hn.names_nodup.concat (hn.not_mem_names h)
  id_eq i c hc := by
    rw [character_introduced] at hc
    split at hc
    case isTrue => rw [← Option.some.inj hc]; rfl
    case isFalse => exact hn.id_eq i c hc
  lookup_iff key id := by
    rw [lookup_introduced, character_introduced]
    split
    case isTrue hkey =>
      -- the new name leads to the new place, and nobody had it before
      split
      case isTrue hid => exact iff_of_true (congrArg some hid.symm) ⟨_, rfl, hkey.symm⟩
      case isFalse hid =>
        refine iff_of_false (fun hlast => hid (Option.some.inj hlast).symm) ?_
        rintro ⟨c, hc, hname⟩
        exact hn.name_ne h hc (hname.trans hkey)
    case isFalse hkey =>
      -- another name leads where it did, and that was not the new place
      rw [hn.lookup_iff]
      split
      case isTrue hid =>
        refine iff_of_false ?_ ?_
        · rintro ⟨c, hc, -⟩
          exact Nat.ne_of_lt (List.getElem?_eq_some_iff.1 hc).1 hid
        · rintro ⟨_, ⟨⟩, hname⟩
          exact hkey hname.symm
      case isFalse => exact Iff.rfl

/-- Effects change nothing about a character but its emotions. -/
theorem identities_foldl_apply (effects : List Effect) (n : Narrative) :
    (effects.foldl apply n).identities = n.identities := by
  apply List.ext_getElem?
  intro id
  rw [getElem?_identities, getElem?_identities, character_foldl_apply, Option.map_map]
  rfl

theorem sameCast_foldl_apply (effects : List Effect) (n : Narrative) :
    n.SameCast (effects.foldl apply n) :=
  ⟨identities_foldl_apply effects n, byName_foldl_apply effects n⟩

theorem SameWorld.identities_eq (h : n.SameWorld m) : m.identities = n.identities := by
  rw [identities, identities, h.characters]

theorem SameWorld.sameCast (h : n.SameWorld m) : n.SameCast m := ⟨h.identities_eq, h.byName⟩

/-! ## What follows from it -/

/-- Where the characters only grow at their end, a name leads to the same character for good. -/
theorem lookup_of_prefix (h : n.identities <+: m.identities) (hn : n.Identified)
    (hm : m.Identified) (hlookup : n.lookup name = some id) : m.lookup name = some id := by
  obtain ⟨c, hc, rfl⟩ := (hn.lookup_iff name id).1 hlookup
  obtain ⟨d, hd, hidentity⟩ := exists_character_of_prefix h hc
  exact (hm.lookup_iff c.name id).2 ⟨d, hd, Character.name_eq_of_identity hidentity⟩

end Narrative

/-! ## What values speak of -/

mutual

/-- The characters that a value speaks of. -/
def Value.mentions : Value → List CharacterId
  | .character id => [id]
  | .list items => Value.mentionsOf items
  | _ => []

/-- The characters that values speak of. -/
def Value.mentionsOf : List Value → List CharacterId
  | [] => []
  | first :: rest => Value.mentions first ++ Value.mentionsOf rest

end

/-- A character that is known reads as its name. -/
theorem Value.phrase_character {cast : List Character} {id : CharacterId} {c : Character}
    (h : cast[id]? = some c) : (Value.character id).phrase cast = c.name := by
  rw [Value.phrase, h]
  rfl

end Storyweave.Story
