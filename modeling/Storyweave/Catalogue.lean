/-!
# Catalogues

Named entries in the order of their names, one for each name. `find?_insert` says that an
insertion is seen at its name and nowhere else, `find?_merge` what a merge is seen as, and
`names_pairwise_lt` that the order holds.
-/

namespace Storyweave

structure Catalogue (α : Type) where
  entries : List (String × α)
  ordered : (entries.map Prod.fst).Pairwise (· < ·)
deriving DecidableEq

namespace Catalogue

variable {α : Type}

/-- The catalogue without entries. -/
def empty : Catalogue α := ⟨[], .nil⟩

/-- The entry of a name. -/
def find? (c : Catalogue α) (name : String) : Option α := c.entries.lookup name

/-- Whether a name has an entry. -/
def contains (c : Catalogue α) (name : String) : Bool := (c.find? name).isSome

/-- The names that have an entry, in order. -/
def names (c : Catalogue α) : List String := c.entries.map Prod.fst

/-- How many names have an entry. -/
def size (c : Catalogue α) : Nat := c.entries.length

/-- Ordered entries with another one in its place, instead of any entry of its name. -/
def insertEntry (name : String) (value : α) : List (String × α) → List (String × α)
  | [] => [(name, value)]
  | (key, old) :: rest =>
    if name < key then (name, value) :: (key, old) :: rest
    else if name = key then (name, value) :: rest
    else (key, old) :: insertEntry name value rest

theorem mem_insertEntry {name : String} {value : α} {entries : List (String × α)} {key : String}
    (h : key ∈ (insertEntry name value entries).map Prod.fst) :
    key = name ∨ key ∈ entries.map Prod.fst := by
  induction entries with
  | nil => simpa [insertEntry] using h
  | cons entry rest ih =>
    simp only [insertEntry] at h
    split at h
    · simpa using h
    · split at h
      · simp only [List.map_cons, List.mem_cons] at h ⊢
        exact h.imp_right .inr
      · simp only [List.map_cons, List.mem_cons] at h ⊢
        rcases h with h | h
        · exact .inr (.inl h)
        · exact (ih h).imp_right .inr

theorem pairwise_insertEntry (name : String) (value : α) {entries : List (String × α)}
    (h : (entries.map Prod.fst).Pairwise (· < ·)) :
    ((insertEntry name value entries).map Prod.fst).Pairwise (· < ·) := by
  induction entries with
  | nil => simp [insertEntry]
  | cons entry rest ih =>
    obtain ⟨hfirst, hrest⟩ := List.pairwise_cons.1 h
    simp only [insertEntry]
    split
    case isTrue hlt =>
      refine List.pairwise_cons.2 ⟨fun key hkey => ?_, h⟩
      rcases List.mem_cons.1 hkey with rfl | hkey
      · exact hlt
      · exact String.lt_trans hlt (hfirst key hkey)
    case isFalse hnlt =>
      split
      case isTrue heq => exact List.pairwise_cons.2 ⟨fun key hkey => heq ▸ hfirst key hkey, hrest⟩
      case isFalse hne =>
        refine List.pairwise_cons.2 ⟨fun key hkey => ?_, ih hrest⟩
        rcases mem_insertEntry hkey with rfl | hkey
        · exact Decidable.byContradiction fun hle =>
            hne (String.le_antisymm (String.not_lt.1 hle) (String.not_lt.1 hnlt))
        · exact hfirst key hkey

/-- The catalogue with an entry for a name, in place of any it had. -/
def insert (c : Catalogue α) (name : String) (value : α) : Catalogue α :=
  ⟨insertEntry name value c.entries, pairwise_insertEntry name value c.ordered⟩

/-- A catalogue with all entries of another, which win over its own. -/
def merge (c other : Catalogue α) : Catalogue α :=
  other.entries.foldl (fun merged entry => merged.insert entry.1 entry.2) c

/-- The catalogue of a list of entries, of which the later ones win. -/
def ofList (entries : List (String × α)) : Catalogue α :=
  entries.foldl (fun c entry => c.insert entry.1 entry.2) empty

theorem names_pairwise_lt (c : Catalogue α) : c.names.Pairwise (· < ·) := c.ordered

@[simp] theorem find?_empty (name : String) : (empty : Catalogue α).find? name = none := rfl

theorem lookup_cons (entry : String × α) (rest : List (String × α)) (key : String) :
    (entry :: rest).lookup key = if key = entry.1 then some entry.2 else rest.lookup key := by
  obtain ⟨name, value⟩ := entry
  rw [List.lookup_cons]
  by_cases h : key = name <;> simp [h, beq_eq_false_iff_ne.2]

theorem lookup_insertEntry (name : String) (value : α) (entries : List (String × α))
    (key : String) : (insertEntry name value entries).lookup key =
      if key = name then some value else entries.lookup key := by
  induction entries with
  | nil => simp [insertEntry, lookup_cons]
  | cons entry rest ih =>
    simp only [insertEntry]
    split
    · simp [lookup_cons]
    · split <;> simp only [lookup_cons, ih] <;> grind

/-- An insertion is seen at its name and nowhere else. -/
theorem find?_insert (c : Catalogue α) (name : String) (value : α) (key : String) :
    (c.insert name value).find? key = if key = name then some value else c.find? key :=
  lookup_insertEntry name value c.entries key

/-- The names are those at which an entry is found. -/
theorem mem_names_iff {c : Catalogue α} {name : String} :
    name ∈ c.names ↔ (c.find? name).isSome := by
  rw [find?, List.lookup_isSome_iff, names]
  simp

/-- An insertion adds its name to the names. -/
theorem mem_names_insert {c : Catalogue α} {name : String} {value : α} {key : String} :
    key ∈ (c.insert name value).names ↔ key = name ∨ key ∈ c.names := by
  rw [mem_names_iff, find?_insert, mem_names_iff]
  split <;> simp [*]

/-- Entries of distinct names win over those of the catalogue they are put into. -/
theorem find?_foldl_insert {entries : List (String × α)}
    (h : (entries.map Prod.fst).Pairwise (· < ·)) (c : Catalogue α) (key : String) :
    (entries.foldl (fun merged entry => merged.insert entry.1 entry.2) c).find? key =
      (entries.lookup key).or (c.find? key) := by
  induction entries generalizing c with
  | nil => simp
  | cons entry rest ih =>
    obtain ⟨hfirst, hrest⟩ := List.pairwise_cons.1 h
    rw [List.foldl_cons, ih hrest, find?_insert, lookup_cons]
    split
    case isTrue heq =>
      -- the name does not come again
      have hnone : rest.lookup key = none := List.lookup_eq_none_iff.2 fun other hother => by
        have hlt := hfirst other.1 (List.mem_map_of_mem hother)
        exact bne_iff_ne.2 (heq ▸ String.ne_of_lt hlt)
      rw [hnone, Option.none_or, Option.some_or]
    case isFalse => rfl

/-- What a merged catalogue has for a name: the entry of the second one, or else that of the
first. -/
theorem find?_merge (c other : Catalogue α) (key : String) :
    (c.merge other).find? key = (other.find? key).or (c.find? key) :=
  find?_foldl_insert other.ordered c key

theorem insertEntry_of_lt {entries : List (String × α)} {name : String} (value : α)
    (h : ∀ entry ∈ entries, entry.1 < name) :
    insertEntry name value entries = entries ++ [(name, value)] := by
  induction entries with
  | nil => rfl
  | cons entry rest ih =>
    obtain ⟨hlt, hrest⟩ := List.forall_mem_cons.1 h
    rw [insertEntry, if_neg (String.lt_asymm hlt), if_neg (String.ne_of_lt hlt).symm, ih hrest]
    rfl

/-- Entries that come behind all others are inserted in order. -/
theorem entries_foldl_insert {rest : List (String × α)} {c : Catalogue α}
    (h : ((c.entries ++ rest).map Prod.fst).Pairwise (· < ·)) :
    (rest.foldl (fun merged entry => merged.insert entry.1 entry.2) c).entries =
      c.entries ++ rest := by
  induction rest generalizing c with
  | nil => exact (List.append_nil _).symm
  | cons entry rest ih =>
    have hlast : (c.insert entry.1 entry.2).entries = c.entries ++ [entry] := by
      refine insertEntry_of_lt entry.2 fun other hother => ?_
      rw [List.map_append] at h
      exact (List.pairwise_append.1 h).2.2 _ (List.mem_map_of_mem hother) _ (.head _)
    rw [List.foldl_cons, ih (by rwa [hlast, List.append_assoc]), hlast, List.append_assoc]
    rfl

/-- What is merged into nothing stays as it is. -/
theorem empty_merge (c : Catalogue α) : empty.merge c = c := by
  have hentries : (empty.merge c).entries = c.entries := entries_foldl_insert c.ordered
  generalize empty.merge c = merged at hentries
  obtain ⟨entries, hordered⟩ := merged
  subst hentries
  rfl

end Catalogue

end Storyweave
