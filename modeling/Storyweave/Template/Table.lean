import Storyweave.Catalogue
import Storyweave.Chance.Choice
import Storyweave.English.Phrases
import Storyweave.Template.Basic

/-!
# Template tables

Named categories of interchangeable templates, each with a weight. A registration writes to a
table, so what it has written stays if it fails behind that; it therefore reads all it is given
before it writes.
-/

namespace Storyweave.Template

/-- A template of a category and how often it is chosen. -/
structure Alternative where
  weight : Nat
  segments : List Segment
deriving DecidableEq, Repr

/-- An alternative before its text is read. -/
structure Draft where
  weight : Nat
  text : String
deriving DecidableEq, Repr

/-- What stands for a category that has no templates. -/
def defaultPhrase (category : String) : String := "there was " ++ English.humanize category

/-- Categories and their alternatives. -/
structure Table where
  categories : Catalogue (List Alternative)
deriving DecidableEq

namespace Table

/-- The table without categories. -/
def empty : Table := ⟨.empty⟩

/-- The alternatives of a category. -/
def alternatives (t : Table) (category : String) : List Alternative :=
  (t.categories.find? category).getD []

/-- Whether a category has alternatives. -/
def contains (t : Table) (category : String) : Bool := !(t.alternatives category).isEmpty

/-- Reads the drafts of a category whose weights come to `total` so far. -/
def readDrafts (category : String) (total : Nat) :
    List Draft → Except TemplateError (List Alternative)
  | [] => .ok []
  | draft :: rest =>
    if draft.weight = 0 then .error (.zeroWeight category)
    else if maxWeight < total + draft.weight then .error (.weightOverflow category)
    else do
      let segments ← parse draft.text
      let others ← readDrafts category (total + draft.weight) rest
      return ⟨draft.weight, segments⟩ :: others

/-- A change of a table, which may fail. What it writes before it fails stays written. -/
abbrev Edit := ExceptT TemplateError (StateM Table)

/-- What comes of a change: its result or its error, and the table that it leaves. -/
def Edit.outcome {α : Type} (edit : Edit α) (t : Table) : Except TemplateError α × Table :=
  edit.run.run t

/-- Adds alternatives to a category. -/
def addTemplates (category : String) (drafts : List Draft) : Edit Unit := do
  let total := Chance.totalOf (((← get).alternatives category).map Alternative.weight)
  if maxWeight < total then
    throw (.weightOverflow category)
  else
    let added ← readDrafts category total drafts
    modify fun t => ⟨t.categories.insert category (t.alternatives category ++ added)⟩

/-- The table with more alternatives in a category. A table that is left by a failure is given
up. -/
def register (t : Table) (category : String) (drafts : List Draft) :
    Except TemplateError Table :=
  let outcome := (addTemplates category drafts).outcome t
  outcome.1.map fun _ => outcome.2

/-- The table of the given categories. They are registered in the order of their names, so the
error of the least faulty one is reported, however the categories were enumerated. -/
def load (categories : List (String × List Draft)) : Except TemplateError Table :=
  (categories.mergeSort fun a b => decide (a.1 ≤ b.1)).foldlM
    (fun t entry => t.register entry.1 entry.2) empty

/-- A table with the categories of another, which replace its own of the same names. -/
def merge (t other : Table) : Table := ⟨t.categories.merge other.categories⟩

/-- Chooses a template of a category and fills it. A category without templates yields its
default phrase and leaves chance alone. -/
def generate (t : Table) (category : String) (slots : Slots) (chance : Chance) :
    Except TemplateError String × Chance :=
  match t.alternatives category with
  | [] => (.ok (defaultPhrase category), chance)
  | first :: rest =>
    match chance.choose ((first :: rest).map Alternative.weight) with
    | .chosen index later =>
      (fill category slots (((first :: rest)[index]?).getD first).segments, later)
    -- no word is drawn for weights that cannot be chosen among
    | .refused => (fill category slots first.segments, chance)
    -- a search without end has no answer; this one stands in for it
    | .endless => (fill category slots first.segments, chance)

/-- An addition first weighs what is there, then reads what is new, and writes last. -/
theorem outcome_addTemplates (category : String) (drafts : List Draft) (t : Table) :
    (addTemplates category drafts).outcome t =
      if maxWeight < Chance.totalOf ((t.alternatives category).map Alternative.weight) then
        (.error (.weightOverflow category), t)
      else
        match readDrafts category
          (Chance.totalOf ((t.alternatives category).map Alternative.weight)) drafts with
        | .error error => (.error error, t)
        | .ok added =>
          (.ok (), ⟨t.categories.insert category (t.alternatives category ++ added)⟩) := by
  let total := Chance.totalOf ((t.alternatives category).map Alternative.weight)
  show Edit.outcome (if maxWeight < total then throw (.weightOverflow category) else do
    let added ← readDrafts category total drafts
    modify fun t => ⟨t.categories.insert category (t.alternatives category ++ added)⟩) t = _
  split
  · rfl
  · generalize readDrafts category _ drafts = read
    cases read <;> rfl

theorem register_eq (t : Table) (category : String) (drafts : List Draft) :
    t.register category drafts =
      if maxWeight < Chance.totalOf ((t.alternatives category).map Alternative.weight) then
        .error (.weightOverflow category)
      else
        (readDrafts category
          (Chance.totalOf ((t.alternatives category).map Alternative.weight)) drafts).map
            fun added => ⟨t.categories.insert category (t.alternatives category ++ added)⟩ := by
  simp only [register, outcome_addTemplates]
  split
  · rfl
  · generalize readDrafts category _ drafts = read
    cases read <;> rfl

theorem alternatives_insert (categories : Catalogue (List Alternative)) (name : String)
    (alternatives : List Alternative) (category : String) :
    (⟨categories.insert name alternatives⟩ : Table).alternatives category =
      if category = name then alternatives else (⟨categories⟩ : Table).alternatives category := by
  rw [Table.alternatives, Catalogue.find?_insert]
  split <;> rfl

theorem alternatives_merge (t other : Table) (category : String) :
    (t.merge other).alternatives category =
      ((other.categories.find? category).or (t.categories.find? category)).getD [] :=
  congrArg (Option.getD · []) (Catalogue.find?_merge t.categories other.categories category)

end Table

end Storyweave.Template
