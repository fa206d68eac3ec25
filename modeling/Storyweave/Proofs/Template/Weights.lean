import Mathlib
import Storyweave.Proofs.Chance.Search
import Storyweave.Template.Table

/-!
# Weights that can be chosen among

A choice needs weights that come to more than nothing and to no more than a word holds. Results:
1. `readDrafts_eq_ok_iff`, `addTemplates_eq_ok_iff`: drafts are read, and added, exactly if all
   their texts are templates, none weighs nothing, and there is room for their weights.
2. `addTemplates_cases`: an addition that fails has written nothing, wherever it fails.
3. `Reachable.selectable`: however a table came about, failed additions included, there is a
   choice in each of its categories.
4. `Reachable.chooses`: so the weights of a category are never refused, and what is chosen is one of
   its alternatives.
-/

namespace Storyweave.Template

open Storyweave.Chance

/-! ## Alternatives -/

/-- What the weights of some alternatives come to. -/
def weightOf (alternatives : List Alternative) : Nat :=
  totalOf (alternatives.map Alternative.weight)

@[simp] theorem weightOf_nil : weightOf [] = 0 := rfl

@[simp] theorem weightOf_cons (alternative : Alternative) (alternatives : List Alternative) :
    weightOf (alternative :: alternatives) = alternative.weight + weightOf alternatives := rfl

theorem weightOf_append (alternatives others : List Alternative) :
    weightOf (alternatives ++ others) = weightOf alternatives + weightOf others := by
  rw [weightOf, List.map_append, totalOf_append]
  rfl

/-- Alternatives none of which is weightless, and whose weights a word can hold together. -/
structure Weighed (alternatives : List Alternative) : Prop where
  positive : ∀ alternative ∈ alternatives, 1 ≤ alternative.weight
  within : weightOf alternatives ≤ maxWeight

theorem Weighed.nil : Weighed [] := ⟨fun _ h => absurd h List.not_mem_nil, Nat.zero_le _⟩

/-- Some alternative means some weight. -/
theorem Weighed.weightOf_pos {alternatives : List Alternative} (h : Weighed alternatives)
    (hne : alternatives ≠ []) : 0 < weightOf alternatives := by
  cases alternatives with
  | nil => exact absurd rfl hne
  | cons alternative alternatives =>
    have := h.positive alternative (.head _)
    rw [weightOf_cons]
    omega

/-! ## Reading drafts -/

/-- An alternative has the weight of a draft and is what its text means. -/
structure Draft.ReadsAs (draft : Draft) (alternative : Alternative) : Prop where
  weight : alternative.weight = draft.weight
  segments : parse draft.text = .ok alternative.segments

/-- The first of several drafts is read if it weighs something that there is room for, and its text
is a template. -/
theorem readDrafts_cons_eq_ok_iff {category : String} {total : Nat} {draft : Draft}
    {drafts : List Draft} {added : List Alternative} :
    Table.readDrafts category total (draft :: drafts) = .ok added ↔
      draft.weight ≠ 0 ∧ total + draft.weight ≤ maxWeight ∧ ∃ segments others,
        parse draft.text = .ok segments ∧
        Table.readDrafts category (total + draft.weight) drafts = .ok others ∧
        added = ⟨draft.weight, segments⟩ :: others := by
  rw [Table.readDrafts]
  split
  case isTrue hzero => simp [hzero]
  case isFalse hpositive =>
    split
    case isTrue hover => simp [Nat.not_le.2 hover]
    case isFalse hroom =>
      cases hparse : parse draft.text with
      | error => simp [bind, Except.bind]
      | ok segments =>
        cases hothers : Table.readDrafts category (total + draft.weight) drafts with
        | error => simp [bind, Except.bind]
        | ok others =>
          simp [bind, Except.bind, pure, Except.pure, hpositive, Nat.not_lt.1 hroom, eq_comm]

/-- Behind weights that fit, drafts are read exactly if all of them are templates, none weighs
nothing, and the weights still fit with theirs. -/
theorem readDrafts_eq_ok_iff {category : String} {total : Nat} {drafts : List Draft}
    {added : List Alternative} (hfits : total ≤ maxWeight) :
    Table.readDrafts category total drafts = .ok added ↔
      List.Forall₂ Draft.ReadsAs drafts added ∧ (∀ alternative ∈ added, 1 ≤ alternative.weight) ∧
        total + weightOf added ≤ maxWeight := by
  induction drafts generalizing total added with
  | nil =>
    simp only [Table.readDrafts, Except.ok.injEq, List.forall₂_nil_left_iff]
    constructor
    · rintro rfl
      exact ⟨rfl, fun _ h => absurd h List.not_mem_nil, hfits⟩
    · exact fun h => h.1.symm
  | cons draft drafts ih =>
    rw [readDrafts_cons_eq_ok_iff, List.forall₂_cons_left_iff]
    constructor
    · rintro ⟨hweight, hroom, segments, others, hparse, hothers, rfl⟩
      obtain ⟨hreads, hpositive, hwithin⟩ := (ih hroom).1 hothers
      refine ⟨⟨_, others, ⟨rfl, hparse⟩, hreads, rfl⟩, ?_, ?_⟩
      · exact List.forall_mem_cons.2 ⟨Nat.one_le_iff_ne_zero.2 hweight, hpositive⟩
      · rwa [weightOf_cons, ← Nat.add_assoc]
    · rintro ⟨⟨⟨weight, segments⟩, others, ⟨rfl, hparse⟩, hreads, rfl⟩, hpositive, hwithin⟩
      obtain ⟨hweight, hothers⟩ := List.forall_mem_cons.1 hpositive
      rw [weightOf_cons, ← Nat.add_assoc] at hwithin
      have hroom := Nat.le_trans (Nat.le_add_right _ _) hwithin
      exact ⟨Nat.one_le_iff_ne_zero.1 hweight, hroom, segments, others, hparse,
        (ih hroom).2 ⟨hreads, hothers, hwithin⟩, rfl⟩

/-- Behind alternatives that can be chosen among, drafts are read exactly if they are templates that
can be chosen among together with these. -/
theorem Weighed.readDrafts_eq_ok_iff {present added : List Alternative} {category : String}
    {drafts : List Draft} (h : Weighed present) :
    Table.readDrafts category (weightOf present) drafts = .ok added ↔
      List.Forall₂ Draft.ReadsAs drafts added ∧ Weighed (present ++ added) := by
  rw [Template.readDrafts_eq_ok_iff h.within]
  refine and_congr_right fun _ => ⟨fun ⟨hpositive, hwithin⟩ => ⟨?_, ?_⟩, fun hall => ⟨?_, ?_⟩⟩
  · exact List.forall_mem_append.2 ⟨h.positive, hpositive⟩
  · rwa [weightOf_append]
  · exact (List.forall_mem_append.1 hall.positive).2
  · rw [← weightOf_append]
    exact hall.within

namespace Table

/-! ## Registering, loading and merging -/

variable {t t' : Table} {category : String} {drafts : List Draft}

/-- There is a choice in every category that has alternatives. -/
def Selectable (t : Table) : Prop := ∀ category, Weighed (t.alternatives category)

/-- An addition either fails and leaves the table as it was, or it has read all its drafts and put
them behind what was there. -/
theorem addTemplates_cases (t : Table) (category : String) (drafts : List Draft) :
    (∃ error, (addTemplates category drafts).outcome t = (.error error, t)) ∨
    ∃ added, readDrafts category (weightOf (t.alternatives category)) drafts = .ok added ∧
      (addTemplates category drafts).outcome t =
        (.ok (), ⟨t.categories.insert category (t.alternatives category ++ added)⟩) := by
  rw [outcome_addTemplates, ← weightOf]
  split
  case isTrue => exact .inl ⟨_, rfl⟩
  case isFalse =>
    cases hread : readDrafts category (weightOf (t.alternatives category)) drafts with
    | error error => exact .inl ⟨error, rfl⟩
    | ok added => exact .inr ⟨added, rfl, rfl⟩

theorem addTemplates_of_error {error : TemplateError}
    (h : ((addTemplates category drafts).outcome t).1 = .error error) :
    ((addTemplates category drafts).outcome t).2 = t := by
  obtain ⟨_, houtcome⟩ | ⟨_, -, houtcome⟩ := addTemplates_cases t category drafts
  · rw [houtcome]
  · rw [houtcome] at h
    cases h

/-- An addition succeeds exactly if its drafts can be read and weighed together with what the
category has, and then adds them to it. -/
theorem addTemplates_eq_ok_iff (h : t.Selectable) :
    (addTemplates category drafts).outcome t = (.ok (), t') ↔ ∃ added,
      List.Forall₂ Draft.ReadsAs drafts added ∧ Weighed (t.alternatives category ++ added) ∧
      ⟨t.categories.insert category (t.alternatives category ++ added)⟩ = t' := by
  have hguard : ¬maxWeight < weightOf (t.alternatives category) := Nat.not_lt.2 (h category).within
  have hread (added : List Alternative) :
      readDrafts category (weightOf (t.alternatives category)) drafts = .ok added ↔
        List.Forall₂ Draft.ReadsAs drafts added ∧ Weighed (t.alternatives category ++ added) :=
    (h category).readDrafts_eq_ok_iff
  rw [outcome_addTemplates, ← weightOf, if_neg hguard]
  simp only [← and_assoc, ← hread]
  cases readDrafts category (weightOf (t.alternatives category)) drafts with
  | error error => simp
  | ok added => simp

theorem Selectable.addTemplates (h : t.Selectable) (category : String) (drafts : List Draft) :
    ((addTemplates category drafts).outcome t).2.Selectable := by
  obtain ⟨_, houtcome⟩ | ⟨added, hread, houtcome⟩ := addTemplates_cases t category drafts
  · rwa [houtcome]
  · rw [houtcome]
    intro other
    rw [alternatives_insert]
    split
    · exact ((h category).readDrafts_eq_ok_iff.1 hread).2
    · exact h other

theorem Selectable.register (h : t.Selectable) (hok : t.register category drafts = .ok t') :
    t'.Selectable := by
  have hlater := h.addTemplates category drafts
  simp only [Table.register] at hok
  cases hresult : ((Table.addTemplates category drafts).outcome t).1 with
  | error error =>
    rw [hresult] at hok
    cases hok
  | ok _ =>
    rw [hresult] at hok
    exact Except.ok.inj hok ▸ hlater

theorem Selectable.empty : Table.empty.Selectable := fun _ => .nil

theorem Selectable.load {categories : List (String × List Draft)}
    (h : Table.load categories = .ok t) : t.Selectable := by
  -- the categories registered so far leave a choice, whatever comes behind them
  suffices hfrom : ∀ (entries : List (String × List Draft)) (before : Table), before.Selectable →
      entries.foldlM (fun t entry => t.register entry.1 entry.2) before = .ok t → t.Selectable from
    hfrom _ _ .empty h
  intro entries
  induction entries with
  | nil =>
    intro before hbefore hok
    cases hok
    exact hbefore
  | cons entry entries ih =>
    intro before hbefore hok
    rw [List.foldlM_cons] at hok
    cases hentry : before.register entry.1 entry.2 with
    | error error =>
      rw [hentry] at hok
      cases hok
    | ok next =>
      rw [hentry] at hok
      exact ih next (hbefore.register hentry) hok

theorem Selectable.merge {other : Table} (h : t.Selectable) (hother : other.Selectable) :
    (t.merge other).Selectable := by
  intro category
  rw [alternatives_merge]
  cases hfind : other.categories.find? category with
  | none => exact h category
  | some alternatives =>
    have := hother category
    rwa [Table.alternatives, hfind] at this

/-! ## Tables that come about -/

/-- The tables that adding, loading and merging lead to. What an addition leaves is reached also if
it fails; templates without weights are drafts of weight one. -/
inductive Reachable : Table → Prop where
  | empty : Reachable empty
  | added {t : Table} (category : String) (drafts : List Draft) :
      Reachable t → Reachable ((addTemplates category drafts).outcome t).2
  | loaded {t : Table} {categories : List (String × List Draft)} :
      load categories = .ok t → Reachable t
  | merged {t other : Table} : Reachable t → Reachable other → Reachable (t.merge other)

theorem Reachable.selectable (h : t.Reachable) : t.Selectable := by
  induction h with
  | empty => exact .empty
  | added category drafts _ ih => exact ih.addTemplates category drafts
  | loaded hload => exact .load hload
  | merged _ _ ih ihother => exact ih.merge ihother

/-! ## Choosing -/

/-- Weights of a category that are chosen among lead to one of its alternatives, which is filled. -/
theorem generate_of_choose {chance later : Chance} {index : Nat}
    (hweighed : Weighed (t.alternatives category)) (hne : t.alternatives category ≠ [])
    (h : chance.choose ((t.alternatives category).map Alternative.weight) =
      .chosen index later) :
    ∃ inside : index < (t.alternatives category).length, ∀ slots,
      t.generate category slots chance =
        (fill category slots (t.alternatives category)[index].segments, later) := by
  have hpos := hweighed.weightOf_pos hne
  have inside : index < (t.alternatives category).length := by
    obtain ⟨ahead, -, rfl, -⟩ := (choose_eq_chosen_iff hpos hweighed.within).1 h
    have hchosen := chosenBy_lt hpos (chance.wordAt ahead)
    rwa [List.length_map] at hchosen
  refine ⟨inside, fun slots => ?_⟩
  rw [generate]
  split
  case h_1 hnil => exact absurd hnil hne
  case h_2 first rest heq =>
    simp only [heq] at h inside ⊢
    rw [h]
    simp only [List.getElem?_eq_getElem inside, Option.getD_some]

/-- However a table came about, its weights can be chosen among. No alternative of a category is
weightless, no sum of weights exceeds a word, and an addition that fails leaves the table as it was.
So a category with alternatives has weights that are never refused. Either the search for a word
that may decide has no end, as none of the stream may, or one of the alternatives is chosen, and it
is the one that is filled. -/
theorem Reachable.chooses (h : t.Reachable) (category : String) :
    let alternatives := t.alternatives category
    let weights := alternatives.map Alternative.weight
    (∀ alternative ∈ alternatives, 1 ≤ alternative.weight) ∧
    (∀ count, totalOf (weights.take count) ≤ 4294967295) ∧
    (∀ drafts error, ((addTemplates category drafts).outcome t).1 = .error error →
      ((addTemplates category drafts).outcome t).2 = t) ∧
    (t.contains category = true → weights ≠ [] ∧ 0 < totalOf weights ∧ ∀ chance : Chance,
      chance.choose weights ≠ .refused ∧
      (chance.choose weights = .endless ↔
        ∀ ahead, accepts (totalOf weights) (chance.wordAt ahead) = false) ∧
      ∀ index later, chance.choose weights = .chosen index later →
        ∃ inside : index < alternatives.length, ∀ slots, t.generate category slots chance =
          (fill category slots alternatives[index].segments, later)) := by
  intro alternatives weights
  have hweighed : Weighed alternatives := h.selectable category
  refine ⟨hweighed.positive, fun count => ?_, fun drafts error => addTemplates_of_error,
    fun hcontains => ?_⟩
  · exact Nat.le_trans (totalOf_take_le count weights) hweighed.within
  · have hne : alternatives ≠ [] := by simpa [Table.contains] using hcontains
    have hpos : 0 < totalOf weights := hweighed.weightOf_pos hne
    refine ⟨fun hnil => hne (List.map_eq_nil_iff.1 hnil), hpos, fun chance => ⟨?_, ?_, ?_⟩⟩
    · exact fun hrefused => choose_eq_refused_iff.1 hrefused ⟨hpos, hweighed.within⟩
    · exact choose_eq_endless_iff hpos hweighed.within
    · exact fun index later => generate_of_choose hweighed hne

/-- A table with room for one more weight in a category, after an addition there was no room
for. -/
def crowded : Table :=
  let full := ((addTemplates "greeting" [⟨4294967294, "hello"⟩]).outcome empty).2
  let failed := ((addTemplates "greeting" [⟨1, "hi"⟩, ⟨1, "hey"⟩]).outcome full).2
  failed.merge ((addTemplates "parting" [⟨1, "bye"⟩]).outcome empty).2

/-- The category that is full but for one still has its only alternative, and that is chosen. -/
theorem crowded_chooses :
    crowded.Reachable ∧ ∃ later, ∀ slots,
      crowded.generate "greeting" slots (ofSeed 0) = (.ok "hello", later) := by
  have hreachable : crowded.Reachable :=
    .merged (.added _ _ (.added _ _ .empty)) (.added _ _ .empty)
  have hgreeting : crowded.alternatives "greeting" = [⟨4294967294, [.literal "hello"]⟩] := by cbv
  have hchoice : (ofSeed 0).choose [4294967294] = .chosen 0 ⟨0, 1⟩ := by decide +kernel
  have hchooses := (hreachable.chooses "greeting").2.2.2 (by rw [contains, hgreeting]; rfl)
  simp only [hgreeting] at hchooses
  obtain ⟨_, hfilled⟩ := (hchooses.2.2 (ofSeed 0)).2.2 0 ⟨0, 1⟩ hchoice
  exact ⟨hreachable, ⟨0, 1⟩, hfilled⟩

end Table

end Storyweave.Template
