import Storyweave.Proofs.Template.Weights

/-!
# Tables that are loaded

Categories come in no order of their own. A table is loaded by registering them in the order of
their names, and since no name comes twice, none of them is registered behind alternatives that are
there already: what becomes of a category depends on nothing but its drafts. Results:
1. `sortByName_eq_of_perm`: entries of distinct names have one order by name.
2. `foldlM_register_eq`: to register categories that are new is to read each by itself and to put
   in what was read.
3. `load_of_distinct`: a table that is loaded, or the error that is reported, is the same however
   the categories were enumerated, and goes by the categories one by one.
-/

namespace Storyweave.Template

/-! ## Entries of distinct names -/

section Entries

variable {α : Type} {entries others : List (String × α)}

theorem nodup_names_of_perm (h : (entries.map Prod.fst).Nodup) (hperm : others.Perm entries) :
    (others.map Prod.fst).Nodup :=
  (hperm.map Prod.fst).nodup_iff.2 h

/-- Entries in the order of their names. -/
def sortByName (entries : List (String × α)) : List (String × α) :=
  entries.mergeSort fun a b => decide (a.1 ≤ b.1)

theorem sortByName_perm (entries : List (String × α)) : (sortByName entries).Perm entries :=
  List.mergeSort_perm _ _

theorem pairwise_sortByName (h : (entries.map Prod.fst).Nodup) :
    (sortByName entries).Pairwise fun a b => a.1 < b.1 := by
  have hle : (sortByName entries).Pairwise fun a b => a.1 ≤ b.1 := by
    have htrans : ∀ a b c : String × α, decide (a.1 ≤ b.1) = true → decide (b.1 ≤ c.1) = true →
        decide (a.1 ≤ c.1) = true := by
      simp only [decide_eq_true_eq]
      exact fun _ _ _ => String.le_trans
    have htotal : ∀ a b : String × α, (decide (a.1 ≤ b.1) || decide (b.1 ≤ a.1)) = true := by
      simp only [Bool.or_eq_true, decide_eq_true_eq]
      exact fun a b => String.le_total a.1 b.1
    exact (List.pairwise_mergeSort htrans htotal entries).imp of_decide_eq_true
  have hne := nodup_names_of_perm h (sortByName_perm entries)
  exact (hle.and (List.pairwise_map.1 hne)).imp fun ⟨hle, hne⟩ => lt_of_le_of_ne hle hne

theorem sortByName_eq_of_perm (h : (entries.map Prod.fst).Nodup) (hperm : others.Perm entries) :
    sortByName others = sortByName entries := by
  have hsorted : (sortByName others).Perm (sortByName entries) :=
    ((sortByName_perm others).trans hperm).trans (sortByName_perm entries).symm
  exact hsorted.eq_of_pairwise (fun a b _ _ hab hba => absurd hba (String.lt_asymm hab))
    (pairwise_sortByName (nodup_names_of_perm h hperm)) (pairwise_sortByName h)

theorem lookup_eq_some_iff_mem (h : (entries.map Prod.fst).Nodup) {name : String} {value : α} :
    entries.lookup name = some value ↔ (name, value) ∈ entries := by
  induction entries with
  | nil => simp
  | cons entry rest ih =>
    obtain ⟨hfirst, hrest⟩ := List.nodup_cons.1 h
    rw [Catalogue.lookup_cons, List.mem_cons, ← ih hrest]
    by_cases heq : name = entry.1
    · -- the name does not come again
      have hnone : rest.lookup name ≠ some value := fun hlookup =>
        hfirst (List.mem_map.2 ⟨(name, value), (ih hrest).1 hlookup, heq⟩)
      rw [if_pos heq, or_iff_left hnone, Prod.ext_iff]
      simp [heq, eq_comm]
    · simp [heq, Prod.ext_iff]

theorem lookup_eq_of_perm (h : (entries.map Prod.fst).Nodup) (hperm : others.Perm entries)
    (name : String) : others.lookup name = entries.lookup name := by
  refine Option.ext fun value => ?_
  rw [lookup_eq_some_iff_mem (nodup_names_of_perm h hperm), lookup_eq_some_iff_mem h,
    hperm.mem_iff]

/-- Of entries in order, those before one of them are the ones with smaller names. -/
theorem mem_before_iff {before behind : List (String × α)} {entry other : String × α}
    (h : (before ++ entry :: behind).Pairwise fun a b => a.1 < b.1) :
    other ∈ before ↔ other ∈ before ++ entry :: behind ∧ other.1 < entry.1 := by
  obtain ⟨-, hbehind, hbefore⟩ := List.pairwise_append.1 h
  constructor
  · exact fun hmem => ⟨List.mem_append_left _ hmem, hbefore other hmem entry (.head _)⟩
  · rintro ⟨hmem, hlt⟩
    rcases List.mem_append.1 hmem with hmem | hmem
    · exact hmem
    · rcases List.mem_cons.1 hmem with rfl | hmem
      · exact absurd hlt (String.lt_irrefl _)
      · exact absurd hlt (String.lt_asymm (List.rel_of_pairwise_cons hbehind hmem))

variable {β : Type} {R : α → β → Prop} {related : List (String × β)}

theorem map_fst_eq_of_forall₂
    (h : List.Forall₂ (fun a b => b.1 = a.1 ∧ R a.2 b.2) entries related) :
    related.map Prod.fst = entries.map Prod.fst := by
  induction h with
  | nil => rfl
  | cons hfirst _ ih => rw [List.map_cons, List.map_cons, hfirst.1, ih]

/-- What is related one by one under the same names is related under each name. -/
theorem rel_lookup (h : List.Forall₂ (fun a b => b.1 = a.1 ∧ R a.2 b.2) entries related)
    (name : String) : Option.Rel R (entries.lookup name) (related.lookup name) := by
  induction h with
  | nil => exact .none
  | cons hfirst _ ih =>
    rw [Catalogue.lookup_cons, Catalogue.lookup_cons, hfirst.1]
    split
    · exact .some hfirst.2
    · exact ih

end Entries

/-! ## Reading one by one -/

section Reading

variable {α β γ ε : Type} {f : α → Except ε β} {xs : List α}

theorem map_eq_error_iff {g : β → γ} {x : Except ε β} {error : ε} :
    x.map g = .error error ↔ x = .error error := by
  cases x <;> simp [Except.map]

theorem exists_map_eq_ok_iff {g : β → γ} {x : Except ε β} :
    (∃ z, x.map g = .ok z) ↔ ∃ y, x = .ok y := by
  cases x <;> simp [Except.map]

theorem mapM_eq_ok_iff {ys : List β} :
    xs.mapM f = .ok ys ↔ List.Forall₂ (fun x y => f x = .ok y) xs ys := by
  induction xs generalizing ys with
  | nil => simp [pure, Except.pure, eq_comm]
  | cons x xs ih =>
    rw [List.mapM_cons, List.forall₂_cons_left_iff]
    simp only [← ih]
    cases hx : f x with
    | error error => simp [bind, Except.bind]
    | ok y =>
      cases hxs : xs.mapM f with
      | error error => simp [bind, Except.bind]
      | ok others => simp [bind, Except.bind, pure, Except.pure, eq_comm]

theorem mapM_cons_eq_error_iff {x : α} {error : ε} :
    (x :: xs).mapM f = .error error ↔
      f x = .error error ∨ (∃ z, f x = .ok z) ∧ xs.mapM f = .error error := by
  rw [List.mapM_cons]
  cases f x with
  | error other => simp [bind, Except.bind]
  | ok z => cases xs.mapM f <;> simp [bind, Except.bind, pure, Except.pure]

/-- Of several faults the first is reported. -/
theorem mapM_eq_error_iff {error : ε} :
    xs.mapM f = .error error ↔ ∃ before x behind, xs = before ++ x :: behind ∧
      (∀ y ∈ before, ∃ z, f y = .ok z) ∧ f x = .error error := by
  induction xs with
  | nil => simp [pure, Except.pure]
  | cons x xs ih =>
    rw [mapM_cons_eq_error_iff, ih]
    constructor
    · rintro (hx | ⟨hz, before, y, behind, rfl, hbefore, hy⟩)
      · exact ⟨[], x, xs, rfl, fun _ hmem => absurd hmem List.not_mem_nil, hx⟩
      · exact ⟨x :: before, y, behind, rfl, List.forall_mem_cons.2 ⟨hz, hbefore⟩, hy⟩
    · rintro ⟨before, y, behind, heq, hbefore, hy⟩
      cases before with
      | nil =>
        obtain ⟨rfl, rfl⟩ := List.cons.inj heq
        exact .inl hy
      | cons first before =>
        obtain ⟨rfl, rfl⟩ := List.cons.inj heq
        obtain ⟨hz, hbefore⟩ := List.forall_mem_cons.1 hbefore
        exact .inr ⟨hz, before, y, behind, rfl, hbefore, hy⟩

theorem exists_mapM_eq_error_iff :
    (∃ error, xs.mapM f = .error error) ↔ ∃ x ∈ xs, ∃ error, f x = .error error := by
  constructor
  · rintro ⟨error, h⟩
    obtain ⟨before, x, behind, rfl, -, hx⟩ := mapM_eq_error_iff.1 h
    exact ⟨x, List.mem_append_right _ (.head _), error, hx⟩
  · rintro ⟨x, hmem, error, hx⟩
    cases h : xs.mapM f with
    | error other => exact ⟨other, rfl⟩
    | ok ys =>
      have hall : ∀ x ∈ xs, ∃ y, f x = .ok y :=
        ((List.forall₂_and_left xs ys).1 ((mapM_eq_ok_iff.1 h).imp fun _ y hy => ⟨⟨y, hy⟩, hy⟩)).1
      obtain ⟨y, hy⟩ := hall x hmem
      rw [hx] at hy
      cases hy

end Reading

namespace Table

/-! ## Categories by themselves -/

variable {t : Table} {categories : List (String × List Draft)}

/-- A category by itself, with the alternatives that its drafts are read as. -/
def readCategory (entry : String × List Draft) :
    Except TemplateError (String × List Alternative) :=
  (readDrafts entry.1 0 entry.2).map (entry.1, ·)

theorem readCategory_eq_ok_iff {entry : String × List Draft} {read : String × List Alternative} :
    readCategory entry = .ok read ↔
      read.1 = entry.1 ∧ readDrafts entry.1 0 entry.2 = .ok read.2 := by
  obtain ⟨name, alternatives⟩ := read
  rw [readCategory]
  cases readDrafts entry.1 0 entry.2 with
  | error error => simp [Except.map]
  | ok added => simp [Except.map, eq_comm]

/-- A category without alternatives becomes what it is by itself. -/
theorem register_of_nil {entry : String × List Draft} (h : t.alternatives entry.1 = []) :
    t.register entry.1 entry.2 =
      (readCategory entry).map fun read => ⟨t.categories.insert read.1 read.2⟩ := by
  have htotal : Chance.totalOf (([] : List Alternative).map Alternative.weight) = 0 := rfl
  simp only [register_eq, h, htotal, if_neg (Nat.not_lt_zero maxWeight), readCategory]
  cases readDrafts entry.1 0 entry.2 <;> rfl

theorem foldlM_register_eq {entries : List (String × List Draft)}
    (hnames : (entries.map Prod.fst).Nodup)
    (hnew : ∀ entry ∈ entries, t.alternatives entry.1 = []) :
    entries.foldlM (fun t entry => t.register entry.1 entry.2) t =
      (entries.mapM readCategory).map fun read =>
        ⟨read.foldl (fun c entry => c.insert entry.1 entry.2) t.categories⟩ := by
  induction entries generalizing t with
  | nil => rfl
  | cons entry entries ih =>
    obtain ⟨hfirst, hnames⟩ := List.nodup_cons.1 hnames
    obtain ⟨hentry, hnew⟩ := List.forall_mem_cons.1 hnew
    rw [List.foldlM_cons, List.mapM_cons, register_of_nil hentry]
    cases hread : readCategory entry with
    | error error => rfl
    | ok read =>
      have hname := (readCategory_eq_ok_iff.1 hread).1
      have hstill : ∀ other ∈ entries,
          (⟨t.categories.insert read.1 read.2⟩ : Table).alternatives other.1 = [] := by
        intro other hother
        have hne : other.1 ≠ read.1 := fun heq =>
          hfirst (hname ▸ heq ▸ List.mem_map_of_mem hother)
        rw [alternatives_insert, if_neg hne]
        exact hnew other hother
      simp only [Except.map, bind, Except.bind, ih hnames hstill]
      cases entries.mapM readCategory <;> rfl

/-! ## Loading -/

theorem load_eq (h : (categories.map Prod.fst).Nodup) :
    load categories = ((sortByName categories).mapM readCategory).map fun read =>
      ⟨read.foldl (fun c entry => c.insert entry.1 entry.2) .empty⟩ :=
  foldlM_register_eq (nodup_names_of_perm h (sortByName_perm categories)) fun _ _ => rfl

/-- The error that is reported is that of the least faulty category. -/
theorem load_eq_error_iff (h : (categories.map Prod.fst).Nodup) {error : TemplateError} :
    load categories = .error error ↔ ∃ entry ∈ categories,
      readCategory entry = .error error ∧
        ∀ other ∈ categories, other.1 < entry.1 → ∃ read, readCategory other = .ok read := by
  have hsorted := pairwise_sortByName h
  have hmem := fun entry => (sortByName_perm categories).mem_iff (a := entry)
  simp only [← hmem]
  rw [load_eq h, map_eq_error_iff, mapM_eq_error_iff]
  constructor
  · rintro ⟨before, entry, behind, heq, hbefore, herror⟩
    rw [heq] at hsorted ⊢
    refine ⟨entry, List.mem_append_right _ (.head _), herror, fun other hother hlt => ?_⟩
    exact hbefore other ((mem_before_iff hsorted).2 ⟨hother, hlt⟩)
  · rintro ⟨entry, hentry, herror, hsmaller⟩
    obtain ⟨before, behind, heq⟩ := List.append_of_mem hentry
    rw [heq] at hsorted hsmaller
    refine ⟨before, entry, behind, heq, fun other hother => ?_, herror⟩
    obtain ⟨hother, hlt⟩ := (mem_before_iff hsorted).1 hother
    exact hsmaller other hother hlt

/-- A table that is loaded has the alternatives of each category, and no others. -/
theorem find?_of_load (h : (categories.map Prod.fst).Nodup) (hload : load categories = .ok t)
    (name : String) :
    Option.Rel (List.Forall₂ Draft.ReadsAs) (categories.lookup name) (t.categories.find? name) := by
  rw [load_eq h] at hload
  cases hread : (sortByName categories).mapM readCategory with
  | error error =>
    rw [hread] at hload
    cases hload
  | ok read =>
    rw [hread] at hload
    obtain rfl := Except.ok.inj hload
    have hreads : List.Forall₂
        (fun entry read => read.1 = entry.1 ∧ List.Forall₂ Draft.ReadsAs entry.2 read.2)
        (sortByName categories) read := by
      refine (mapM_eq_ok_iff.1 hread).imp fun entry read hread => ?_
      obtain ⟨hname, hdrafts⟩ := readCategory_eq_ok_iff.1 hread
      exact ⟨hname, ((readDrafts_eq_ok_iff (Nat.zero_le _)).1 hdrafts).1⟩
    have hnames : (read.map Prod.fst).Pairwise (· < ·) := by
      rw [map_fst_eq_of_forall₂ hreads]
      exact List.pairwise_map.2 (pairwise_sortByName h)
    rw [Catalogue.find?_foldl_insert hnames, Catalogue.find?_empty, Option.or_none,
      ← lookup_eq_of_perm h (sortByName_perm categories)]
    exact rel_lookup hreads name

/-- However categories of distinct names are enumerated, the same comes of them. Some error is
reported exactly if a category cannot be registered where there is none, and that is the error of
the least of these. Without one the table has what the drafts of each category are read as, in
their order, and no category but those. -/
theorem load_of_distinct {categories : List (String × List Draft)}
    (h : (categories.map Prod.fst).Nodup) :
    (∀ others : List (String × List Draft), others.Perm categories →
      load others = load categories) ∧
    ((∃ error, load categories = .error error) ↔
      ∃ entry ∈ categories, ∃ error, empty.register entry.1 entry.2 = .error error) ∧
    (∀ error, load categories = .error error ↔ ∃ entry ∈ categories,
      empty.register entry.1 entry.2 = .error error ∧
        ∀ other ∈ categories, other.1 < entry.1 → ∃ t, empty.register other.1 other.2 = .ok t) ∧
    ∀ t, load categories = .ok t → ∀ name,
      Option.Rel (List.Forall₂ Draft.ReadsAs) (categories.lookup name)
        (t.categories.find? name) := by
  have hregister : ∀ entry : String × List Draft, empty.register entry.1 entry.2 =
      (readCategory entry).map fun read => ⟨Catalogue.empty.insert read.1 read.2⟩ :=
    fun entry => register_of_nil rfl
  simp only [hregister, map_eq_error_iff, exists_map_eq_ok_iff]
  refine ⟨fun others hperm => ?_, ?_, fun error => load_eq_error_iff h,
    fun t hload => find?_of_load h hload⟩
  · rw [load_eq (nodup_names_of_perm h hperm), load_eq h, sortByName_eq_of_perm h hperm]
  · simp only [load_eq h, map_eq_error_iff, exists_mapM_eq_error_iff,
      (sortByName_perm categories).mem_iff]

/-- Two of three categories are faulty, and the one of the smaller name is reported, though it comes
last. Where both are mended the third has its alternatives. -/
theorem load_of_distinct_greetings :
    let greeting := [⟨2, "hello"⟩, ⟨1, "hi"⟩]
    let faulty : List (String × List Draft) :=
      [("parting", [⟨0, "bye"⟩]), ("greeting", greeting), ("curse", [⟨1, "oh \x7b"⟩])]
    let mended : List (String × List Draft) :=
      [("parting", [⟨1, "bye"⟩]), ("greeting", greeting), ("curse", [⟨1, "oh"⟩])]
    (faulty.map Prod.fst).Nodup ∧ (mended.map Prod.fst).Nodup ∧
      load faulty.reverse = load faulty ∧ load faulty = .error (.malformed .unclosedBrace) ∧
      ∃ t, load mended = .ok t ∧ t.categories.names = ["curse", "greeting", "parting"] ∧
        Option.Rel (List.Forall₂ Draft.ReadsAs) (some greeting)
          (t.categories.find? "greeting") := by
  intro greeting faulty mended
  have hfaulty : (faulty.map Prod.fst).Nodup := by decide
  have hmended : (mended.map Prod.fst).Nodup := by decide
  have hleast : ∀ other ∈ faulty, ¬other.1 < "curse" := by decide
  refine ⟨hfaulty, hmended, (load_of_distinct hfaulty).1 _ (List.reverse_perm faulty), ?_, ?_⟩
  · refine ((load_of_distinct hfaulty).2.2.1 _).2 ⟨("curse", [⟨1, "oh \x7b"⟩]), ?_, by cbv, ?_⟩
    · exact .tail _ (.tail _ (.head _))
    · exact fun other hother hlt => absurd hlt (hleast other hother)
  · have hnames : (load mended).map (·.categories.names) =
        .ok ["curse", "greeting", "parting"] := by
      cbv
    cases hload : load mended with
    | error error =>
      rw [hload] at hnames
      cases hnames
    | ok t =>
      rw [hload] at hnames
      exact ⟨t, rfl, Except.ok.inj hnames, (load_of_distinct hmended).2.2.2 t hload "greeting"⟩

end Table

end Storyweave.Template
