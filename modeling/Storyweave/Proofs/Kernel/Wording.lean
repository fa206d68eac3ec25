import Storyweave.Kernel.Fallback
import Storyweave.Proofs.Story.Wording
import Storyweave.Template.Table

/-!
# The wording of a kernel

Two kernels are alike if, given arguments that are alike, they make the same requests and end the
same way, whatever words they draw or templates they are given. Results:
1. `Table.speaks_of_all`: a category all of whose templates can be filled and say something by
   themselves is always answered with a text that says something.
2. `fallback_alike`: the text of a call that nobody handles is alike for arguments that are alike.
3. `Action.Alike.bind`, `Telling.Alike.bind`: what is put together of actions that are alike is
   alike.
-/

namespace Storyweave

open Storyweave.Story

/-! ## Templates -/

namespace Template

/-- Whether a template can be filled where slots of such names have values, and says something
whatever these are. -/
def Alternative.speaks (names : List String) (a : Alternative) : Bool :=
  (slotNames a.segments).all (fun name => names.contains name || name == "article") &&
    a.segments.any fun
      | .literal text => decide (Worded text)
      | .slot _ => false

theorem mem_slotNames {name : String} {segments : List Segment} :
    name ∈ slotNames segments ↔ .slot name ∈ segments := by
  unfold slotNames
  rw [List.mem_filterMap]
  constructor
  · rintro ⟨segment, hmem, hname⟩
    cases segment with
    | literal text => cases hname
    | slot other => exact Option.some.inj hname ▸ hmem
  · exact fun hmem => ⟨_, hmem, rfl⟩

/-- A segment that can be filled puts some text in front, a literal its own. -/
theorem exists_fill_cons (category : String) {slots : Slots} {segment : Segment}
    (h : ∀ name, segment = .slot name → name ∈ slots.map Prod.fst ∨ name = "article")
    (rest : List Segment) :
    ∃ value, fill category slots (segment :: rest) =
        (fill category slots rest).map (value ++ ·) ∧
      ∀ literal, segment = .literal literal → value = literal := by
  cases segment with
  | literal text => exact ⟨text, rfl, fun literal heq => Segment.literal.inj heq⟩
  | slot name =>
    cases hlookup : slots.lookup name with
    | some value => exact ⟨value, by rw [fill, hlookup]; rfl, nofun⟩
    | none =>
      have habsent : name ∉ slots.map Prod.fst := by
        intro hmem
        obtain ⟨slot, hslot, rfl⟩ := List.mem_map.1 hmem
        simpa using List.lookup_eq_none_iff.1 hlookup slot hslot
      refine ⟨English.article ((nextValue slots rest).getD ""), ?_, nofun⟩
      rw [fill, hlookup]
      simp only [(h name rfl).resolve_left habsent, if_true]
      rfl

/-- A template that can be filled becomes a text with its literals in it. -/
theorem exists_fill (category : String) (slots : Slots) {segments : List Segment}
    (h : ∀ name, .slot name ∈ segments → name ∈ slots.map Prod.fst ∨ name = "article") :
    ∃ text, fill category slots segments = .ok text ∧
      ∀ literal, .literal literal ∈ segments → Worded literal → Worded text := by
  induction segments with
  | nil => exact ⟨"", rfl, nofun⟩
  | cons segment rest ih =>
    obtain ⟨text, htext, hworded⟩ := ih fun name hmem => h name (.tail _ hmem)
    obtain ⟨value, hfill, hvalue⟩ :=
      exists_fill_cons category (fun name heq => h name (heq ▸ .head _)) rest
    refine ⟨value ++ text, by rw [hfill, htext]; rfl, fun literal hmem hliteral => ?_⟩
    rcases List.mem_cons.1 hmem with heq | hmem
    · exact worded_append_iff.2 (.inl (hvalue literal heq.symm ▸ hliteral))
    · exact worded_append_iff.2 (.inr (hworded literal hmem hliteral))

theorem Alternative.exists_fill_worded {a : Alternative} {slots : Slots} (category : String)
    (h : a.speaks (slots.map Prod.fst) = true) :
    ∃ text, fill category slots a.segments = .ok text ∧ Worded text := by
  simp only [speaks, Bool.and_eq_true, List.all_eq_true, List.any_eq_true] at h
  obtain ⟨hslots, segment, hmem, hsegment⟩ := h
  obtain ⟨text, htext, hworded⟩ := exists_fill category slots fun name hname => by
    simpa using hslots name (mem_slotNames.2 hname)
  refine ⟨text, htext, ?_⟩
  cases segment with
  | literal literal => exact hworded literal hmem (of_decide_eq_true hsegment)
  | slot name => cases hsegment

/-- Whatever chance chooses, a category is answered with a text that says something. -/
def Table.Speaks (t : Table) (category : String) (slots : Slots) : Prop :=
  ∀ chance, ∃ text, (t.generate category slots chance).1 = .ok text ∧ Worded text

theorem Table.speaks_of_all {t : Table} {category : String} {slots : Slots}
    (h : (t.alternatives category).all (·.speaks (slots.map Prod.fst)) = true) :
    t.Speaks category slots := by
  intro chance
  unfold generate
  cases halternatives : t.alternatives category with
  | nil => exact ⟨_, rfl, by simp +decide [defaultPhrase]⟩
  | cons first rest =>
    rw [halternatives] at h
    have hworded (chosen : Alternative) (hchosen : chosen ∈ first :: rest) :=
      Alternative.exists_fill_worded category (List.all_eq_true.1 h chosen hchosen)
    dsimp only
    split
    case h_1 index _ _ =>
      refine hworded _ ?_
      cases hindex : (first :: rest)[index]? with
      | none => exact .head _
      | some chosen => exact List.mem_of_getElem? hindex
    case h_2 => exact hworded first (.head _)
    case h_3 => exact hworded first (.head _)

end Template

namespace Kernel

open Storyweave.Template

/-! ## Arguments -/

/-- Keyword arguments whose values are alike one by one, under the same keys. -/
abbrev AlikeKeywords (keywords others : List (String × Value)) : Prop :=
  List.Forall₂ (fun k l => k.1 = l.1 ∧ k.2.Alike l.2) keywords others

/-- Two lists of arguments whose values are alike. -/
structure Args.Alike (a b : Args) : Prop where
  positional : AlikeValues a.positional b.positional
  keywords : AlikeKeywords a.keywords b.keywords

namespace Args.Alike

variable {a b : Args}

theorem refl (a : Args) : a.Alike a :=
  ⟨Value.alikeValues_refl _, List.forall₂_same.2 fun k _ => ⟨rfl, .same k.2⟩⟩

theorem characters_eq (h : a.Alike b) : a.characters = b.characters :=
  filterMap_eq_of_forall₂ (fun _ _ h => h.asCharacter_eq) h.positional

theorem firstCharacter_eq (h : a.Alike b) : a.firstCharacter = b.firstCharacter := by
  rw [firstCharacter, firstCharacter, h.characters_eq]

theorem concepts_eq (h : a.Alike b) : a.concepts = b.concepts :=
  filterMap_eq_of_forall₂ (fun _ _ h => h.asConcept_eq) h.positional

theorem fragments (h : a.Alike b) : AlikeFragments a.fragments b.fragments :=
  List.rel_filterMap (fun _ _ h => h.asFragment) h.positional

theorem keyword (h : a.Alike b) (key : String) :
    Option.Rel Value.Alike (a.keyword key) (b.keyword key) := by
  obtain ⟨_, keywords⟩ := a
  obtain ⟨_, others⟩ := b
  have hkeywords : AlikeKeywords keywords others := h.keywords
  unfold Args.keyword
  induction hkeywords with
  | nil => exact .none
  | @cons k l keywords others hkl hrest ih =>
    obtain ⟨hkey, hvalue⟩ := hkl
    rw [Catalogue.lookup_cons, Catalogue.lookup_cons, hkey]
    split
    case isTrue => exact .some hvalue
    case isFalse => exact ih ⟨h.positional, hrest⟩

end Args.Alike

/-! ## Calls that nobody handles -/

theorem isEmpty_eq_of_forall₂ {α β : Type} {R : α → β → Prop} {xs : List α} {ys : List β}
    (h : List.Forall₂ R xs ys) : xs.isEmpty = ys.isEmpty := by
  cases h <;> rfl

theorem verbSentence_alike (cast : List Character) (name : String) {subject other : String}
    {values others : List Value} (hsubject : Alike subject other) (h : AlikeValues values others) :
    Alike (verbSentence cast name subject values) (verbSentence cast name other others) := by
  have hobjects := Value.phrases_alike cast h
  unfold verbSentence
  refine .append (alike_intercalate " " (.cons hsubject (List.rel_append ?_ ?_))) (.refl ".")
  · exact List.forall₂_same.2 fun word _ => .refl word
  · rw [isEmpty_eq_of_forall₂ hobjects]
    split
    case isTrue => exact .nil
    case isFalse => exact .cons (alike_joinList hobjects) .nil

theorem worded_nounSentence (cast : List Character) (name : String) (values : List Value) :
    Worded (nounSentence cast name values) := by
  simp only [nounSentence]
  split
  · simp +decide
  · split <;> simp +decide

theorem findIdx?_eq_of_forall₂ {α β : Type} {R : α → β → Prop} {p : α → Bool} {q : β → Bool}
    (hpq : ∀ a b, R a b → p a = q b) {xs : List α} {ys : List β} (h : List.Forall₂ R xs ys) :
    xs.findIdx? p = ys.findIdx? q := by
  induction h with
  | nil => rfl
  | cons hxy _ ih => rw [List.findIdx?_cons, List.findIdx?_cons, hpq _ _ hxy, ih]

theorem alike_getElem? {ss ts : List String} (h : List.Forall₂ Alike ss ts) (index : Nat) :
    Alike (ss[index]?.getD "") (ts[index]?.getD "") := by
  induction h generalizing index with
  | nil => exact .refl _
  | cons hst _ ih =>
    cases index with
    | zero => exact hst
    | succ index => exact ih index

/-- The fragment of a call that nobody handles is alike for arguments that are alike. -/
theorem fallback_alike (cast : List Character) (name : String) {args args' : Args}
    (h : args.Alike args') : (fallback cast name args).Alike (fallback cast name args') where
  weight := rfl
  kernel := rfl
  text := by
    have hnoun : Alike (nounSentence cast name args.positional)
        (nounSentence cast name args'.positional) :=
      (worded_nounSentence _ _ _).alike (worded_nounSentence _ _ _)
    have hindex := findIdx?_eq_of_forall₂ (p := fun v => v.asCharacter.isSome)
      (q := fun v => v.asCharacter.isSome) (fun _ _ h => by rw [Value.Alike.asCharacter_eq h])
      h.positional
    simp only [fallback, ← hindex]
    split
    case h_1 index _ =>
      split
      case isTrue =>
        refine verbSentence_alike cast name ?_ ?_
        · rw [← List.getElem?_map, ← List.getElem?_map]
          exact alike_getElem? (List.rel_map (fun _ _ h => Value.phrase_alike cast h) h.positional)
            index
        · rw [List.eraseIdx_eq_take_drop_succ, List.eraseIdx_eq_take_drop_succ]
          exact List.rel_append (List.forall₂_take _ h.positional)
            (List.forall₂_drop _ h.positional)
      case isFalse => exact hnoun
    case h_2 => exact hnoun

/-! ## Results -/

/-- Two ends that fail alike, or end in results that are related. -/
inductive EndsAlike {ε α β : Type} (R : α → β → Prop) : Except ε α → Except ε β → Prop where
  | error (e : ε) : EndsAlike R (.error e) (.error e)
  | ok {a : α} {b : β} : R a b → EndsAlike R (.ok a) (.ok b)

/-! ## Actions -/

/-- Every character of a scene has a name that says something. -/
def Scene.Named (scene : Scene) : Prop := ∀ c ∈ scene.cast, Worded c.name

/-- Two actions make the same requests, and end in results that are related. They may be given other
words and templates, and things that the story is about, but no answer that fails. -/
inductive Action.Alike {α β : Type} (t : Table) (R : α → β → Prop) :
    Action α → Action β → Prop where
  | done {a : α} {b : β} : R a b → Alike t R (.done a) (.done b)
  | look {next : Scene → Action α} {next' : Scene → Action β} :
    (∀ scene object, scene.Named → Alike t R (next scene) (next' { scene with object })) →
    Alike t R (.look next) (.look next')
  | draw {next : UInt32 → Action α} {next' : UInt32 → Action β} :
    (∀ word other, Alike t R (next word) (next' other)) → Alike t R (.draw next) (.draw next')
  | template {category : String} {slots slots' : Slots}
    {next : Except TemplateError String → Action α}
    {next' : Except TemplateError String → Action β} :
    t.Speaks category slots → t.Speaks category slots' →
    (∀ text other, Worded text → Worded other → Alike t R (next (.ok text)) (next' (.ok other))) →
    Alike t R (.template category slots next) (.template category slots' next')
  | request {effect effect' : Effect} {next : Action α} {next' : Action β} :
    effect.Alike effect' → Alike t R next next' →
    Alike t R (.request effect next) (.request effect' next')
  | call {kernel : String} {args args' : Args} {next : Except CallError Fragment → Action α}
    {next' : Except CallError Fragment → Action β} :
    args.Alike args' →
    (∀ answer other, EndsAlike Fragment.Alike answer other →
      Alike t R (next answer) (next' other)) →
    Alike t R (.call kernel args next) (.call kernel args' next')

section

variable {α β α' β' : Type} {t : Table} {R : α → β → Prop} {S : α' → β' → Prop}

theorem Action.Alike.bind {action : Action α} {other : Action β} {f : α → Action α'}
    {g : β → Action β'} (h : action.Alike t R other) (hfg : ∀ a b, R a b → (f a).Alike t S (g b)) :
    (action.bind f).Alike t S (other.bind g) := by
  induction h with
  | done hab => exact hfg _ _ hab
  | look _ ih => exact .look ih
  | draw _ ih => exact .draw ih
  | template hslots hslots' _ ih => exact .template hslots hslots' ih
  | request heffect _ ih => exact .request heffect ih
  | call hargs _ ih => exact .call hargs ih

/-- Two actions that are alike and may end in a refusal, which is the same then. -/
def Telling.Alike (t : Table) (R : α → β → Prop) (telling : Telling α) (other : Telling β) : Prop :=
  Action.Alike t (EndsAlike R) telling.run other.run

namespace Telling.Alike

theorem pure {a : α} {b : β} (h : R a b) : Alike t R (Pure.pure a) (Pure.pure b) := .done (.ok h)

theorem refuse (message : String) : Alike t R (Telling.refuse message) (Telling.refuse message) :=
  .done (.error _)

theorem bind {telling : Telling α} {other : Telling β} {f : α → Telling α'} {g : β → Telling β'}
    (h : Alike t R telling other) (hfg : ∀ a b, R a b → Alike t S (f a) (g b)) :
    Alike t S (telling >>= f) (other >>= g) := by
  refine Action.Alike.bind h fun _ _ hend => ?_
  cases hend with
  | error refusal => exact .done (.error refusal)
  | ok hab => exact hfg _ _ hab

/-- What is done with a scene must not depend on the thing that the story is about. -/
theorem look_bind {f : Scene → Telling α} {g : Scene → Telling β}
    (hobject : ∀ scene object, g { scene with object } = g scene)
    (h : ∀ scene, scene.Named → Alike t R (f scene) (g scene)) :
    Alike t R (Telling.look >>= f) (Telling.look >>= g) := by
  refine Action.Alike.look fun scene object hnamed => ?_
  have hnext := h scene hnamed
  rw [← hobject scene object] at hnext
  exact hnext

theorem request {effect other : Effect} (h : effect.Alike other) :
    Alike t Eq (Telling.request effect) (Telling.request other) :=
  Action.Alike.request h (.done (.ok rfl))

theorem adjust (id : CharacterId) (emotion : Emotion) (delta : Float) :
    Alike t Eq (Telling.adjust id emotion delta) (Telling.adjust id emotion delta) :=
  request (.same _)

theorem template {category : String} {slots slots' : Slots} (h : t.Speaks category slots)
    (h' : t.Speaks category slots') :
    Alike t Story.Alike (Telling.template category slots) (Telling.template category slots') :=
  Action.Alike.template h h' fun _ _ hworded hworded' => .done (.ok (hworded.alike hworded'))

theorem forEach {step : α → Telling PUnit} (h : ∀ item, Alike t Eq (step item) (step item))
    (items : List α) :
    Alike t Eq (ForIn.forIn items PUnit.unit fun item _ => do step item; return .yield ⟨⟩)
      (ForIn.forIn items PUnit.unit fun item _ => do step item; return .yield ⟨⟩) := by
  induction items with
  | nil => exact pure rfl
  | cons item rest ih =>
    rw [List.forIn_cons]
    refine bind (bind (h item) fun _ _ _ => pure rfl) fun step _ hstep => ?_
    subst hstep
    cases step with
    | done state => exact pure rfl
    | yield state => exact ih

end Telling.Alike

end

/-- Given arguments that are alike, a handler does what is alike. -/
def Handler.Alike (t : Table) (handler : Handler) : Prop :=
  ∀ kernel args args', args.Alike args' →
    Telling.Alike t Fragment.Alike (handler ⟨kernel, args⟩) (handler ⟨kernel, args'⟩)

end Kernel

end Storyweave
