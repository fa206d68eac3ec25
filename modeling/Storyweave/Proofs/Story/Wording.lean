import Mathlib.Data.List.Forall2
import Storyweave.Proofs.Story.Identity
import Storyweave.Proofs.Story.Rendering

/-!
# Wording

Two texts are alike if they are the same or if both say something. That is all the evaluation asks
of a text: whether it is blank and whether a phrase is left of it does not depend on the words it
uses. Results:
1. `Alike.append`, `alike_prose`, `alike_joinList`: what is put together of texts that are alike is
   alike.
2. `Value.phrase_alike`, `Value.toParts_alike`, `Value.generated_alike`: values that are alike read
   alike, and come to fragments that are alike.
3. `Narrative.Alike.apply`, `Narrative.Alike.emit`: a story goes on as one that is alike.
-/

namespace Storyweave.Story

open Storyweave.Text

/-! ## Texts -/

/-- A text that says something: it holds more than blanks and marks. -/
def Worded (text : String) : Prop := content text.toList ≠ []

instance : DecidablePred Worded := fun text =>
  inferInstanceAs (Decidable (content text.toList ≠ []))

/-- Two texts that are the same, or that both say something. -/
def Alike (s t : String) : Prop := s = t ∨ Worded s ∧ Worded t

section Texts

variable {s t s' t' : String}

theorem content_append (xs ys : List Char) : content (xs ++ ys) = content xs ++ content ys :=
  List.filter_append ..

@[simp] theorem worded_append_iff : Worded (s ++ t) ↔ Worded s ∨ Worded t := by
  simp only [Worded, String.toList_append, content_append, ne_eq, List.append_eq_nil_iff]
  tauto

theorem content_eq_nil_of_isBlankText (h : isBlankText s = true) : content s.toList = [] :=
  List.filter_eq_nil_iff.2 fun c hc => by
    simp [isContent_eq_false_of_isBlank c (List.all_eq_true.1 h c hc)]

theorem Worded.isBlankText_eq_false (h : Worded s) : isBlankText s = false :=
  Bool.eq_false_iff.2 fun hblank => h (content_eq_nil_of_isBlankText hblank)

theorem Worded.ne_empty (h : Worded s) : s ≠ "" := by
  rintro rfl
  exact h rfl

theorem Worded.alike (hs : Worded s) (ht : Worded t) : Alike s t := .inr ⟨hs, ht⟩

namespace Alike

theorem refl (s : String) : Alike s s := .inl rfl

/-- A function that keeps what says something keeps texts alike. -/
theorem map {f : String → String} (hf : ∀ s, Worded s → Worded (f s)) (h : Alike s t) :
    Alike (f s) (f t) := by
  rcases h with rfl | ⟨hs, ht⟩
  · exact refl _
  · exact (hf s hs).alike (hf t ht)

theorem append (h : Alike s t) (h' : Alike s' t') : Alike (s ++ s') (t ++ t') := by
  rcases h with rfl | ⟨hs, ht⟩
  · exact h'.map fun _ hworded => worded_append_iff.2 (.inr hworded)
  · exact (worded_append_iff.2 (.inl hs)).alike (worded_append_iff.2 (.inl ht))

theorem isBlankText_eq (h : Alike s t) : isBlankText s = isBlankText t := by
  rcases h with rfl | ⟨hs, ht⟩
  · rfl
  · rw [hs.isBlankText_eq_false, ht.isBlankText_eq_false]

theorem eq_empty_iff (h : Alike s t) : s = "" ↔ t = "" := by
  rcases h with rfl | ⟨hs, ht⟩
  · rfl
  · exact iff_of_false hs.ne_empty ht.ne_empty

end Alike

/-- Texts that are alike one by one are the same, or in either list one says something. -/
theorem eq_or_worded {ss ts : List String} (h : List.Forall₂ Alike ss ts) :
    ss = ts ∨ (∃ s ∈ ss, Worded s) ∧ ∃ t ∈ ts, Worded t := by
  induction h with
  | nil => exact .inl rfl
  | @cons s t ss ts hst _ ih =>
    rcases hst with rfl | ⟨hs, ht⟩
    · rcases ih with rfl | ⟨⟨s', hs', hworded⟩, t', ht', hworded'⟩
      · exact .inl rfl
      · exact .inr ⟨⟨s', .tail _ hs', hworded⟩, t', .tail _ ht', hworded'⟩
    · exact .inr ⟨⟨s, .head _, hs⟩, t, .head _, ht⟩

/-- A text made of others that says something if one of them does is alike for texts that are. -/
theorem alike_of_lists {f : List String → String}
    (hf : ∀ ss, ∀ s ∈ ss, Worded s → Worded (f ss)) {ss ts : List String}
    (h : List.Forall₂ Alike ss ts) : Alike (f ss) (f ts) := by
  rcases eq_or_worded h with rfl | ⟨⟨s, hs, hworded⟩, t, ht, hworded'⟩
  · exact .refl _
  · exact (hf ss s hs hworded).alike (hf ts t ht hworded')

theorem worded_prose (texts : List String) (t : String) (ht : t ∈ texts) (h : Worded t) :
    Worded (prose texts) := by
  rw [Worded, prose, String.toList_ofList, content_prose, Ne, List.flatMap_eq_nil_iff]
  exact fun hall => h (hall t ht)

theorem alike_prose {ss ts : List String} (h : List.Forall₂ Alike ss ts) :
    Alike (prose ss) (prose ts) :=
  alike_of_lists worded_prose h

theorem worded_intercalate (separator : String) (texts : List String) (t : String)
    (ht : t ∈ texts) (h : Worded t) : Worded (separator.intercalate texts) := by
  induction texts with
  | nil => cases ht
  | cons first rest ih =>
    cases rest with
    | nil =>
      obtain rfl := List.mem_singleton.1 ht
      rwa [String.intercalate_singleton]
    | cons second rest =>
      rw [String.intercalate_cons_cons, worded_append_iff, worded_append_iff]
      rcases List.mem_cons.1 ht with rfl | ht
      · exact .inl (.inl h)
      · exact .inr (ih ht)

theorem alike_intercalate (separator : String) {ss ts : List String}
    (h : List.Forall₂ Alike ss ts) :
    Alike (separator.intercalate ss) (separator.intercalate ts) :=
  alike_of_lists (worded_intercalate separator) h

/-- Two or more items in prose say something in any case, as their conjunction does. -/
theorem alike_joinList {ss ts : List String} (h : List.Forall₂ Alike ss ts) :
    Alike (English.joinList ss "and") (English.joinList ts "and") := by
  have hand : Worded "and" := by decide
  have hmany (first second : String) (rest : List String) :
      Worded (English.joinList (first :: second :: rest) "and") := by
    cases rest <;> simp [English.joinList, worded_append_iff, hand]
  cases h with
  | nil => exact .refl _
  | cons hst h =>
    cases h with
    | nil => exact hst
    | cons _ _ => exact (hmany _ _ _).alike (hmany _ _ _)

end Texts

/-! ## Fragments and compositions -/

/-- Two fragments of equal weight from the same kernel whose texts are alike. -/
structure Fragment.Alike (f g : Fragment) : Prop where
  text : Story.Alike f.text g.text
  weight : f.weight = g.weight
  kernel : f.kernel = g.kernel

namespace Fragment

variable {f g : Fragment}

theorem Alike.refl (f : Fragment) : f.Alike f := ⟨.refl _, rfl, rfl⟩

theorem Alike.isBlank_eq (h : f.Alike g) : f.isBlank = g.isBlank := h.text.isBlankText_eq

/-- A phrase is what the text says, but for blanks and marks at its ends. -/
theorem content_phrase (f : Fragment) : content f.phrase.toList = content f.text.toList := by
  have hend : ∀ c, endsSentence c = true → isContent c = false := fun c hc =>
    isContent_eq_false_of_mem_marks c (mem_marks_of_endsSentence hc)
  rw [phrase, String.toList_ofList, content, filter_dropEnd hend,
    filter_trimChars isContent_eq_false_of_isBlank, content]

theorem Alike.phrase (h : f.Alike g) : Story.Alike f.phrase g.phrase := by
  rcases h.text with heq | ⟨hf, hg⟩
  · rw [Fragment.phrase, heq, ← Fragment.phrase]
    exact .refl _
  · exact .inr ⟨by rwa [Worded, content_phrase], by rwa [Worded, content_phrase]⟩

theorem Alike.diluted (h : f.Alike g) (d : Float) : (f.diluted d).Alike (g.diluted d) :=
  ⟨h.text, by rw [Fragment.diluted, Fragment.diluted, h.weight], h.kernel⟩

end Fragment

/-- Functions that agree on related items agree on lists of them. -/
theorem map_eq_of_forall₂ {α β γ : Type} {R : α → β → Prop} {f : α → γ} {g : β → γ}
    (hfg : ∀ a b, R a b → f a = g b) {xs : List α} {ys : List β} (h : List.Forall₂ R xs ys) :
    xs.map f = ys.map g := by
  induction h with
  | nil => rfl
  | cons hxy _ ih => rw [List.map_cons, List.map_cons, hfg _ _ hxy, ih]

theorem filterMap_eq_of_forall₂ {α β γ : Type} {R : α → β → Prop} {f : α → Option γ}
    {g : β → Option γ} (hfg : ∀ a b, R a b → f a = g b) {xs : List α} {ys : List β}
    (h : List.Forall₂ R xs ys) : xs.filterMap f = ys.filterMap g := by
  induction h with
  | nil => rfl
  | cons hxy _ ih => rw [List.filterMap_cons, List.filterMap_cons, hfg _ _ hxy, ih]

/-- Fragments that are alike one by one. -/
abbrev AlikeFragments (fs gs : List Fragment) : Prop := List.Forall₂ Fragment.Alike fs gs

section Lists

variable {fs gs : List Fragment}

theorem AlikeFragments.refl (fs : List Fragment) : AlikeFragments fs fs :=
  List.forall₂_same.2 fun f _ => .refl f

theorem AlikeFragments.texts (h : AlikeFragments fs gs) :
    List.Forall₂ Alike (fs.map Fragment.text) (gs.map Fragment.text) :=
  List.rel_map (fun _ _ h => h.text) h

theorem AlikeFragments.weights (h : AlikeFragments fs gs) :
    fs.map Fragment.weight = gs.map Fragment.weight :=
  map_eq_of_forall₂ (fun _ _ h => h.weight) h

theorem AlikeFragments.diluted (h : AlikeFragments fs gs) (d : Float) :
    AlikeFragments (fs.map (·.diluted d)) (gs.map (·.diluted d)) :=
  List.rel_map (fun _ _ h => h.diluted d) h

/-- The blank ones among fragments that are alike stand at the same places. -/
theorem AlikeFragments.shown (h : AlikeFragments fs gs) :
    AlikeFragments (fs.filter fun f => !f.isBlank) (gs.filter fun f => !f.isBlank) :=
  List.rel_filter (fun _ _ h => by simp only [h.isBlank_eq]) h

end Lists

/-- Two compositions whose parts are alike. -/
def Composition.Alike (c d : Composition) : Prop := AlikeFragments c.parts d.parts

namespace Composition

theorem alike_join {fs gs fs' gs' : List Fragment} (h : AlikeFragments fs gs)
    (h' : AlikeFragments fs' gs') : (join fs fs').Alike (join gs gs') :=
  AlikeFragments.shown (List.rel_append h h')

theorem Alike.toFragment {c d : Composition} (h : c.Alike d) :
    c.toFragment.Alike d.toFragment where
  text := alike_prose h.texts
  weight := by rw [Composition.toFragment, Composition.toFragment, weight, weight, h.weights]
  kernel := rfl

end Composition

/-! ## Values -/

/-- Two values that are the same but for the texts of their fragments, which are alike. -/
inductive Value.Alike : Value → Value → Prop where
  | same (value : Value) : Alike value value
  | fragment {f g : Fragment} : f.Alike g → Alike (.fragment f) (.fragment g)
  | composition {c d : Composition} : c.Alike d → Alike (.composition c) (.composition d)
  | list {items others : List Value} :
    List.Forall₂ Alike items others → Alike (.list items) (.list others)

/-- Values that are alike one by one. -/
abbrev AlikeValues (items others : List Value) : Prop := List.Forall₂ Value.Alike items others

namespace Value

variable {v w : Value} {items others : List Value}

theorem alikeValues_refl (items : List Value) : AlikeValues items items :=
  List.forall₂_same.2 fun value _ => .same value

theorem Alike.asCharacter_eq (h : v.Alike w) : v.asCharacter = w.asCharacter := by
  cases h <;> rfl

theorem Alike.asNumber_eq (h : v.Alike w) : v.asNumber = w.asNumber := by
  cases h <;> rfl

theorem Alike.asConcept_eq (h : v.Alike w) : v.asConcept = w.asConcept := by
  cases h <;> rfl

theorem Alike.kind_eq (h : v.Alike w) : v.kind = w.kind := by
  cases h <;> rfl

theorem Alike.asFragment (h : v.Alike w) :
    Option.Rel Fragment.Alike v.asFragment w.asFragment := by
  cases h with
  | same =>
    cases v.asFragment with
    | none => exact .none
    | some f => exact .some (.refl f)
  | fragment h => exact .some h
  | composition h => exact .some h.toFragment
  | list _ => exact .none

mutual

/-- Values that are alike read alike. -/
theorem phrase_alike (cast : List Character) : ∀ {v w : Value}, v.Alike w →
    Story.Alike (v.phrase cast) (w.phrase cast)
  | _, _, .same value => .refl _
  | _, _, .fragment h => by
    simp only [phrase]
    exact h.phrase
  | _, _, .composition h => by
    simp only [phrase]
    exact h.toFragment.phrase
  | _, _, .list h => by
    simp only [phrase]
    exact alike_joinList (phrases_alike cast h)

theorem phrases_alike (cast : List Character) : ∀ {items others : List Value},
    AlikeValues items others →
    List.Forall₂ Story.Alike (phrases cast items) (phrases cast others)
  | _, _, .nil => .nil
  | _, _, .cons hfirst hrest => by
    have hphrase := phrase_alike cast hfirst
    simp only [phrases, hphrase.eq_empty_iff]
    split
    case isTrue => exact phrases_alike cast hrest
    case isFalse => exact .cons hphrase (phrases_alike cast hrest)

end

theorem heaviest_eq (h : AlikeValues items others) : heaviest items = heaviest others := by
  have hfragments : AlikeFragments (items.filterMap asFragment) (others.filterMap asFragment) :=
    List.rel_filterMap (fun _ _ h => h.asFragment) h
  unfold heaviest
  generalize items.filterMap asFragment = fs, others.filterMap asFragment = gs at hfragments
  cases hfragments with
  | nil => rfl
  | cons hfirst hrest =>
    simp only [hfirst.weight, AlikeFragments.weights hrest]

/-- The operands of `+` and `/` are alike for values that are alike. -/
theorem toParts_alike (cast : List Character) (h : v.Alike w) :
    AlikeFragments (v.toParts cast) (w.toParts cast) := by
  cases h with
  | same value => exact .refl _
  | fragment h => exact .cons h .nil
  | composition h => exact h
  | list h =>
    cases h with
    | nil => exact .nil
    | cons hfirst hrest =>
      have hitems := List.Forall₂.cons hfirst hrest
      simp only [toParts, heaviest_eq hitems]
      exact .cons ⟨phrase_alike cast (.list hitems), rfl, rfl⟩ .nil

mutual

/-- What a statement adds to the story is alike for values that are alike. -/
theorem generated_alike : ∀ {v w : Value}, v.Alike w → AlikeFragments v.generated w.generated
  | _, _, .same value => .refl _
  | _, _, .fragment h => by
    simp only [generated]
    exact .cons h .nil
  | _, _, .composition h => by
    simp only [generated]
    exact h
  | _, _, .list h => by
    simp only [generated]
    exact generatedBy_alike h

theorem generatedBy_alike : ∀ {items others : List Value}, AlikeValues items others →
    AlikeFragments (generatedBy items) (generatedBy others)
  | _, _, .nil => .nil
  | _, _, .cons hfirst hrest => by
    simp only [generatedBy]
    exact List.rel_append (generated_alike hfirst) (generatedBy_alike hrest)

end

end Value

/-! ## Stories -/

/-- Two effects that are the same but for the name of a thing. -/
inductive Effect.Alike : Effect → Effect → Prop where
  | same (effect : Effect) : Alike effect effect
  | object (thing other : String) : Alike (.object (some thing)) (.object (some other))

/-- Two stories that are the same but for what their texts say, the things they are about, and
chance. In either of them every character has a name that says something. -/
structure Narrative.Alike (n m : Narrative) : Prop where
  characters : n.characters = m.characters
  byName : n.byName = m.byName
  named : ∀ name ∈ n.names, Worded name
  fragments : AlikeFragments n.fragments m.fragments
  focus : n.focus = m.focus
  diagnostics : n.diagnostics = m.diagnostics
  effects : List.Forall₂ Effect.Alike n.effects m.effects
  clamp : n.clamp = m.clamp

namespace Narrative

variable {n m : Narrative}

theorem alike_start (seed other : UInt64) (clamp : Clamp) :
    (start seed clamp).Alike (start other clamp) :=
  ⟨rfl, rfl, nofun, .nil, rfl, rfl, .nil, rfl⟩

namespace Alike

theorem emit {f g : Fragment} (h : n.Alike m) (hfg : f.Alike g) : (n.emit f).Alike (m.emit g) := by
  unfold Narrative.emit
  rw [hfg.isBlank_eq]
  split
  case isTrue => exact h
  case isFalse => exact { h with fragments := List.rel_append h.fragments (.cons hfg .nil) }

theorem diagnose (h : n.Alike m) (kind : DiagnosticKind) (subject : Option String)
    (message : String) :
    (n.diagnose kind subject message).Alike (m.diagnose kind subject message) :=
  { h with diagnostics := congrArg (· ++ [_]) h.diagnostics }

theorem withChance (h : n.Alike m) (chance other : Chance) :
    { n with chance }.Alike { m with chance := other } :=
  { h with }

theorem apply {e e' : Effect} (h : n.Alike m) (hee' : e.Alike e') :
    (n.apply e).Alike (m.apply e') := by
  have heffects : List.Forall₂ Effect.Alike (n.effects ++ [e]) (m.effects ++ [e']) :=
    List.rel_append h.effects (.cons hee' .nil)
  have hnamed : ∀ name ∈ (n.apply e).names, Worded name := (names_apply n e).symm ▸ h.named
  cases hee' with
  | object thing other => exact { h with effects := heffects }
  | same =>
    cases e with
    | focus target => exact { h with effects := heffects, focus := rfl }
    | object thing => exact { h with effects := heffects }
    | emotion id emotion delta =>
      have hsame : n.character id = m.character id := congrArg (·[id]?) h.characters
      cases hcharacter : n.character id with
      | none =>
        rw [apply_emotion_of_unknown hcharacter, apply_emotion_of_unknown (hsame ▸ hcharacter)]
        exact h
      | some c =>
        rw [apply_emotion hcharacter] at hnamed ⊢
        rw [apply_emotion (hsame ▸ hcharacter)]
        exact { h with
          effects := heffects, named := hnamed
          characters := by rw [h.characters, h.clamp] }

theorem applyAll {es es' : List Effect} (h : n.Alike m) (hes : List.Forall₂ Effect.Alike es es') :
    (es.foldl Narrative.apply n).Alike (es'.foldl Narrative.apply m) :=
  List.rel_foldl (fun _ _ h _ _ hee' => h.apply hee') h hes

/-- A declaration of a name that says something. -/
theorem introduced {name : String} (h : n.Alike m) (hname : Worded name) (traits : List String) :
    (n.introduced name traits).Alike (m.introduced name traits) where
  characters := by rw [Narrative.introduced, Narrative.introduced, h.characters]
  byName := by rw [Narrative.introduced, Narrative.introduced, h.characters, h.byName]
  named := by
    have hnames : (n.introduced name traits).names = n.names ++ [name] := List.map_append
    rw [hnames, List.forall_mem_append]
    exact ⟨h.named, List.forall_mem_singleton.2 hname⟩
  fragments := h.fragments
  focus := by rw [Narrative.introduced, Narrative.introduced, h.characters]
  diagnostics := h.diagnostics
  effects := h.effects
  clamp := h.clamp

end Alike

end Narrative

end Storyweave.Story
