import Mathlib
import Storyweave.Template.Basic

/-!
# What filling makes of a template

A template is filled segment by segment. What a segment becomes depends on the values of the slots
and, for an article without a value, on the slots behind it. Results:
1. `article_of_takesAn`, `article_of_not_takesAn`: a word goes with `an` if the first of its
   characters that is not blank is a vowel of either case, and with `a` otherwise.
2. `nextValue_eq_some_iff`: what an article looks ahead to is the first value that shows.
3. `fill_eq_ok_iff`, `fill_eq_error_iff`: a template is filled with what its segments become, or
   the first of its slots that lacks a value is reported.
4. `fill_of_slots`: both together, and that no slots count but those of the template.
-/

namespace Storyweave.Template

open Storyweave.Text

/-! ## Articles -/

/-- The vowels of either case. -/
def vowels : List Char := ['a', 'e', 'i', 'o', 'u', 'A', 'E', 'I', 'O', 'U']

/-- The first character of a word that is not blank is a vowel. -/
def TakesAn (word : String) : Prop :=
  ∃ blanks first behind, word.toList = blanks ++ first :: behind ∧
    (∀ c ∈ blanks, isBlank c = true) ∧ isBlank first = false ∧ first ∈ vowels

theorem isVowel_toLower_iff (c : Char) : English.isVowel c.toLower = true ↔ c ∈ vowels := by
  have hascii : ∀ n : Fin 128,
      English.isVowel (Char.ofNat n).toLower = true ↔ Char.ofNat n ∈ vowels := by
    decide +kernel
  by_cases h : c.toNat < 128
  · simpa using hascii ⟨c.toNat, h⟩
  · -- no character beyond these has another case or is a vowel
    have hcase : ¬c.isUpper = true := by
      simp only [Char.isUpper, decide_eq_true_eq]
      exact fun hupper => h (Nat.lt_of_le_of_lt (UInt32.le_iff_toNat_le.1 hupper.2) (by decide))
    have hsmall : ∀ d ∈ vowels, d.toNat < 128 := by simp [vowels]
    have hlower : ∀ d ∈ "aeiou".toList, d ∈ vowels := by simp [vowels]
    rw [Char.toLower_eq_of_not_isUpper hcase]
    constructor
    · exact fun hvowel => hlower c (List.contains_iff_mem.1 hvowel)
    · exact fun hmem => absurd (hsmall c hmem) h

/-- The article goes by the first character that is not blank. -/
theorem article_of_first {word : String} {blanks behind : List Char} {first : Char}
    (hword : word.toList = blanks ++ first :: behind) (hblanks : ∀ c ∈ blanks, isBlank c = true)
    (hfirst : isBlank first = false) :
    English.article word = if first ∈ vowels then "an" else "a" := by
  have hdrop : word.toList.dropWhile isBlank = first :: behind := by
    rw [hword, List.dropWhile_append_of_pos hblanks,
      List.dropWhile_cons_of_neg (Bool.not_eq_true _ ▸ hfirst)]
  simp only [English.article, hdrop, isVowel_toLower_iff]

theorem article_of_takesAn {word : String} (h : TakesAn word) : English.article word = "an" := by
  obtain ⟨blanks, first, behind, hword, hblanks, hfirst, hvowel⟩ := h
  rw [article_of_first hword hblanks hfirst, if_pos hvowel]

theorem article_of_not_takesAn {word : String} (h : ¬TakesAn word) :
    English.article word = "a" := by
  cases hdrop : word.toList.dropWhile isBlank with
  | nil => rw [English.article, hdrop]
  | cons first behind =>
    have hword := List.takeWhile_append_dropWhile (p := isBlank) (l := word.toList)
    rw [hdrop] at hword
    have hblanks : ∀ c ∈ word.toList.takeWhile isBlank, isBlank c = true :=
      fun c hmem => List.mem_takeWhile_imp hmem
    have hfirst : isBlank first = false := by
      simpa [hdrop] using List.head?_dropWhile_not isBlank word.toList
    rw [article_of_first hword.symm hblanks hfirst,
      if_neg fun hvowel => h ⟨_, first, behind, hword.symm, hblanks, hfirst, hvowel⟩]

/-! ## Looking ahead -/

/-- A value is that of the first slot among some segments whose value shows. Slots without a value
and slots whose value is blank are passed over. -/
def FirstShown (slots : Slots) (segments : List Segment) (value : String) : Prop :=
  ∃ passed name behind, segments = passed ++ .slot name :: behind ∧
    slots.lookup name = some value ∧ isBlankText value = false ∧
    ∀ other ∈ slotNames passed, ∀ hidden, slots.lookup other = some hidden →
      isBlankText hidden = true

theorem mem_slotNames_cons {name : String} {segment : Segment} {behind : List Segment} :
    name ∈ slotNames (segment :: behind) ↔ segment = .slot name ∨ name ∈ slotNames behind := by
  cases segment with
  | literal text => simp [slotNames]
  | slot first => simp [slotNames, eq_comm]

/-- The names of the slots are cut in two where the segments are. -/
theorem slotNames_eq_append_cons_iff {segments : List Segment} {passed behind : List String}
    {name : String} :
    slotNames segments = passed ++ name :: behind ↔
      ∃ before after, segments = before ++ .slot name :: after ∧ slotNames before = passed ∧
        slotNames after = behind := by
  constructor
  · intro h
    obtain ⟨before, others, rfl, hbefore, hothers⟩ := List.filterMap_eq_append_iff.1 h
    obtain ⟨literals, segment, after, rfl, hliterals, hsegment, hafter⟩ :=
      List.filterMap_eq_cons_iff.1 hothers
    cases segment with
    | literal text => cases hsegment
    | slot other =>
      cases hsegment
      refine ⟨before ++ literals, after, (List.append_assoc ..).symm, ?_, hafter⟩
      rw [slotNames, List.filterMap_append, hbefore, List.filterMap_eq_nil_iff.2 hliterals,
        List.append_nil]
  · rintro ⟨before, after, rfl, rfl, rfl⟩
    exact List.filterMap_append

theorem nextValue_eq_some_iff {slots : Slots} {segments : List Segment} {value : String} :
    nextValue slots segments = some value ↔ FirstShown slots segments value := by
  rw [nextValue, List.findSome?_eq_some_iff]
  constructor
  · rintro ⟨names, name, others, hnames, hvalue, hpassed⟩
    obtain ⟨passed, behind, hsegments, rfl, -⟩ := slotNames_eq_append_cons_iff.1 hnames
    obtain ⟨hlookup, hshown⟩ := Option.filter_eq_some_iff.1 hvalue
    refine ⟨passed, name, behind, hsegments, hlookup, by simpa using hshown, ?_⟩
    intro other hother hidden hhidden
    simpa [hhidden, Option.filter] using hpassed other hother
  · rintro ⟨passed, name, behind, rfl, hlookup, hshown, hpassed⟩
    refine ⟨slotNames passed, name, slotNames behind,
      slotNames_eq_append_cons_iff.2 ⟨_, _, rfl, rfl, rfl⟩, ?_, fun other hother => ?_⟩
    · simp [hlookup, hshown, Option.filter]
    · exact Option.filter_eq_none_iff.2 fun hidden hhidden => by
        simpa using hpassed other hother hidden hhidden

/-! ## Segments -/

/-- A slot that needs a value and has none. -/
def Lacking (slots : Slots) (name : String) : Prop :=
  slots.lookup name = none ∧ name ≠ "article"

/-- What a segment with some segments behind it becomes. -/
inductive Becomes (slots : Slots) (behind : List Segment) : Segment → String → Prop where
  | literal (text : String) : Becomes slots behind (.literal text) text
  | value {name value : String} :
      slots.lookup name = some value → Becomes slots behind (.slot name) value
  | an {value : String} :
      slots.lookup "article" = none → FirstShown slots behind value → TakesAn value →
      Becomes slots behind (.slot "article") "an"
  | a :
      slots.lookup "article" = none → (∀ value, FirstShown slots behind value → ¬TakesAn value) →
      Becomes slots behind (.slot "article") "a"

/-- What the segments of a template become, in order. -/
inductive Filled (slots : Slots) : List Segment → List String → Prop where
  | nil : Filled slots [] []
  | cons {segment : Segment} {text : String} {behind : List Segment} {texts : List String} :
      Becomes slots behind segment text → Filled slots behind texts →
      Filled slots (segment :: behind) (text :: texts)

section Segments

variable {category : String} {slots : Slots} {behind : List Segment}

/-- An article without a value goes by the first value that shows, and is `a` if none does. -/
theorem fill_article (h : slots.lookup "article" = none) :
    fill category slots (.slot "article" :: behind) = (fill category slots behind).map
      (English.article ((nextValue slots behind).getD "") ++ ·) := by
  rw [fill, h]
  rfl

/-- What a segment becomes stands in front of what is made of those behind it. -/
theorem Becomes.fill_cons {segment : Segment} {text : String}
    (h : Becomes slots behind segment text) :
    fill category slots (segment :: behind) = (fill category slots behind).map (text ++ ·) := by
  cases h with
  | literal text => rfl
  | value hlookup => rw [fill, hlookup]; rfl
  | an hlookup hshown hvowel =>
    rw [fill_article hlookup, nextValue_eq_some_iff.2 hshown, Option.getD_some,
      article_of_takesAn hvowel]
  | a hlookup hconsonant =>
    rw [fill_article hlookup]
    cases hnext : nextValue slots behind with
    | none => rfl
    | some value =>
      have hshown := nextValue_eq_some_iff.1 hnext
      rw [Option.getD_some, article_of_not_takesAn (hconsonant value hshown)]

theorem Lacking.fill_cons {name : String} (h : Lacking slots name) :
    fill category slots (.slot name :: behind) = .error (.missingSlot category name) := by
  rw [fill, h.1]
  exact if_neg h.2

/-- A segment becomes something, or it is a slot that lacks a value. -/
theorem exists_becomes_or_lacking (slots : Slots) (segment : Segment) (behind : List Segment) :
    (∃ text, Becomes slots behind segment text) ∨
      ∃ name, segment = .slot name ∧ Lacking slots name := by
  cases segment with
  | literal text => exact .inl ⟨text, .literal text⟩
  | slot name =>
    cases hlookup : slots.lookup name with
    | some value => exact .inl ⟨value, .value hlookup⟩
    | none =>
      by_cases hname : name = "article"
      · subst hname
        by_cases h : ∃ value, FirstShown slots behind value ∧ TakesAn value
        · obtain ⟨value, hshown, hvowel⟩ := h
          exact .inl ⟨"an", .an hlookup hshown hvowel⟩
        · exact .inl ⟨"a", .a hlookup fun value hshown hvowel => h ⟨value, hshown, hvowel⟩⟩
      · exact .inr ⟨name, rfl, hlookup, hname⟩

/-- A slot that lacks a value becomes nothing. -/
theorem Lacking.not_becomes {name text : String} (h : Lacking slots name) :
    ¬Becomes slots behind (.slot name) text := by
  intro hbecomes
  cases hbecomes with
  | value hlookup => simp [h.1] at hlookup
  | an => exact h.2 rfl
  | a => exact h.2 rfl

end Segments

/-! ## Templates -/

section Templates

variable {category : String} {slots : Slots} {segments : List Segment}

theorem Filled.fill_eq {texts : List String} (h : Filled slots segments texts) :
    fill category slots segments = .ok (String.join texts) := by
  induction h with
  | nil => rfl
  | cons hbecomes _ ih => rw [hbecomes.fill_cons, ih, String.join_cons]; rfl

theorem Filled.not_lacking {texts : List String} (h : Filled slots segments texts) {name : String}
    (hmem : name ∈ slotNames segments) : ¬Lacking slots name := by
  induction h with
  | nil => cases hmem
  | cons hbecomes _ ih =>
    rcases mem_slotNames_cons.1 hmem with rfl | hmem
    · exact fun hlacking => hlacking.not_becomes hbecomes
    · exact ih hmem

/-- The first slot of a template that lacks a value. -/
def FirstLacking (slots : Slots) (segments : List Segment) (name : String) : Prop :=
  ∃ passed behind, segments = passed ++ .slot name :: behind ∧ Lacking slots name ∧
    ∀ other ∈ slotNames passed, ¬Lacking slots other

theorem FirstLacking.fill_eq {name : String} (h : FirstLacking slots segments name) :
    fill category slots segments = .error (.missingSlot category name) := by
  obtain ⟨passed, behind, rfl, hlacking, hpassed⟩ := h
  induction passed with
  | nil => exact hlacking.fill_cons
  | cons segment passed ih =>
    have hothers : ∀ other ∈ slotNames passed, ¬Lacking slots other :=
      fun other hmem => hpassed other (mem_slotNames_cons.2 (.inr hmem))
    rcases exists_becomes_or_lacking slots segment (passed ++ .slot name :: behind) with
      ⟨text, hbecomes⟩ | ⟨other, rfl, hother⟩
    · rw [List.cons_append, hbecomes.fill_cons, ih hothers]
      rfl
    · exact absurd hother (hpassed other (mem_slotNames_cons.2 (.inl rfl)))

theorem FirstLacking.mem_slotNames {name : String} (h : FirstLacking slots segments name) :
    name ∈ slotNames segments := by
  obtain ⟨passed, behind, rfl, -⟩ := h
  rw [slotNames_eq_append_cons_iff.2 ⟨passed, behind, rfl, rfl, rfl⟩]
  exact List.mem_append_right _ (.head _)

/-- Either all segments of a template become something, or one of its slots is the first that lacks
a value. -/
theorem exists_filled_or_firstLacking (slots : Slots) (segments : List Segment) :
    (∃ texts, Filled slots segments texts) ∨ ∃ name, FirstLacking slots segments name := by
  induction segments with
  | nil => exact .inl ⟨[], .nil⟩
  | cons segment behind ih =>
    rcases exists_becomes_or_lacking slots segment behind with
      ⟨text, hbecomes⟩ | ⟨name, rfl, hlacking⟩
    case inr => exact .inr ⟨name, [], behind, rfl, hlacking, fun _ h => absurd h List.not_mem_nil⟩
    case inl =>
      rcases ih with ⟨texts, hfilled⟩ | ⟨name, passed, others, rfl, hlacking, hpassed⟩
      · exact .inl ⟨text :: texts, .cons hbecomes hfilled⟩
      · refine .inr ⟨name, segment :: passed, others, rfl, hlacking, fun other hmem => ?_⟩
        rcases mem_slotNames_cons.1 hmem with rfl | hmem
        · exact fun hother => hother.not_becomes hbecomes
        · exact hpassed other hmem

theorem fill_eq_ok_iff {out : String} :
    fill category slots segments = .ok out ↔
      ∃ texts, Filled slots segments texts ∧ out = String.join texts := by
  constructor
  · intro h
    rcases exists_filled_or_firstLacking slots segments with ⟨texts, hfilled⟩ | ⟨name, hname⟩
    · rw [hfilled.fill_eq] at h
      exact ⟨texts, hfilled, (Except.ok.inj h).symm⟩
    · rw [hname.fill_eq] at h
      cases h
  · rintro ⟨texts, hfilled, rfl⟩
    exact hfilled.fill_eq

theorem fill_eq_error_iff {error : TemplateError} :
    fill category slots segments = .error error ↔
      ∃ name, FirstLacking slots segments name ∧ error = .missingSlot category name := by
  constructor
  · intro h
    rcases exists_filled_or_firstLacking slots segments with ⟨texts, hfilled⟩ | ⟨name, hname⟩
    · rw [hfilled.fill_eq] at h
      cases h
    · rw [hname.fill_eq] at h
      exact ⟨name, hname, (Except.error.inj h).symm⟩
  · rintro ⟨name, hname, rfl⟩
    exact hname.fill_eq

theorem nextValue_congr {others : Slots}
    (h : ∀ name ∈ slotNames segments, others.lookup name = slots.lookup name) :
    nextValue others segments = nextValue slots segments := by
  rw [nextValue, nextValue, ← List.head?_filterMap, ← List.head?_filterMap]
  exact congrArg List.head? (List.filterMap_congr fun name hname => by rw [h name hname])

/-- Only the slots of a template count. -/
theorem fill_congr {others : Slots}
    (h : ∀ name ∈ slotNames segments, others.lookup name = slots.lookup name) :
    fill category others segments = fill category slots segments := by
  induction segments with
  | nil => rfl
  | cons segment behind ih =>
    have hbehind := fun other hmem => h other (mem_slotNames_cons.2 (.inr hmem))
    cases segment with
    | literal text => rw [fill, fill, ih hbehind]
    | slot name =>
      rw [fill, fill, h name (mem_slotNames_cons.2 (.inl rfl)), ih hbehind, nextValue_congr hbehind]

end Templates

/-- A template can be filled exactly if all its slots but articles have values. Otherwise the first
slot without one is reported. What it is filled with are its literals and the values as they are,
one behind the other, where an article without a value becomes the one that goes with the first
value behind it that shows. Values of slots that the template does not have do not count. -/
theorem fill_of_slots (category : String) (slots : Slots) (segments : List Segment) :
    ((∃ out, fill category slots segments = .ok out) ↔
      ∀ name ∈ slotNames segments, name ≠ "article" → ∃ value, slots.lookup name = some value) ∧
    (∀ error, fill category slots segments = .error error ↔
      ∃ name, FirstLacking slots segments name ∧ error = .missingSlot category name) ∧
    (∀ out, fill category slots segments = .ok out ↔
      ∃ texts, Filled slots segments texts ∧ out = String.join texts) ∧
    ∀ others : Slots, (∀ name ∈ slotNames segments, others.lookup name = slots.lookup name) →
      fill category others segments = fill category slots segments := by
  refine ⟨⟨?_, fun hvalues => ?_⟩, fun error => fill_eq_error_iff, fun out => fill_eq_ok_iff,
    fun others => fill_congr⟩
  · rintro ⟨out, hout⟩ name hmem hname
    obtain ⟨texts, hfilled, -⟩ := fill_eq_ok_iff.1 hout
    exact Option.ne_none_iff_exists'.1 fun hlookup =>
      hfilled.not_lacking hmem ⟨hlookup, hname⟩
  · rcases exists_filled_or_firstLacking slots segments with ⟨texts, hfilled⟩ | ⟨name, hfirst⟩
    · exact ⟨_, hfilled.fill_eq⟩
    · have hmem := hfirst.mem_slotNames
      obtain ⟨-, -, -, ⟨hlookup, hname⟩, -⟩ := hfirst
      obtain ⟨value, hvalue⟩ := hvalues name hmem hname
      simp [hlookup] at hvalue

/-- Of two articles the first looks past a blank value and past the second one. A value in braces
stays in them, a value for no slot of the template changes nothing, and of two slots without values
the first is reported. -/
theorem fill_of_slots_sighting :
    let segments : List Segment := [.slot "article", .literal " ", .slot "size", .slot "article",
      .literal " ", .slot "animal", .literal " saw ", .slot "name"]
    let slots : Slots := [("animal", "Owl"), ("name", "\x7bowl\x7d"), ("size", " ")]
    let others : Slots := ("place", "a wood") :: slots
    (∀ name ∈ slotNames segments, others.lookup name = slots.lookup name) ∧
      fill "see" others segments = .ok "an  an Owl saw \x7bowl\x7d" ∧
      fill "see" [("size", " ")] segments = .error (.missingSlot "see" "animal") := by
  intro segments slots others
  have hsame : ∀ name ∈ slotNames segments, others.lookup name = slots.lookup name := by decide
  have hothers := (fill_of_slots "see" slots segments).2.2.2 others hsame
  have hfirst : FirstLacking [("size", " ")] segments "animal" :=
    ⟨[.slot "article", .literal " ", .slot "size", .slot "article", .literal " "],
      [.literal " saw ", .slot "name"], rfl, ⟨rfl, by decide⟩, by simp [slotNames, Lacking]⟩
  refine ⟨hsame, hothers.trans (by cbv), ?_⟩
  exact ((fill_of_slots "see" _ segments).2.1 _).2 ⟨"animal", hfirst, rfl⟩

end Storyweave.Template
