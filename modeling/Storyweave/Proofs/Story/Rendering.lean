import Storyweave.Proofs.Story.Sentences

/-!
# Rendering

What a rendered story looks like and what is in it. A story is its fragments as prose, tidied,
closed and with capitals (`polish_eq`), so both results are read off the lemmas about these steps.
1. `render_normal_form`: a story is polished, rendering it again gives the same story, and it is
   empty only if no fragment shows anything.
2. `render_keeps_content`: the letters of a story are those of its fragments, in order, but for the
   capitals at the beginnings of sentences.
-/

namespace Storyweave.Story

open Storyweave.Text

/-- A finished story. Its blanks are single spaces between characters that show, none of them
before a mark, no two marks read as one, it ends with an end mark, and the first letter or digit
of every sentence is its own capital form. -/
structure Polished (story : List Char) : Prop extends Neat Beside story where
  ends : ∃ last ∈ story.getLast?, endsSentence last = true
  capital : ∀ before c behind, story = before ++ c :: behind → isAlphanumeric c = true →
    OpensSentence before → upperChar c = [c]

/-- What a story can neither lose nor gain: characters that are neither blanks nor marks. -/
def isContent (c : Char) : Bool := !isBlank c && !marks.contains c

/-- A text without its blanks and marks. -/
def content (cs : List Char) : List Char := cs.filter isContent

theorem isContent_iff {c : Char} : isContent c = true ↔ Plain c := by
  simp [isContent, Plain]

theorem isContent_eq_false_of_isBlank (c : Char) (h : isBlank c = true) : isContent c = false := by
  simp [isContent, h]

theorem isContent_eq_false_of_mem_marks (m : Char) (h : m ∈ marks) : isContent m = false := by
  simp [isContent, h]

/-! ## Polishing -/

theorem polish_eq {cs : List Char} (h : cs ≠ []) :
    polish cs = capitalizeSentences true (close (tidy cs)) := by
  rw [polish, if_neg (by simpa using h), close_capitalizeSentences]

theorem polished_polish {cs : List Char} (h : cs ≠ []) : Polished (polish cs) := by
  rw [polish_eq h]
  refine ⟨neat_capitalizeSentences (neat_close (neat_tidy cs)), ?_, ?_⟩
  · rw [← close_capitalizeSentences]
    exact exists_getLast?_close _
  · intro before c behind heq halpha hopens
    have hcapitals := capitals_capitalizeSentences true (close (tidy cs))
    rw [heq, capitals_append, (startAfter_true_iff before).2 hopens] at hcapitals
    exact hcapitals.2.1 rfl halpha

theorem polish_eq_self {cs : List Char} (h : Polished cs) (hcapitals : Capitals true cs) :
    polish cs = cs := by
  obtain ⟨last, hlast, -⟩ := h.ends
  have hne : cs ≠ [] := by rintro rfl; simp at hlast
  rw [polish_eq hne, tidy_eq_self h.toNeat, close_eq_self h.ends,
    capitalizeSentences_eq_self hcapitals]

example : polish "a wolf howled , . run!! and so,".toList =
    "A wolf howled. Run!! And so.".toList := by
  decide +kernel

/-! ## Prose -/

theorem sentencesOf_cons (text : String) (texts : List String) : sentencesOf (text :: texts) =
    if isBlankText text then sentencesOf texts
    else trimChars text.toList :: sentencesOf texts := by
  cases h : isBlankText text <;> simp_all [sentencesOf, isBlankText]

theorem proseOf_eq_nil_iff {sentences : List (List Char)} (h : ∀ s ∈ sentences, s ≠ []) :
    proseOf sentences = [] ↔ sentences = [] := by
  match sentences with
  | [] => simp [proseOf]
  | [s] => simpa [proseOf] using h s
  | s :: _ :: _ => simp [proseOf, h s]

theorem sentencesOf_eq_nil_iff (texts : List String) :
    sentencesOf texts = [] ↔ ∀ text ∈ texts, isBlankText text = true := by
  induction texts with
  | nil => simp [sentencesOf]
  | cons text texts ih =>
    rw [sentencesOf_cons]
    split <;> simp_all

theorem content_separatorAfter (s : List Char) : content (separatorAfter s) = [] := by
  unfold separatorAfter
  split
  case h_1 => rfl
  case h_2 => split <;> decide +kernel

/-- Between the sentences of prose there is no content. -/
theorem content_proseOf (sentences : List (List Char)) :
    content (proseOf sentences) = sentences.flatMap content := by
  have happend (xs ys : List Char) : content (xs ++ ys) = content xs ++ content ys :=
    List.filter_append ..
  match sentences with
  | [] => rfl
  | [s] => simp [proseOf]
  | s :: t :: rest =>
    rw [proseOf.eq_3 _ _ (List.cons_ne_nil t rest), happend, happend, content_separatorAfter,
      content_proseOf (t :: rest)]
    simp

theorem content_prose (texts : List String) :
    content (proseOf (sentencesOf texts)) = texts.flatMap fun text => content text.toList := by
  rw [content_proseOf]
  induction texts with
  | nil => rfl
  | cons text texts ih =>
    rw [sentencesOf_cons, List.flatMap_cons]
    split
    case isTrue hblank =>
      have hnone : content text.toList = [] := List.filter_eq_nil_iff.2 fun c hc => by
        simp [isContent_eq_false_of_isBlank c (List.all_eq_true.1 hblank c hc)]
      rw [hnone, ih, List.nil_append]
    case isFalse =>
      rw [List.flatMap_cons, ih, content, filter_trimChars isContent_eq_false_of_isBlank, content]

/-! ## Content under tidying and capitals -/

/-- Tidying and closing exchange blanks and marks only. -/
theorem content_close_tidy (cs : List Char) : content (close (tidy cs)) = content cs := by
  rw [content, filter_close isContent_eq_false_of_mem_marks,
    filter_tidy isContent_eq_false_of_isBlank isContent_eq_false_of_mem_marks, content]

theorem content_cased (c : Char) (start : Bool) :
    content (cased (c, start && isAlphanumeric c)) =
      if isContent c then cased (c, start && isAlphanumeric c) else [] := by
  unfold cased
  split
  case isTrue hraised =>
    have halpha := (Bool.and_eq_true_iff.1 hraised).2
    rw [if_pos (isContent_iff.2 (plain_of_isAlphanumeric halpha)), content,
      List.filter_eq_self]
    exact fun x hx => isContent_iff.2 (plain_of_mem_upperChar halpha hx)
  case isFalse => simp [content, List.filter_cons]

/-- Capitals neither make content of a blank or a mark nor the other way round. -/
theorem content_flatMap_cased (start : Bool) (cs : List Char) :
    content ((raises start cs).flatMap cased) =
      ((raises start cs).filter fun p => isContent p.1).flatMap cased := by
  induction cs generalizing start with
  | nil => rfl
  | cons c cs ih =>
    have hfirst := content_cased c start
    rw [raises, List.flatMap_cons, content, List.filter_append, ← content, ← content, ih, hfirst,
      List.filter_cons]
    split <;> rfl

/-- Saying which characters are raised does not change what the content of a text is. -/
theorem map_fst_filter_raises (start : Bool) (cs : List Char) :
    ((raises start cs).filter fun p => isContent p.1).map Prod.fst = content cs := by
  have hfilter := List.filter_map (f := Prod.fst) (p := isContent) (l := raises start cs)
  rw [map_fst_raises] at hfilter
  exact hfilter.symm

/-- A character gets a capital where a sentence begins. -/
theorem raised_iff {start : Bool} {cs : List Char} {before behind : List (Char × Bool)} {c : Char}
    {raised : Bool} (h : raises start cs = before ++ (c, raised) :: behind) :
    raised = (startAfter start (before.flatMap cased) && isAlphanumeric c) := by
  have hcs : cs = before.map Prod.fst ++ c :: behind.map Prod.fst := by
    rw [← map_fst_raises start cs, h]
    simp
  have hlength : (raises start (before.map Prod.fst)).length = before.length := by
    simpa using congrArg List.length (map_fst_raises start (before.map Prod.fst))
  rw [hcs, raises_append, raises] at h
  obtain ⟨hbefore, hrest⟩ := List.append_inj h hlength
  have hstart : startAfter start (before.flatMap cased) =
      startAfter start (before.map Prod.fst) := by
    rw [← startAfter_capitalizeSentences start (before.map Prod.fst),
      capitalizeSentences_eq_flatMap, hbefore]
  rw [hstart]
  exact (Prod.mk.inj (List.cons.inj hrest).1).2.symm

/-! ## Stories -/

theorem toList_render (fragments : List Fragment) (threshold : Float) :
    (render fragments threshold).toList =
      polish (proseOf (sentencesOf (textsAbove threshold fragments))) := by
  rw [render, String.toList_ofList]

theorem proseOf_textsAbove_eq_nil_iff (fragments : List Fragment) (threshold : Float) :
    proseOf (sentencesOf (textsAbove threshold fragments)) = [] ↔
      ¬∃ f ∈ fragments, ¬f.weight < threshold ∧ f.isBlank = false := by
  rw [proseOf_eq_nil_iff fun s => ne_nil_of_mem_sentencesOf, sentencesOf_eq_nil_iff]
  simp only [textsAbove, List.forall_mem_map, List.mem_filter, Fragment.isBlank]
  simp

/-- The story of one fragment that is heavy enough. -/
theorem toList_render_singleton (f : Fragment) {threshold : Float} (h : ¬f.weight < threshold) :
    (render [f] threshold).toList =
      polish (if f.isBlank then [] else trimChars f.text.toList) := by
  rw [toList_render, textsAbove, List.filter_singleton, Fragment.isBlank]
  simp only [h, decide_false, Bool.not_false, cond_true, List.map_cons, List.map_nil,
    sentencesOf_cons]
  split <;> rfl

/-- A story is polished if a fragment that shows anything is heavy enough, rendering it again as a
single fragment that is heavy enough gives the same story, and it is empty exactly if no fragment
that shows anything is heavy enough. -/
theorem render_normal_form (fragments : List Fragment) (threshold : Float) :
    let story := render fragments threshold
    let survives := ∃ f ∈ fragments, ¬f.weight < threshold ∧ f.isBlank = false
    (survives → Polished story.toList) ∧
      (∀ weight kernel again, ¬weight < again →
        render [⟨story, weight, kernel⟩] again = story) ∧
      (story = "" ↔ ¬survives) := by
  intro story survives
  have hlist : story.toList = _ := toList_render fragments threshold
  have hnil : _ ↔ ¬survives := proseOf_textsAbove_eq_nil_iff fragments threshold
  clear_value story survives
  by_cases hs : survives
  case neg =>
    have hempty : story = "" := by
      apply String.toList_injective
      rw [hlist, hnil.2 hs, polish, if_pos List.isEmpty_nil, String.toList_empty]
    refine ⟨fun h => absurd h hs, fun weight kernel again hheavy => ?_, by simp [hempty, hs]⟩
    have hblank : isBlankText story = true := hempty ▸ rfl
    apply String.toList_injective
    rw [toList_render_singleton ⟨story, weight, kernel⟩ hheavy, Fragment.isBlank, hblank,
      if_pos rfl, hempty]
    rfl
  case pos =>
    have hne : proseOf (sentencesOf (textsAbove threshold fragments)) ≠ [] := fun h => hnil.1 h hs
    have hpolished : Polished story.toList := hlist ▸ polished_polish hne
    have hcapitals : Capitals true story.toList := by
      rw [hlist, polish_eq hne]
      exact capitals_capitalizeSentences ..
    have hstory : story.toList ≠ [] := by
      obtain ⟨last, hlast, -⟩ := hpolished.ends
      intro h
      simp [h] at hlast
    refine ⟨fun _ => hpolished, fun weight kernel again hheavy => ?_, ?_⟩
    · have hshows : isBlankText story = false := hpolished.all_isBlank_eq_false hstory
      apply String.toList_injective
      rw [toList_render_singleton ⟨story, weight, kernel⟩ hheavy, Fragment.isBlank, hshows,
        if_neg Bool.false_ne_true, hpolished.trimChars_eq_self, polish_eq_self hpolished hcapitals]
    · exact ⟨fun h => absurd (congrArg String.toList h) hstory, fun h => absurd hs h⟩

/-- The content of a story is the content of its fragments that are heavy enough, in their order.
Only letters and digits are exchanged for their capital forms, namely the first one of every
sentence: each character of the `draft` says whether it is. -/
theorem render_keeps_content (fragments : List Fragment) (threshold : Float) :
    ∃ draft : List (Char × Bool),
      (render fragments threshold).toList = draft.flatMap cased ∧
      content (render fragments threshold).toList =
        (draft.filter fun p => isContent p.1).flatMap cased ∧
      (draft.filter fun p => isContent p.1).map Prod.fst =
        (fragments.filter fun f => !decide (f.weight < threshold)).flatMap
          (fun f => content f.text.toList) ∧
      ∀ before c raised behind, draft = before ++ (c, raised) :: behind →
        (raised = true ↔ isAlphanumeric c = true ∧ OpensSentence (before.flatMap cased)) := by
  have hlist := toList_render fragments threshold
  have hcontent : content (proseOf (sentencesOf (textsAbove threshold fragments))) =
      (fragments.filter fun f => !decide (f.weight < threshold)).flatMap
        (fun f => content f.text.toList) := by
    rw [content_prose, textsAbove, List.flatMap_map]
  generalize proseOf (sentencesOf (textsAbove threshold fragments)) = prose at hlist hcontent
  by_cases hprose : prose = []
  case pos =>
    subst hprose
    refine ⟨[], ?_, ?_, ?_, ?_⟩
    · rw [hlist]; rfl
    · rw [hlist]; rfl
    · exact hcontent
    · simp
  case neg =>
    rw [polish_eq hprose, capitalizeSentences_eq_flatMap] at hlist
    refine ⟨raises true (close (tidy prose)), hlist, ?_, ?_, ?_⟩
    · rw [hlist, content_flatMap_cased]
    · rw [map_fst_filter_raises, content_close_tidy, ← hcontent]
    · intro before c raised behind hsplit
      rw [raised_iff hsplit, Bool.and_eq_true, startAfter_true_iff, and_comm]

end Storyweave.Story
