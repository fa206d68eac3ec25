import Storyweave.Proofs.Story.Operands
import Storyweave.Proofs.Story.Rendering

/-!
# Joining sentences

A text is joined to what stands in front of it: the end of the one is trimmed, and both ends of the
other, unless the other is blank. Results:
1. `joinSentence_assoc`: it does not matter in which order three texts are joined, whatever blanks
   they hold.
2. `prose_append`: so the prose of some texts is what the prose of the first ones and the prose of
   the others are joined to.
3. `render_collapse`: a story does not change if some of its fragments are replaced by their
   composition.
-/

namespace Storyweave.Story

open Storyweave.Text

/-! ## Joining -/

theorem joinChars_of_blank {next : List Char} (h : next.all isBlank = true) (buffer : List Char) :
    joinChars buffer next = buffer := if_pos h

theorem joinChars_of_visible {next : List Char} (h : next.all isBlank = false)
    (buffer : List Char) : joinChars buffer next =
      dropEnd isBlank buffer ++ separatorAfter (dropEnd isBlank buffer) ++ trimChars next := by
  rw [joinChars, if_neg (by simp [h])]

/-- What two texts that show anything are joined to, trimmed: both of them trimmed, with what
separates them. -/
theorem trimChars_joinChars {b c : List Char} (hb : b.all isBlank = false)
    (hc : c.all isBlank = false) : trimChars (joinChars b c) =
      trimChars b ++ separatorAfter (trimChars b) ++ trimChars c := by
  rw [joinChars_of_visible hc, dropEnd_eq_append hb,
    separatorAfter_append _ (trimChars_ne_nil hb), List.append_assoc, List.append_assoc, trimChars,
    List.dropWhile_append_of_pos fun x hx => List.mem_takeWhile_imp hx, ← trimChars,
    ← List.append_assoc, trimChars_between hb hc]

theorem joinChars_assoc (a b c : List Char) :
    joinChars (joinChars a b) c = joinChars a (joinChars b c) := by
  cases hc : c.all isBlank with
  | true => rw [joinChars_of_blank hc, joinChars_of_blank hc]
  | false =>
    have hshows : (joinChars b c).all isBlank = false := by
      rw [joinChars_of_visible hc]
      exact all_isBlank_append_trimChars _ hc
    cases hb : b.all isBlank with
    | true =>
      have hjoin : joinChars b c = trimChars c := by
        rw [joinChars_of_visible hc, dropEnd_of_all hb]
        rfl
      rw [joinChars_of_blank hb, joinChars_of_visible hc, joinChars_of_visible hshows, hjoin,
        trimChars_trimChars]
    | false =>
      have hleft : dropEnd isBlank (joinChars a b) = joinChars a b := by
        rw [joinChars_of_visible hb]
        exact dropEnd_append_of_last _ (exists_getLast?_trimChars hb)
      calc joinChars (joinChars a b) c
          = joinChars a b ++ separatorAfter (joinChars a b) ++ trimChars c := by
            rw [joinChars_of_visible hc, hleft]
        _ = dropEnd isBlank a ++ separatorAfter (dropEnd isBlank a) ++
              (trimChars b ++ separatorAfter (trimChars b) ++ trimChars c) := by
            rw [joinChars_of_visible hb, separatorAfter_append _ (trimChars_ne_nil hb)]
            simp only [List.append_assoc]
        _ = joinChars a (joinChars b c) := by
            rw [joinChars_of_visible hshows, trimChars_joinChars hb hc]

theorem joinSentence_assoc (a b c : String) :
    joinSentence (joinSentence a b) c = joinSentence a (joinSentence b c) := by
  simp only [joinSentence, String.toList_ofList, joinChars_assoc]

instance : Std.Associative joinSentence := ⟨joinSentence_assoc⟩

theorem joinSentence_empty (buffer : String) : joinSentence buffer "" = buffer :=
  String.ofList_toList

/-! ## Prose -/

theorem prose_append (texts others : List String) :
    prose (texts ++ others) = joinSentence (prose texts) (prose others) := by
  calc prose (texts ++ others)
      = others.foldl joinSentence (prose texts) := by
        rw [← foldl_joinSentence, List.foldl_append, foldl_joinSentence]
    _ = others.foldl joinSentence (joinSentence (prose texts) "") := by rw [joinSentence_empty]
    _ = joinSentence (prose texts) (prose others) := by
        rw [List.foldl_assoc, foldl_joinSentence]

/-- Prose is prose of its own. -/
theorem prose_prose (texts : List String) : prose [prose texts] = prose texts := by
  have hjoin : prose [prose texts] = joinSentence (prose []) (prose texts) :=
    (foldl_joinSentence [prose texts]).symm
  rw [hjoin, ← prose_append, List.nil_append]

/-- Blank fragments do not show in prose. -/
theorem sentencesOf_shown (fragments : List Fragment) :
    sentencesOf ((shown fragments).map Fragment.text) =
      sentencesOf (fragments.map Fragment.text) := by
  induction fragments with
  | nil => rfl
  | cons f fragments ih =>
    rw [List.map_cons, sentencesOf_cons, shown, List.filter_cons, ← shown, Fragment.isBlank]
    cases hblank : isBlankText f.text with
    | true => simp [ih]
    | false => simp [sentencesOf_cons, hblank, ih]

/-- The text of a composition is the prose of its fragments. -/
theorem text_join (fragments : List Fragment) :
    (Composition.join fragments []).text = prose (fragments.map Fragment.text) := by
  rw [Composition.text, Composition.parts_join, List.append_nil, prose, sentencesOf_shown, prose]

/-! ## Stories -/

theorem textsAbove_append (threshold : Float) (fragments others : List Fragment) :
    textsAbove threshold (fragments ++ others) =
      textsAbove threshold fragments ++ textsAbove threshold others := by
  simp only [textsAbove, List.filter_append, List.map_append]

theorem textsAbove_of_heavy {threshold : Float} {fragments : List Fragment}
    (h : ∀ f ∈ fragments, ¬f.weight < threshold) :
    textsAbove threshold fragments = fragments.map Fragment.text := by
  rw [textsAbove, List.filter_eq_self.2 fun f hf => by simp [h f hf]]

theorem render_eq (fragments : List Fragment) (threshold : Float) :
    render fragments threshold =
      String.ofList (polish (prose (textsAbove threshold fragments)).toList) := by
  rw [render, prose, String.toList_ofList]

/-- Texts may be joined in any order. So a story does not change if some of its fragments are
replaced by their composition, unless one of them, or their composition, is too light for it. -/
theorem render_collapse :
    (∀ a b c : String,
      joinSentence (joinSentence a b) c = joinSentence a (joinSentence b c)) ∧
    ∀ (before run behind : List Fragment) (threshold : Float),
      (∀ f ∈ run, ¬f.weight < threshold) →
      ¬(Composition.join run []).toFragment.weight < threshold →
      render (before ++ run ++ behind) threshold =
        render (before ++ [(Composition.join run []).toFragment] ++ behind) threshold := by
  refine ⟨joinSentence_assoc, fun before run behind threshold hrun hwhole => ?_⟩
  have hparts : textsAbove threshold run = run.map Fragment.text := textsAbove_of_heavy hrun
  have hone : textsAbove threshold [(Composition.join run []).toFragment] =
      [prose (run.map Fragment.text)] := by
    rw [textsAbove_of_heavy (by simpa using hwhole), ← text_join]
    rfl
  simp only [render_eq, textsAbove_append, prose_append, hparts, hone, prose_prose]

/-- Two fragments with a blank one between them, and a light fragment in front of them. -/
theorem render_collapse_run :
    let before : List Fragment := [⟨"  once", 1, "Start"⟩, ⟨"it rained", 0.25, "Rain"⟩]
    let run : List Fragment := [⟨" tim ran ,", 0.5, "Run"⟩, ⟨" ", 1, ""⟩, ⟨"he fell!  ", 1, "Fall"⟩]
    let behind : List Fragment := [⟨"the end", 1, "End"⟩]
    (∀ f ∈ run, ¬f.weight < 0.3) ∧ ¬(Composition.join run []).toFragment.weight < 0.3 ∧
      render (before ++ run ++ behind) 0.3 =
        render (before ++ [(Composition.join run []).toFragment] ++ behind) 0.3 ∧
      render (before ++ run ++ behind) 0.3 = "Once. Tim ran. He fell! The end." := by
  intro before run behind
  have hrun : ∀ f ∈ run, ¬f.weight < 0.3 := by decide
  have hwhole : ¬(Composition.join run []).toFragment.weight < 0.3 := by
    decide +kernel +zetaReduce
  exact ⟨hrun, hwhole, render_collapse.2 before run behind 0.3 hrun hwhole,
    by decide +kernel +zetaReduce⟩

end Storyweave.Story
