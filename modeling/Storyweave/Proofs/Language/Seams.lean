import Storyweave.Proofs.Language.Lines

/-!
# Blanks and comments between lexemes

A source means the same with more blanks and comments than it has. Results:
1. `exists_seamAt`: every place in a source without faults lies between two lexemes, under some
   layout, or inside of one.
2. `lexed_insert`: a filler that a place admits changes no token of the source.
3. `tokens_insert`: nor does it change the program.
-/

namespace Storyweave.Language

open Storyweave.Text

/-! ## Places in a source -/

/-- Where a place in a source lies. -/
inductive Seam where
  /-- Between two lexemes, where the lexemes before it leave a layout. -/
  | between (layout : Layout)
  /-- Inside a lexeme. -/
  | inside (lexeme : Lexeme)

/-- Where the place between two parts of a source lies, if no fault is found before it. -/
def seamAt (layout : Layout) (before behind : List Char) : Option Seam :=
  match before with
  | [] => some (.between layout)
  | c :: cs =>
    match cut c (cs ++ behind) with
    | .error _ => none
    | .ok first =>
      if first.spelling.length ≤ cs.length + 1 then
        seamAt (layout.read first.lexeme).2 ((c :: cs).drop first.spelling.length) behind
      else some (.inside first.lexeme)
termination_by before.length
decreasing_by
  have := List.length_pos_iff.2 first.nonempty
  simp only [List.length_drop, List.length_cons]
  omega

/-- Whether a lexeme is a word, a number or a text. -/
def Lexeme.isSolid : Lexeme → Bool
  | .word _ | .number _ | .text _ => true
  | _ => false

/-- What may be inserted at a place: a blank that is no line feed anywhere but inside a word, a number
or a text; between lexemes inside of brackets also a line feed, or a comment on a line of its own. -/
inductive Seam.Admits : Seam → List Char → Prop where
  | blank {seam : Seam} {c : Char} :
      (∀ lexeme, seam = .inside lexeme → lexeme.isSolid = false) → isBlank c = true → c ≠ '\n' →
      Admits seam [c]
  | lineFeed {layout : Layout} : 0 < layout.depth → Admits (.between layout) ['\n']
  | comment {layout : Layout} {text : List Char} : 0 < layout.depth → '\n' ∉ text →
      Admits (.between layout) ('#' :: text ++ ['\n'])

/-! ## Lexemes without a token -/

variable {layout : Layout} {filler before behind : List Char} {seam : Seam} {ts : List Token}

theorem lexed_blank {c : Char} (h : isBlank c = true) (hline : c ≠ '\n') (layout : Layout)
    (cs : List Char) : lexed layout (c :: cs) = lexed layout cs := by
  have hcut : ∃ first, cut c cs = .ok first ∧ first.lexeme = .blank ∧ first.rest = cs := by
    unfold cut
    rw [if_neg hline, if_pos h]
    exact ⟨_, rfl, rfl, rfl⟩
  rw [lexed_of_cut hcut]
  exact Option.map_id'

/-- Inside of brackets a line feed is no token. -/
theorem lexed_lineFeed_of_depth (h : 0 < layout.depth) (cs : List Char) :
    lexed layout ('\n' :: cs) = lexed layout cs := by
  have hread : layout.read .lineFeed = (none, layout) :=
    if_neg fun hfresh => absurd hfresh.1 (Nat.ne_of_gt h)
  rw [lexed_of_cut ⟨_, rfl, rfl, rfl⟩, hread]
  exact Option.map_id'

/-- A comment ends with its line. -/
theorem lexed_comment (layout : Layout) (cs : List Char) :
    lexed layout ('#' :: cs) = lexed layout (cs.dropWhile (· != '\n')) := by
  rw [lexed_of_cut ⟨_, rfl, rfl, rfl⟩]
  exact Option.map_id'

theorem dropWhile_line_append {text : List Char} (h : '\n' ∉ text) (cs : List Char) :
    (text ++ cs).dropWhile (· != '\n') = cs.dropWhile (· != '\n') := by
  refine List.dropWhile_append_of_pos fun c hc => ?_
  rw [bne_iff_ne]
  rintro rfl
  exact h hc

/-- Between lexemes a filler holds no token. -/
theorem lexed_filler (h : (Seam.between layout).Admits filler) (cs : List Char) :
    lexed layout (filler ++ cs) = lexed layout cs := by
  cases h with
  | blank _ hblank hline => exact lexed_blank hblank hline layout cs
  | lineFeed hdepth => exact lexed_lineFeed_of_depth hdepth cs
  | comment hdepth htext =>
    rw [List.cons_append, List.cons_append, lexed_comment, List.append_assoc,
      dropWhile_line_append htext]
    exact lexed_lineFeed_of_depth hdepth cs

/-- At the end of a comment a filler belongs to it, up to its line feed. -/
theorem lexed_filler_of_comment (h : (Seam.between layout).Admits filler) {cs : List Char}
    (hcs : cs.dropWhile (· != '\n') = cs) :
    lexed layout ((filler ++ cs).dropWhile (· != '\n')) = lexed layout cs := by
  cases h with
  | blank _ _ hline =>
    rw [List.singleton_append, List.dropWhile_cons_of_pos (by simpa using hline), hcs]
  | lineFeed hdepth => exact lexed_lineFeed_of_depth hdepth cs
  | comment hdepth htext =>
    rw [List.cons_append, List.cons_append, List.append_assoc,
      List.dropWhile_cons_of_pos (by decide), dropWhile_line_append htext]
    exact lexed_lineFeed_of_depth hdepth cs

/-- A filler continues neither a name nor a number. -/
theorem Seam.Admits.delimited (h : seam.Admits filler) (cs : List Char) :
    Delimited (filler ++ cs) := by
  cases h with
  | blank _ hblank _ =>
    rintro c ⟨⟩
    refine ⟨continuesName_eq_false_of_isBlank hblank, ?_⟩
    rintro rfl
    exact absurd hblank (by decide)
  | lineFeed _ =>
    rintro c ⟨⟩
    decide
  | comment _ _ =>
    rintro c ⟨⟩
    decide

/-- No lexeme begins with a point. -/
theorem head_ne_point_of_lexed {cs : List Char} (h : lexed layout cs = some ts) :
    ∀ c ∈ cs.head?, c ≠ '.' := by
  rintro c hc rfl
  obtain ⟨more, rfl⟩ := List.head?_eq_some_iff.1 hc
  have hcut : cut '.' more = .error .unexpectedCharacter := rfl
  rw [lexed, hcut] at h
  cases h

/-- A lexeme of several characters is a word, a number, a text or a comment. -/
theorem spelling_of_cut {c : Char} {cs : List Char} {first : Cut (c :: cs)}
    (h : cut c cs = .ok first) (hsolid : first.lexeme.isSolid = false) (hcomment : c ≠ '#') :
    first.spelling = [c] := by
  unfold cut at h
  split at h
  · cases h; rfl
  split at h
  · cases h; rfl
  split at h
  · cases h; rfl
  split at h
  · cases h; cases hsolid
  split at h
  · cases h; cases hsolid
  split at h
  · split at h
    · cases h
    · cases h; cases hsolid
  · cases h

/-- A lexeme that ends before a place leaves a part of the source up to it. -/
theorem Cut.exists_more {c : Char} {cs : List Char} (first : Cut (c :: (cs ++ behind)))
    (h : first.spelling.length ≤ cs.length + 1) :
    ∃ w more, first.spelling = c :: w ∧ cs = w ++ more ∧ first.rest = more ++ behind ∧
      (c :: cs).drop first.spelling.length = more := by
  obtain ⟨w, rest, hspelling, hrest, hcs⟩ := first.exists_append
  rw [hspelling, List.length_cons, Nat.add_le_add_iff_right] at h
  obtain ⟨more, hmore⟩ : w <+: cs :=
    List.prefix_of_prefix_length_le ⟨rest, hcs.symm⟩ ⟨behind, rfl⟩ h
  refine ⟨w, more, hspelling, hmore.symm, ?_, ?_⟩
  · rw [hrest]
    simpa [← hmore] using hcs.symm
  · simp [hspelling, ← hmore]

/-- Every place in a source without faults is found. -/
theorem exists_seamAt (h : lexed layout (before ++ behind) = some ts) :
    ∃ seam, seamAt layout before behind = some seam := by
  fun_induction seamAt layout before behind generalizing ts with
  | case1 layout => exact ⟨_, rfl⟩
  | case2 layout c cs fault hcut =>
    rw [List.cons_append, lexed, hcut] at h
    cases h
  | case3 layout c cs first hcut hshort ih =>
    obtain ⟨w, more, -, -, hrest, hdrop⟩ := first.exists_more hshort
    rw [List.cons_append, lexed_of_cut ⟨first, hcut, rfl, hrest⟩] at h
    obtain ⟨ts', hts', -⟩ := Option.map_eq_some_iff.1 h
    rw [hdrop] at ih ⊢
    exact ih hts'
  | case4 => exact ⟨_, rfl⟩

/-! ## Fillers -/

/-- What stands inside of a comment may be longer by a blank. -/
theorem lexed_insert_inside {c : Char} {cs : List Char} {first : Cut (c :: (cs ++ behind))}
    (hcut : cut c (cs ++ behind) = .ok first) (hlong : ¬first.spelling.length ≤ cs.length + 1)
    (hfiller : (Seam.inside first.lexeme).Admits filler) :
    lexed layout (c :: (cs ++ (filler ++ behind))) = lexed layout (c :: (cs ++ behind)) := by
  cases hfiller with
  | @blank _ b hsolid _ hline =>
    have hcomment : c = '#' := by
      by_contra hcomment
      rw [spelling_of_cut hcut (hsolid _ rfl) hcomment] at hlong
      exact hlong (Nat.le_add_left 1 _)
    subst hcomment
    cases hcut
    have hopen : '\n' ∉ cs := by
      intro hmem
      obtain ⟨line, more, rfl⟩ := List.append_of_mem hmem
      refine hlong (Nat.succ_le_succ ?_)
      rw [List.append_assoc, List.cons_append, (takeWhile_dropWhile_line rfl _ _).1]
      exact (List.takeWhile_sublist _).length_le.trans (by simp)
    rw [lexed_comment, lexed_comment, dropWhile_line_append hopen, dropWhile_line_append hopen,
      List.singleton_append, List.dropWhile_cons_of_pos (by simpa using hline)]

/-- Behind a lexeme that is no comment a filler, or a lexeme, is read as before. -/
theorem lexed_insert_behind {c : Char} {cs w more : List Char} {first : Cut (c :: cs)}
    (hcut : cut c cs = .ok first) (hspelling : first.spelling = c :: w)
    (hcs : cs = w ++ (more ++ behind)) (hcomment : c ≠ '#') (hfiller : seam.Admits filler)
    (hmore : lexed (layout.read first.lexeme).2 (more ++ behind) = some ts) :
    lexed layout (c :: (w ++ (more ++ (filler ++ behind)))) =
      (lexed (layout.read first.lexeme).2 (more ++ (filler ++ behind))).map
        ((layout.read first.lexeme).1.toList ++ ·) := by
  subst hcs
  refine lexed_of_cut (cut_append hcut hspelling hcomment ?_ fun _ => ?_) layout
  · intro d hd hcontinues
    cases more with
    | nil => rw [(hfiller.delimited behind d hd).1] at hcontinues; cases hcontinues
    | cons => exact hd
  · refine fractionLength_eq_zero fun d hd => ?_
    cases more with
    | nil => exact (hfiller.delimited behind d hd).2
    | cons => exact head_ne_point_of_lexed hmore d hd

/-- Behind a comment a filler belongs to it, or the line feed is read as before. -/
theorem lexed_insert_behind_comment {more : List Char}
    (hline : (more ++ behind).dropWhile (· != '\n') = more ++ behind)
    (hfiller : more = [] → (Seam.between layout).Admits filler)
    (hmore : lexed layout (more ++ (filler ++ behind)) = lexed layout (more ++ behind)) :
    lexed layout ((more ++ (filler ++ behind)).dropWhile (· != '\n')) =
      lexed layout (more ++ behind) := by
  cases more with
  | nil => exact lexed_filler_of_comment (hfiller rfl) hline
  | cons d more =>
    have hd : d = '\n' := by
      by_contra hd
      rw [List.cons_append, List.dropWhile_cons_of_pos (by simpa using hd)] at hline
      have := (List.dropWhile_sublist (l := more ++ behind) (· != '\n')).length_le
      rw [hline] at this
      simp at this
    rw [List.cons_append, List.dropWhile_cons_of_neg (by simpa using hd)]
    exact hmore

/-- A filler that a place admits changes no token of the source. -/
theorem lexed_insert (hseam : seamAt layout before behind = some seam)
    (hfiller : seam.Admits filler) (h : lexed layout (before ++ behind) = some ts) :
    lexed layout (before ++ (filler ++ behind)) = some ts := by
  fun_induction seamAt layout before behind generalizing ts with
  | case1 layout =>
    obtain rfl := Option.some.inj hseam
    rw [List.nil_append, lexed_filler hfiller]
    exact h
  | case2 => cases hseam
  | case3 layout c cs first hcut hshort ih =>
    obtain ⟨w, more, hspelling, rfl, hrest, hdrop⟩ := first.exists_more hshort
    rw [hdrop] at ih hseam
    rw [List.cons_append, lexed_of_cut ⟨first, hcut, rfl, hrest⟩] at h
    obtain ⟨ts', hts', rfl⟩ := Option.map_eq_some_iff.1 h
    have hmore := ih hseam hts'
    by_cases hcomment : c = '#'
    · subst hcomment
      cases hcut
      have hw : '\n' ∉ w := by
        have htake := List.tail_eq_of_cons_eq hspelling
        rw [← htake]
        exact fun hmem => absurd (List.all_eq_true.1 List.all_takeWhile _ hmem) (by decide)
      have hline : (more ++ behind).dropWhile (· != '\n') = more ++ behind := by
        rw [← dropWhile_line_append hw, ← List.append_assoc]
        exact hrest
      have hend (hnil : more = []) : (Seam.between layout).Admits filler := by
        subst hnil
        rw [seamAt] at hseam
        exact Option.some.inj hseam ▸ hfiller
      rw [List.cons_append, List.append_assoc, lexed_comment, dropWhile_line_append hw,
        lexed_insert_behind_comment hline hend (hmore.trans hts'.symm)]
      exact hts'
    · rw [List.cons_append, List.append_assoc,
        lexed_insert_behind hcut hspelling (List.append_assoc ..) hcomment hfiller hts', hmore]
      rfl
  | case4 layout c cs first hcut hlong =>
    obtain rfl := Option.some.inj hseam
    exact (lexed_insert_inside hcut hlong hfiller).trans h

/-- A source means the same with a blank more at a place that is not inside a word, a number or a
text, and inside of brackets with a line feed or a comment more between two lexemes: it has the same
tokens up to their places, and the same program. -/
theorem tokens_insert {before behind : String} {stream : TokenStream}
    (h : tokens (before ++ behind) = .ok stream) :
    ∃ seam, seamAt .initial before.toList behind.toList = some seam ∧
      ∀ filler : String, seam.Admits filler.toList →
        (∃ stream', tokens (before ++ filler ++ behind) = .ok stream' ∧
          kinds stream'.tokens = kinds stream.tokens) ∧
        ∀ program, parse (before ++ filler ++ behind) = .ok program ↔
          parse (before ++ behind) = .ok program := by
  have hlexed := tokens_eq_ok_iff.2 ⟨stream, h, rfl⟩
  rw [String.toList_append] at hlexed
  obtain ⟨seam, hseam⟩ := exists_seamAt hlexed
  refine ⟨seam, hseam, fun filler hfiller => ?_⟩
  have hinsert := lexed_insert hseam hfiller hlexed
  rw [← List.append_assoc, ← String.toList_append, ← String.toList_append] at hinsert
  refine ⟨tokens_eq_ok_iff.1 hinsert, fun program => ?_⟩
  rw [parse_eq_ok_iff, parse_eq_ok_iff, hinsert, String.toList_append, hlexed]

set_option maxRecDepth 1000 in
/-- A comment on who is brave, between the brackets of a call. -/
theorem tokens_insert_comment :
    ∃ stream, tokens ("Brave(Tim" ++ ")") = .ok stream ∧
      seamAt .initial "Brave(Tim".toList ")".toList = some (.between ⟨1, false⟩) ∧
      ∀ program, parse "Brave(Tim# the boy\n)" = .ok program ↔
        parse "Brave(Tim)" = .ok program := by
  have hparse : parse ("Brave(Tim" ++ ")") = .ok [.call "Brave" [.name "Tim"] []] := by cbv
  have hplace : seamAt .initial "Brave(Tim".toList ")".toList = some (.between ⟨1, false⟩) := by
    cbv
  have hcomment : (Seam.between ⟨1, false⟩).Admits ('#' :: " the boy".toList ++ ['\n']) :=
    .comment (by decide) (by decide)
  obtain ⟨stream, hstream, -⟩ := bind_eq_ok_iff.1 hparse
  obtain ⟨seam, hseam, hall⟩ := tokens_insert hstream
  obtain rfl := Option.some.inj (hseam.symm.trans hplace)
  exact ⟨stream, hstream, hplace, (hall "# the boy\n" hcomment).2⟩

end Storyweave.Language
