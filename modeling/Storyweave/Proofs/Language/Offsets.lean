import Storyweave.Proofs.Language.Progress

/-!
# Offsets of lexemes

A source is a row of lexemes without gaps, and a token stands where its lexeme begins. Lexemes are
given here by their spelling alone: which characters each kind is written with, and which characters
behind it would continue it. Results:
1. `after_start`: the place behind some characters is told by the line feeds among them and by the
   characters behind the last of these.
2. `spelled_of_cut`: what is cut off a source is the spelling of a lexeme, and nothing behind it
   continues it.
3. `exists_row`: the tokens of a source are those of a row of lexemes, and each has the place of the
   offset where its lexeme begins.
4. `exists_offset_of_tokens_error`: a fault among the lexemes is reported inside the source.
5. `placeAt_of_tokens_and_errors`: so are the errors of programs and expressions, and both have the
   places of offsets.
-/

namespace Storyweave.Language

open Storyweave.Text

/-! ## Places of offsets -/

/-- The place of an offset in a source: a line further for every line feed before it, and a column
further for every character behind the last of these. -/
def placeAt (source : List Char) (offset : Nat) : Position :=
  let before := source.take offset
  ⟨1 + before.count '\n', 1 + (before.reverse.takeWhile (· != '\n')).length⟩

/-- The place behind some characters, whatever stands behind them. -/
theorem after_start (before rest : List Char) :
    Position.start.after before = placeAt (before ++ rest) before.length := by
  rw [placeAt, List.take_left]
  induction before using List.reverseRecOn with
  | nil => rfl
  | append_singleton before c ih =>
    rw [Position.after, List.foldl_concat, ← Position.after, ih, Position.next]
    by_cases hc : c = '\n'
    · simp [hc, Nat.add_assoc]
    · simp [hc, Nat.add_assoc]

theorem after_append (p : Position) (w rest : List Char) :
    p.after (w ++ rest) = (p.after w).after rest := List.foldl_append

/-! ## Spellings -/

/-- What stands between two quotes, and the text that it stands for. A backslash goes with the
character that it escapes, and every other character stands for itself. -/
inductive Quotes (mark : Char) : List Char → List Char → Prop where
  | done : Quotes mark [] []
  | plain {c : Char} {body value : List Char} : c ≠ mark → c ≠ '\n' → c ≠ '\\' →
      Quotes mark body value → Quotes mark (c :: body) (c :: value)
  | escape {e c : Char} {body value : List Char} : unescape? e = some c →
      Quotes mark body value → Quotes mark ('\\' :: e :: body) (c :: value)

/-- `Spelled lexeme spelling rest`: how a lexeme is spelled where `rest` stands behind it and does
not continue it. -/
inductive Spelled : Lexeme → List Char → List Char → Prop where
  | blank {c : Char} {rest : List Char} : isBlank c = true → c ≠ '\n' → Spelled .blank [c] rest
  | lineFeed {rest : List Char} : Spelled .lineFeed ['\n'] rest
  | comment {text rest : List Char} : '\n' ∉ text → (∀ c ∈ rest.head?, c = '\n') →
      Spelled .comment ('#' :: text) rest
  | symbol {c : Char} {mark : Symbol} {rest : List Char} : Symbol.ofChar? c = some mark →
      Spelled (.symbol mark) [c] rest
  | word {c : Char} {cs rest : List Char} : startsName c = true →
      (∀ d ∈ cs, continuesName d = true) → (∀ d ∈ rest.head?, continuesName d = false) →
      Spelled (.word (c :: cs)) (c :: cs) rest
  | number {negative : Bool} {whole fraction rest : List Char} : Number.Digits whole →
      Number.Fraction fraction → EndsNumber fraction rest →
      Spelled (.number (Number.sign negative ++ (whole ++ fraction)))
        (Number.sign negative ++ (whole ++ fraction)) rest
  | text {mark : Char} {body value rest : List Char} : mark = '"' ∨ mark = '\'' →
      Quotes mark body value → Spelled (.text value) (mark :: (body ++ [mark])) rest

variable {source before cs spelling rest : List Char} {lexeme : Lexeme}

theorem Spelled.ne_nil (h : Spelled lexeme spelling rest) : spelling ≠ [] := by
  cases h with
  | @number negative whole fraction _ hwhole => cases negative <;> simp [Number.sign, hwhole.1]
  | _ => exact List.cons_ne_nil _ _

/-- A quoted text goes up to the next quote that is not escaped. -/
theorem quotes_of_quoted {mark : Char} {q : Quoted cs} (h : quoted mark cs = .ok q) :
    ∃ body, q.spelling = body ++ [mark] ∧ Quotes mark body q.value := by
  fun_induction quoted mark cs with
  | case1 => cases h
  | case2 cs =>
    cases h
    exact ⟨[], rfl, .done⟩
  | case3 => cases h
  | case4 => cases h
  | case5 => cases h
  | case6 => cases h
  | case7 escape cs meant hmeant more hmore hmark hline ih =>
    cases h
    obtain ⟨body, hspelling, hbody⟩ := ih hmore
    exact ⟨'\\' :: escape :: body, congrArg ('\\' :: escape :: ·) hspelling, .escape hmeant hbody⟩
  | case8 => cases h
  | case9 c cs hmark hline hescape more hmore ih =>
    cases h
    obtain ⟨body, hspelling, hbody⟩ := ih hmore
    exact ⟨c :: body, congrArg (c :: ·) hspelling, .plain hmark hline hescape hbody⟩

/-- A numeral is spelled up to where no digit and no fraction follows. -/
theorem spelled_cutNumber {c : Char} (h : startsNumber c cs = true) :
    Spelled (cutNumber c cs).lexeme (cutNumber c cs).spelling (cutNumber c cs).rest := by
  obtain ⟨digits, fraction, hdigits, hfraction, hspelling, hlexeme, hends⟩ := exists_cutNumber c cs
  rw [hlexeme, hspelling]
  by_cases hc : c.isDigit = true
  · have hwhole : Number.Digits (c :: digits) :=
      ⟨List.cons_ne_nil _ _, List.forall_mem_cons.2 ⟨hc, hdigits⟩⟩
    exact @Spelled.number false _ _ _ hwhole hfraction hends
  · obtain ⟨rfl, hnext⟩ : c = '-' ∧ (cs.head?.map Char.isDigit).getD false = true := by
      simpa [startsNumber, hc] using h
    have hcs : digits ++ (fraction ++ (cutNumber '-' cs).rest) = cs := by
      have hwhole := (cutNumber '-' cs).whole
      rw [hspelling] at hwhole
      simpa using hwhole
    have hwhole : Number.Digits digits := by
      refine ⟨?_, hdigits⟩
      rintro rfl
      -- neither a fraction nor what ends a number begins with the digit behind the sign
      have hnone := hends.head_not_digit hfraction
      rw [← List.nil_append (fraction ++ _), hcs] at hnone
      cases hd : cs.head? with
      | none => simp [hd] at hnext
      | some d => simp [hd, hnone d hd] at hnext
    exact @Spelled.number true _ _ _ hwhole hfraction hends

/-- What is cut off a source is the spelling of a lexeme, and what is left does not continue it. -/
theorem spelled_of_cut {c : Char} {first : Cut (c :: cs)} (h : cut c cs = .ok first) :
    Spelled first.lexeme first.spelling first.rest := by
  unfold cut at h
  by_cases hline : c = '\n'
  · rw [if_pos hline] at h
    cases h
    rw [hline]
    exact .lineFeed
  rw [if_neg hline] at h
  by_cases hblank : isBlank c = true
  · rw [if_pos hblank] at h
    cases h
    exact .blank hblank hline
  rw [if_neg hblank] at h
  by_cases hcomment : c = '#'
  · rw [if_pos hcomment] at h
    cases h
    rw [hcomment]
    refine .comment (fun hmem => ?_) fun d hd => ?_
    · exact absurd (List.all_eq_true.1 List.all_takeWhile _ hmem) (by decide)
    · have hnot := List.head?_dropWhile_not (· != '\n') cs
      rw [Option.mem_def.1 hd] at hnot
      simpa using hnot
  rw [if_neg hcomment] at h
  cases hsymbol : Symbol.ofChar? c with
  | some mark =>
    simp only [hsymbol] at h
    cases h
    exact .symbol hsymbol
  | none =>
    simp only [hsymbol] at h
    by_cases hname : startsName c = true
    · rw [if_pos hname] at h
      cases h
      refine .word hname (List.all_eq_true.1 List.all_takeWhile) fun d hd => ?_
      have hnot := List.head?_dropWhile_not continuesName cs
      rwa [Option.mem_def.1 hd] at hnot
    rw [if_neg hname] at h
    by_cases hnumber : startsNumber c cs = true
    · rw [if_pos hnumber] at h
      cases h
      exact spelled_cutNumber hnumber
    rw [if_neg hnumber] at h
    by_cases hquote : c = '"' ∨ c = '\''
    · rw [if_pos hquote] at h
      cases hq : quoted c cs with
      | error fault => rw [hq] at h; cases h
      | ok q =>
        rw [hq] at h
        cases h
        obtain ⟨body, hspelling, hbody⟩ := quotes_of_quoted hq
        dsimp only
        rw [hspelling]
        exact .text hquote hbody
    · rw [if_neg hquote] at h
      cases h

/-! ## Rows of lexemes -/

/-- The tokens of a source from an offset on, each with the offset where its lexeme begins. The
lexemes stand side by side up to the end of the source. The layout behind each of them decides
whether the next one is a token. -/
inductive Row (source : List Char) : Layout → Nat → List (Token × Nat) → Prop where
  | done {layout : Layout} : Row source layout source.length []
  | next {layout : Layout} {offset : Nat} {lexeme : Lexeme} {spelling rest : List Char}
      {marked : List (Token × Nat)} : source.drop offset = spelling ++ rest →
      Spelled lexeme spelling rest →
      Row source (layout.read lexeme).2 (offset + spelling.length) marked →
      Row source layout offset (((layout.read lexeme).1.map (·, offset)).toList ++ marked)

/-- The offsets of a row grow from where it begins to the end of the source. -/
theorem Row.offsets {layout : Layout} {offset : Nat} {marked : List (Token × Nat)}
    (h : Row source layout offset marked) :
    (marked.map Prod.snd ++ [source.length]).Pairwise (· < ·) ∧
      ∀ o ∈ marked.map Prod.snd ++ [source.length], offset ≤ o := by
  induction h with
  | done => simp
  | @next layout offset lexeme spelling rest marked hsource hspelled _ ih =>
    obtain ⟨hsorted, hfrom⟩ := ih
    have hlength := List.length_pos_iff.2 hspelled.ne_nil
    have hlater : ∀ o ∈ marked.map Prod.snd ++ [source.length], offset < o := by
      intro o ho
      have := hfrom o ho
      omega
    cases (layout.read lexeme).1 with
    | none => exact ⟨hsorted, fun o ho => Nat.le_of_lt (hlater o ho)⟩
    | some token =>
      refine ⟨List.pairwise_cons.2 ⟨hlater, hsorted⟩, fun o ho => ?_⟩
      rcases List.mem_cons.1 ho with rfl | ho
      · exact Nat.le_refl _
      · exact Nat.le_of_lt (hlater o ho)

/-- The tokens of a source are those of a row of its lexemes, each at the place of its offset. -/
theorem exists_row {layout : Layout} {stream : TokenStream}
    (h : tokensFrom (Position.start.after before) layout cs = .ok stream) :
    ∃ marked, Row (before ++ cs) layout before.length marked ∧
      stream.tokens = marked.map (fun m => ⟨m.1, placeAt (before ++ cs) m.2⟩) ∧
      stream.stop = placeAt (before ++ cs) (before ++ cs).length := by
  induction hn : cs.length using Nat.strongRecOn generalizing before layout cs stream with
  | _ n ih =>
    cases cs with
    | nil =>
      rw [tokensFrom] at h
      cases h
      rw [after_start before [], List.append_nil]
      exact ⟨[], .done, rfl, rfl⟩
    | cons c cs =>
      obtain ⟨first, others, hcut, hbehind, rfl⟩ := tokensFrom_cons_eq_ok h
      rw [← after_append] at hbehind
      obtain ⟨marked, hrow, htokens, hstop⟩ := ih _ (hn ▸ first.rest_length_lt) hbehind rfl
      have hsource : before ++ first.spelling ++ first.rest = before ++ c :: cs := by
        rw [List.append_assoc, first.whole]
      rw [hsource] at hrow htokens hstop
      rw [List.length_append] at hrow
      refine ⟨_, .next ?_ (spelled_of_cut hcut) hrow, ?_, ?_⟩
      · rw [List.drop_left, first.whole]
      · rw [after_start before (c :: cs)]
        cases (layout.read first.lexeme).1 with
        | none => exact htokens
        | some token => exact congrArg (_ :: ·) htokens
      · cases (layout.read first.lexeme).1 <;> exact hstop

/-! ## Errors -/

/-- An escape that is unknown stands behind characters of the source. -/
theorem prefix_of_unknownEscape {mark e : Char} {before : List Char}
    (h : quoted mark cs = .error (.unknownEscape before e)) : before <+: cs := by
  fun_induction quoted mark cs generalizing before with
  | case1 => cases h
  | case2 => cases h
  | case3 => cases h
  | case4 => cases h
  | case5 =>
    cases h
    exact List.nil_prefix
  | case6 escape cs meant hmeant fault hmore hmark hline ih =>
    cases fault with
    | unterminated => cases h
    | unknownEscape behind e' =>
      cases h
      exact List.prefix_append_right_inj ['\\', escape] |>.2 (ih hmore)
  | case7 => cases h
  | case8 c cs hmark hline hescape fault hmore ih =>
    cases fault with
    | unterminated => cases h
    | unknownEscape behind e' =>
      cases h
      exact List.prefix_append_right_inj [c] |>.2 (ih hmore)
  | case9 => cases h

/-- Nothing is cut off where no lexeme begins, or where a quoted text has no end. -/
theorem fault_of_cut {c : Char} {fault : LexicalFault} (h : cut c cs = .error fault) :
    fault = .unexpectedCharacter ∨ ∃ why, quoted c cs = .error why ∧ fault = .quote why := by
  unfold cut at h
  split at h
  · cases h
  split at h
  · cases h
  split at h
  · cases h
  split at h
  · cases h
  split at h
  · cases h
  split at h
  · cases h
  split at h
  · split at h
    · next why hwhy =>
      cases h
      exact .inr ⟨why, hwhy, rfl⟩
    · cases h
  · cases h
    exact .inl rfl

/-- The fault of a lexeme is reported at one of its characters. -/
theorem exists_after_of_cut_error {c : Char} {fault : LexicalFault} (h : cut c cs = .error fault)
    (p : Position) : ∃ w rest, c :: cs = w ++ rest ∧ (fault.at c p).position = p.after w := by
  rcases fault_of_cut h with rfl | ⟨why, hwhy, rfl⟩
  · exact ⟨[], c :: cs, rfl, rfl⟩
  · cases why with
    | unterminated => exact ⟨[], c :: cs, rfl, rfl⟩
    | unknownEscape before e =>
      obtain ⟨rest, hrest⟩ := prefix_of_unknownEscape hwhy
      exact ⟨c :: before, rest, congrArg (c :: ·) hrest.symm, rfl⟩

/-- A fault among the lexemes of a source is reported inside the source. -/
theorem exists_after_of_tokensFrom_error {p : Position} {layout : Layout} {e : SyntaxError}
    (h : tokensFrom p layout cs = .error e) :
    ∃ w rest, cs = w ++ rest ∧ e.position = p.after w := by
  induction hn : cs.length using Nat.strongRecOn generalizing p layout cs with
  | _ n ih =>
    cases cs with
    | nil =>
      rw [tokensFrom] at h
      cases h
    | cons c cs =>
      rcases tokensFrom_cons_eq_error h with ⟨fault, hcut, rfl⟩ | ⟨first, -, hbehind⟩
      · exact exists_after_of_cut_error hcut p
      · obtain ⟨w, rest, hrest, hplace⟩ := ih _ (hn ▸ first.rest_length_lt) hbehind rfl
        refine ⟨first.spelling ++ w, rest, ?_, ?_⟩
        · rw [List.append_assoc, ← hrest, first.whole]
        · rw [hplace, after_append]

/-- What cannot be cut into lexemes is refused at an offset of it. -/
theorem exists_offset_of_tokens_error {source : String} {e : SyntaxError}
    (h : tokens source = .error e) :
    ∃ offset ≤ source.toList.length, e.position = placeAt source.toList offset := by
  obtain ⟨w, rest, hsource, hplace⟩ := exists_after_of_tokensFrom_error h
  rw [hplace, hsource, List.length_append]
  exact ⟨w.length, Nat.le_add_right _ _, after_start w rest⟩

/-- A token of a row, or the end, stands at an offset of the source. -/
theorem Row.exists_offset {layout : Layout} {offset : Nat} {marked : List (Token × Nat)}
    {rest : List Located} (h : Row source layout offset marked)
    (hrest : rest <:+ marked.map fun m => ⟨m.1, placeAt source m.2⟩) :
    ∃ o ≤ source.length, placeOf (placeAt source source.length) rest = placeAt source o := by
  cases rest with
  | nil => exact ⟨source.length, Nat.le_refl _, rfl⟩
  | cons first more =>
    obtain ⟨m, hm, rfl⟩ := List.mem_map.1 (hrest.subset (.head _))
    have hbefore := (List.pairwise_append.1 h.offsets.1).2.2 m.2 (List.mem_map_of_mem hm)
    exact ⟨m.2, Nat.le_of_lt (hbefore _ (.head _)), rfl⟩

/-- Wherever a source is read without a fault, its lexemes fill it from the first character to the
end, and every token stands at the offset where its lexeme begins: its line is one more than there
are line feeds before, and its column one more than there are characters behind the last of them.
These offsets grow, and the end of the tokens is that of the source. Where a source is not read, or
is no program or no expression, the error stands at an offset of it, too. -/
theorem placeAt_of_tokens_and_errors (source : String) :
    (∀ stream, tokens source = .ok stream → ∃ marked : List (Token × Nat),
      Row source.toList .initial 0 marked ∧
      (marked.map Prod.snd ++ [source.toList.length]).Pairwise (· < ·) ∧
      stream.tokens = marked.map (fun m => ⟨m.1, placeAt source.toList m.2⟩) ∧
      stream.stop = placeAt source.toList source.toList.length) ∧
    ∀ e, tokens source = .error e ∨ parse source = .error e ∨ parseExpr source = .error e →
      ∃ offset ≤ source.toList.length, e.position = placeAt source.toList offset := by
  have hrow (stream : TokenStream) (h : tokens source = .ok stream) := @exists_row [] _ _ _ h
  refine ⟨fun stream h => ?_, fun e h => ?_⟩
  · obtain ⟨marked, hmarked, htokens, hstop⟩ := hrow stream h
    exact ⟨marked, hmarked, hmarked.offsets.1, htokens, hstop⟩
  cases htokens : tokens source with
  | error fault =>
    -- what cannot be cut into lexemes is neither a program nor an expression
    obtain rfl : fault = e := by
      rcases h with h | h | h
      · exact Except.error.inj (htokens.symm.trans h)
      · rw [parse, htokens] at h
        exact Except.error.inj h
      · rw [parseExpr_eq, htokens] at h
        exact Except.error.inj h
    exact exists_offset_of_tokens_error htokens
  | ok stream =>
    obtain ⟨rest, hrest, hplace⟩ : ∃ rest, rest <:+ stream.tokens ∧
        e.position = placeOf stream.stop rest := by
      rcases h with h | h | h
      · cases htokens.symm.trans h
      · rw [parse, htokens] at h
        exact placeOf_of_statements_error h
      · exact placeOf_of_parseExpr_error htokens h
    obtain ⟨marked, hmarked, hplaced, hstop⟩ := hrow stream htokens
    rw [hplaced] at hrest
    rw [hplace, hstop]
    exact hmarked.exists_offset hrest

set_option maxRecDepth 1000 in
/-- Behind a comment with a letter that is not ASCII, and behind an escaped quote, columns still
count characters. The escape that is unknown stands behind all of them. -/
theorem placeAt_behind_comment_and_escapes :
    let good := "# \u00e9 \nPlay('a\\'b', Tim)"
    let bad := "# \u00e9\nPlay('a\\'b \\q')"
    (∃ stream, tokens good = .ok stream ∧
      stream.places = [⟨2, 1⟩, ⟨2, 5⟩, ⟨2, 6⟩, ⟨2, 12⟩, ⟨2, 14⟩, ⟨2, 17⟩, ⟨2, 18⟩] ∧
      ∃ marked : List (Token × Nat), Row good.toList .initial 0 marked ∧
        stream.tokens = marked.map fun m => ⟨m.1, placeAt good.toList m.2⟩) ∧
    tokens bad = .error ⟨⟨2, 12⟩, .unknownEscape 'q'⟩ ∧
      ∃ offset ≤ bad.toList.length, (⟨2, 12⟩ : Position) = placeAt bad.toList offset := by
  intro good bad
  have hplaces : (tokens good).toOption.map TokenStream.places =
      some [⟨2, 1⟩, ⟨2, 5⟩, ⟨2, 6⟩, ⟨2, 12⟩, ⟨2, 14⟩, ⟨2, 17⟩, ⟨2, 18⟩] := by cbv
  have hbad : tokens bad = .error ⟨⟨2, 12⟩, .unknownEscape 'q'⟩ := by cbv
  refine ⟨?_, hbad, (placeAt_of_tokens_and_errors bad).2 _ (.inl hbad)⟩
  cases hgood : tokens good with
  | error e =>
    rw [hgood] at hplaces
    cases hplaces
  | ok stream =>
    rw [hgood] at hplaces
    obtain ⟨marked, hmarked, -, htokens, -⟩ := (placeAt_of_tokens_and_errors good).1 stream hgood
    exact ⟨stream, rfl, Option.some.inj hplaces, marked, hmarked, htokens⟩

end Storyweave.Language
