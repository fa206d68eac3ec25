import Storyweave.Proofs.Language.RoundTrip

/-!
# Sources below each other

A line feed ends whatever lexeme stands before it, and behind a source that was read no bracket is
open. So two sources that can be read alone can be read with a line feed between them. Results:
1. `lexed_append_line`: in front of a line feed a source has the tokens it has alone, and these
   decide under which layout the line feed is read.
2. `Program.behind`: an expression closes the brackets it opens, so no bracket is open behind a
   program.
3. `parse_append_line`: the statements of both sources are read, those of the first one first.
-/

namespace Storyweave.Language

open Storyweave.Text

/-! ## Lexemes in front of a line feed -/

/-- A run of characters that does not go on over a line feed is no longer in front of one. -/
theorem takeWhile_dropWhile_line {p : Char → Bool} (h : p '\n' = false) (cs rest : List Char) :
    (cs ++ '\n' :: rest).takeWhile p = cs.takeWhile p ∧
      (cs ++ '\n' :: rest).dropWhile p = cs.dropWhile p ++ '\n' :: rest := by
  induction cs with
  | nil => simp [h]
  | cons c cs ih => cases hc : p c <;> simp [hc, ih]

/-- A point in front of a line feed belongs to no number. -/
theorem fractionLength_line (cs rest : List Char) :
    fractionLength (cs ++ '\n' :: rest) = fractionLength cs := by
  have hdigit : Char.isDigit '\n' = false := rfl
  fun_cases fractionLength cs with
  | case1 d cs hd =>
    rw [List.cons_append, List.cons_append, fractionLength, if_pos hd,
      (takeWhile_dropWhile_line hdigit cs rest).1]
  | case2 d cs hd => rw [List.cons_append, List.cons_append, fractionLength, if_neg hd]
  | case3 cs hpoint =>
    rcases cs with _ | ⟨c, _ | ⟨d, cs⟩⟩
    · rfl
    · by_cases hc : c = '.'
      · rw [hc]
        rfl
      · simp [fractionLength, hc]
    · have hc : c ≠ '.' := fun hc => hpoint d cs (by rw [hc])
      simp [fractionLength, hc]

/-- A lexeme that is cut off a source is cut off it in front of a line feed, too. -/
theorem cut_line {c : Char} {cs : List Char} {first : Cut (c :: cs)} (h : cut c cs = .ok first)
    (rest : List Char) :
    ∃ first', cut c (cs ++ '\n' :: rest) = .ok first' ∧ first'.lexeme = first.lexeme ∧
      first'.rest = first.rest ++ '\n' :: rest := by
  by_cases hcomment : c = '#'
  · subst hcomment
    cases h
    exact ⟨_, rfl, rfl, (takeWhile_dropWhile_line rfl cs rest).2⟩
  obtain ⟨w, behind, hspelling, hbehind, rfl⟩ := first.exists_append
  rw [hbehind, List.append_assoc]
  refine cut_append h hspelling hcomment (fun d hd hcontinues => ?_) fun hzero => ?_
  · cases behind with
    | nil =>
      obtain rfl := Option.some.inj hd
      exact absurd hcontinues (by decide)
    | cons => exact hd
  · rw [fractionLength_line, hzero]

/-! ## The layout behind some tokens -/

namespace Layout

/-- The layout behind a token. -/
def after (layout : Layout) : Token → Layout
  | .newline => { layout with fresh := true }
  | .symbol mark => ⟨depthAfter layout.depth mark, false⟩
  | _ => { layout with fresh := false }

/-- The layout behind some tokens. -/
def behind (layout : Layout) (ts : List Token) : Layout := ts.foldl after layout

/-- Only tokens change the layout. -/
theorem read_eq (layout : Layout) (lexeme : Lexeme) :
    (layout.read lexeme).2 = layout.behind (layout.read lexeme).1.toList := by
  cases lexeme with
  | lineFeed =>
    unfold read
    dsimp only
    split <;> rfl
  | _ => rfl

end Layout

/-- In front of a line feed a source has the tokens that it has alone, and the line feed is read
under the layout behind them. -/
theorem lexed_append_line {layout : Layout} {cs : List Char} {ts : List Token}
    (h : lexed layout cs = some ts) (rest : List Char) :
    lexed layout (cs ++ '\n' :: rest) =
      (lexed (layout.behind ts) ('\n' :: rest)).map (ts ++ ·) := by
  induction hn : cs.length using Nat.strongRecOn generalizing layout cs ts with
  | _ n ih =>
    cases cs with
    | nil =>
      rw [lexed] at h
      cases h
      exact Option.map_id'.symm
    | cons c cs =>
      rw [lexed] at h
      cases hcut : cut c cs with
      | error fault => rw [hcut] at h; cases h
      | ok first =>
        rw [hcut] at h
        obtain ⟨more, hmore, rfl⟩ := Option.map_eq_some_iff.1 h
        obtain ⟨first', hcut', hlexeme, hrest⟩ := cut_line hcut rest
        rw [List.cons_append, lexed_of_cut ⟨first', hcut', hlexeme, hrest⟩,
          ih _ (hn ▸ first.rest_length_lt) hmore rfl, Layout.read_eq, Option.map_map]
        simp only [Layout.behind, List.foldl_append, Function.comp_def, List.append_assoc]

/-- Whether a token can stand behind an expression: an operator, a comma, a closing symbol, or the
end of a line. -/
def Token.endsExpression : Token → Bool
  | .symbol .plus | .symbol .slash | .symbol .comma => true
  | .symbol .closeParen | .symbol .closeBracket => true
  | .newline => true
  | _ => false

namespace Grammar

theorem LineBreaks.behind {s t : List Token} (h : LineBreaks s t) (depth : Nat) (fresh : Bool) :
    ∃ fresh', Layout.behind ⟨depth, fresh⟩ s = Layout.behind ⟨depth, fresh'⟩ t := by
  induction h generalizing fresh with
  | done => exact ⟨fresh, rfl⟩
  | skip _ ih => exact ih true

mutual

theorem Operand.behind {b : Nat} {s t : List Token} {e : Expr} :
    Operand b s t e → ∀ depth fresh,
      Layout.behind ⟨depth, fresh⟩ s = Layout.behind ⟨depth, false⟩ t
  | .name _, _, _ => rfl
  | .number, _, _ => rfl
  | .text, _, _ => rfl
  | .call h _, depth, _ => h.behind depth false
  | .list h, depth, _ => h.behind depth false
  | .group h, depth, _ => h.behind (depth + 1) false

theorem Link.behind {op : Operator} {b : Nat} {s t : List Token} {e : Expr} :
    Link op b s t e → ∀ depth fresh,
      Layout.behind ⟨depth, fresh⟩ s = Layout.behind ⟨depth, false⟩ t
  | .operand h => h.behind
  | .term h => h.behind

/-- A chain closes the brackets that it opens, and it does not end with a line. -/
theorem Chain.behind {op : Operator} {b c : Nat} {s t : List Token} {e : Expr} :
    Chain op b c s t e → ∀ depth fresh,
      Layout.behind ⟨depth, fresh⟩ s = Layout.behind ⟨depth, false⟩ t
  | .first h, depth, fresh => h.behind depth fresh
  | .next hleft hbreaks hright, depth, fresh => by
    obtain ⟨fresh', hskipped⟩ := hbreaks.behind depth false
    rw [hleft.behind depth fresh, ← hright.behind depth fresh', ← hskipped]
    cases op <;> rfl

theorem Entry.behind {k : Bracket} {b : Nat} {s t : List Token} {a : Argument} :
    Entry k b s t a → ∀ depth fresh,
      Layout.behind ⟨depth, fresh⟩ s = Layout.behind ⟨depth, false⟩ t
  | .item h => h.behind
  | .positional _ h => h.behind
  | .keyword h => fun depth _ => h.behind depth false

/-- The entries of a bracket close it. -/
theorem Entries.behind {k : Bracket} {b : Nat} {s t : List Token} {entries : List Argument} :
    Entries k b s t entries → ∀ depth fresh,
      Layout.behind ⟨depth + 1, fresh⟩ s = Layout.behind ⟨depth, false⟩ t
  | .close, _, _ => by cases k <;> rfl
  | .last h, depth, fresh => by
    rw [h.behind (depth + 1) fresh]
    cases k <;> rfl
  | .more h hothers, depth, fresh => by
    rw [h.behind (depth + 1) fresh]
    exact hothers.behind depth false

end

/-- No bracket is open behind a program. -/
theorem Program.behind {s : List Token} {program : List Expr} (h : Program s program)
    (fresh : Bool) : (Layout.behind ⟨0, fresh⟩ s).depth = 0 := by
  induction h generalizing fresh with
  | blank hbreaks =>
    obtain ⟨fresh', hskipped⟩ := hbreaks.behind 0 fresh
    rw [hskipped]
    rfl
  | last hbreaks hchain =>
    obtain ⟨fresh', hskipped⟩ := hbreaks.behind 0 fresh
    rw [hskipped, hchain.behind]
    rfl
  | more hbreaks hchain _ ih =>
    obtain ⟨fresh', hskipped⟩ := hbreaks.behind 0 fresh
    rw [hskipped, hchain.behind]
    exact ih true

/-! ## Phrases in front of other tokens -/

/-- What stands in front can stand behind an expression. -/
def Ends (t : List Token) : Prop := ∀ x ∈ t.head?, x.endsExpression = true

theorem ends_cons {x : Token} (h : x.endsExpression = true) (t : List Token) : Ends (x :: t) := by
  rintro _ ⟨⟩
  exact h

theorem Ends.head_ne {t : List Token} (h : Ends t) {x : Token} (hx : x.endsExpression = false) :
    t.head? ≠ some x := by
  intro hhead
  rw [h x hhead] at hx
  cases hx

theorem ends_sign (op : Operator) (t : List Token) : Ends (.symbol op.sign :: t) := by
  cases op <;> exact ends_cons rfl t

theorem ends_closing (k : Bracket) (t : List Token) : Ends (.symbol k.closing :: t) := by
  cases k <;> exact ends_cons rfl t

theorem LineBreaks.moves {s t : List Token} (h : LineBreaks s t) :
    ∃ w, s = w ++ t ∧ ∀ t', LineBreaks (w ++ t') t' := by
  induction h with
  | done => exact ⟨[], rfl, fun _ => .done⟩
  | skip _ ih =>
    obtain ⟨w, rfl, hmoves⟩ := ih
    exact ⟨.newline :: w, rfl, fun t' => .skip (hmoves t')⟩

theorem startsKeyword_append {w t t' : List Token} (ht : Ends t')
    (h : StartsKeyword (w ++ t')) : StartsKeyword (w ++ t) := by
  obtain ⟨key, rest, h⟩ := h
  match w with
  | [] => exact absurd (congrArg List.head? h) (ht.head_ne rfl)
  | [x] => exact absurd (congrArg List.head? (List.cons.inj h).2) (ht.head_ne rfl)
  | x :: y :: w =>
    simp only [List.cons_append, List.cons.injEq] at h
    rw [h.1, h.2.1]
    exact ⟨key, w ++ t, rfl⟩

mutual

/-- An operand is the same one wherever its tokens stand. -/
theorem Operand.moves {b : Nat} {s t : List Token} {e : Expr} :
    Operand b s t e → ∃ w, s = w ++ t ∧ ∀ t', Ends t' → Operand b (w ++ t') t' e
  | .name _ => ⟨[_], rfl, fun t' ht' => .name (ht'.head_ne rfl)⟩
  | .number => ⟨[_], rfl, fun _ _ => .number⟩
  | .text => ⟨[_], rfl, fun _ _ => .text⟩
  | .call h hnodup => by
    obtain ⟨w, rfl, hmoves⟩ := h.moves
    exact ⟨_ :: _ :: w, rfl, fun t' _ => .call (hmoves t') hnodup⟩
  | .list h => by
    obtain ⟨w, rfl, hmoves⟩ := h.moves
    exact ⟨_ :: w, rfl, fun t' _ => .list (hmoves t')⟩
  | .group h => by
    obtain ⟨w, rfl, hmoves⟩ := h.moves
    refine ⟨.symbol .openParen :: (w ++ [.symbol .closeParen]), by simp, fun t' _ => ?_⟩
    simpa using Operand.group (hmoves _ (ends_closing .call t'))

theorem Link.moves {op : Operator} {b : Nat} {s t : List Token} {e : Expr} :
    Link op b s t e → ∃ w, s = w ++ t ∧ ∀ t', Ends t' → Link op b (w ++ t') t' e
  | .operand h => by
    obtain ⟨w, rfl, hmoves⟩ := h.moves
    exact ⟨w, rfl, fun t' ht' => .operand (hmoves t' ht')⟩
  | .term h => by
    obtain ⟨w, rfl, hmoves⟩ := h.moves
    exact ⟨w, rfl, fun t' ht' => .term (hmoves t' ht')⟩

theorem Chain.moves {op : Operator} {b c : Nat} {s t : List Token} {e : Expr} :
    Chain op b c s t e → ∃ w, s = w ++ t ∧ ∀ t', Ends t' → Chain op b c (w ++ t') t' e
  | .first h => by
    obtain ⟨w, rfl, hmoves⟩ := h.moves
    exact ⟨w, rfl, fun t' ht' => .first (hmoves t' ht')⟩
  | .next hleft hbreaks hright => by
    obtain ⟨w, rfl, hmoves⟩ := hleft.moves
    obtain ⟨breaks, rfl, hskipped⟩ := hbreaks.moves
    obtain ⟨w', rfl, hmoves'⟩ := hright.moves
    refine ⟨w ++ .symbol op.sign :: (breaks ++ w'), by simp, fun t' ht' => ?_⟩
    simpa using Chain.next (hmoves _ (ends_sign op _)) (hskipped (w' ++ t')) (hmoves' t' ht')

theorem Entry.moves {k : Bracket} {b : Nat} {s t : List Token} {a : Argument} :
    Entry k b s t a → ∃ w, s = w ++ t ∧ ∀ t', Ends t' → Entry k b (w ++ t') t' a
  | .item h => by
    obtain ⟨w, rfl, hmoves⟩ := h.moves
    exact ⟨w, rfl, fun t' ht' => .item (hmoves t' ht')⟩
  | .positional hstart h => by
    obtain ⟨w, rfl, hmoves⟩ := h.moves
    exact ⟨w, rfl, fun t' ht' =>
      .positional (mt (startsKeyword_append ht') hstart) (hmoves t' ht')⟩
  | .keyword h => by
    obtain ⟨w, rfl, hmoves⟩ := h.moves
    exact ⟨_ :: _ :: w, rfl, fun t' ht' => .keyword (hmoves t' ht')⟩

theorem Entries.moves {k : Bracket} {b : Nat} {s t : List Token} {entries : List Argument} :
    Entries k b s t entries → ∃ w, s = w ++ t ∧ ∀ t', Entries k b (w ++ t') t' entries
  | .close => ⟨[_], rfl, fun _ => .close⟩
  | .last h => by
    obtain ⟨w, rfl, hmoves⟩ := h.moves
    refine ⟨w ++ [.symbol k.closing], by simp, fun t' => ?_⟩
    simpa using Entries.last (hmoves _ (ends_closing k t'))
  | .more h hothers => by
    obtain ⟨w, rfl, hmoves⟩ := h.moves
    obtain ⟨w', rfl, hmoves'⟩ := hothers.moves
    refine ⟨w ++ .symbol .comma :: w', by simp, fun t' => ?_⟩
    simpa using Entries.more (hmoves _ (ends_cons rfl _)) (hmoves' t')

end

/-! ## Programs below each other -/

theorem LineBreaks.trans {s m t : List Token} (h : LineBreaks s m) (h' : LineBreaks m t) :
    LineBreaks s t := by
  induction h with
  | done => exact h'
  | skip _ ih => exact .skip (ih h')

/-- Ends of lines in front of a program may be left out. -/
theorem Program.skip {s t : List Token} {program : List Expr} (hbreaks : LineBreaks s t)
    (h : Program t program) : Program s program := by
  cases h with
  | blank hnil => exact .blank (hbreaks.trans hnil)
  | last hfirst hchain => exact .last (hbreaks.trans hfirst) hchain
  | more hfirst hchain hothers => exact .more (hbreaks.trans hfirst) hchain hothers

/-- A line feed outside all brackets is the end of a line, or it follows one. -/
theorem lineBreaks_lineFeed (fresh : Bool) (t : List Token) :
    LineBreaks ((Layout.read ⟨0, fresh⟩ .lineFeed).1.toList ++ t) t := by
  cases fresh with
  | false => exact .skip .done
  | true => exact .done

/-- A program may be followed by another one behind a line feed. -/
theorem Program.append {s t : List Token} {program others : List Expr} (h : Program s program)
    (h' : Program t others) {fresh : Bool} (hs : Layout.behind .initial s = ⟨0, fresh⟩) :
    Program (s ++ ((Layout.read ⟨0, fresh⟩ .lineFeed).1.toList ++ t)) (program ++ others) := by
  induction h with
  | blank hbreaks =>
    obtain ⟨breaks, rfl, hskipped⟩ := hbreaks.moves
    rw [List.append_nil]
    exact h'.skip ((hskipped _).trans (lineBreaks_lineFeed fresh t))
  | last hbreaks hchain =>
    obtain ⟨fresh', hfirst⟩ := hbreaks.behind 0 true
    obtain ⟨breaks, rfl, hskipped⟩ := hbreaks.moves
    -- the statement does not end with its line, so the line feed does
    have hlast := hfirst.trans (hchain.behind 0 fresh')
    obtain rfl : fresh = false := congrArg Layout.fresh (hs.symm.trans hlast)
    obtain ⟨w, rfl, hmoves⟩ := hchain.moves
    have hstatement := hmoves (.newline :: t) (ends_cons rfl t)
    rw [List.append_nil, List.append_assoc]
    exact .more (hskipped _) hstatement h'
  | @more s m rest c e more hbreaks hchain _ ih =>
    obtain ⟨fresh', hfirst⟩ := hbreaks.behind 0 true
    obtain ⟨breaks, rfl, hskipped⟩ := hbreaks.moves
    have hlast := hfirst.trans (hchain.behind 0 fresh')
    obtain ⟨w, rfl, hmoves⟩ := hchain.moves
    have hstatement := hmoves
      (.newline :: (rest ++ ((Layout.read ⟨0, fresh⟩ .lineFeed).1.toList ++ t))) (ends_cons rfl _)
    rw [List.append_assoc, List.append_assoc]
    exact .more (hskipped _) hstatement (ih (hlast.symm.trans hs))

end Grammar

theorem lexed_lineFeed_outside (fresh : Bool) (rest : List Char) :
    lexed ⟨0, fresh⟩ ('\n' :: rest) =
      (lexed .initial rest).map ((Layout.read ⟨0, fresh⟩ .lineFeed).1.toList ++ ·) := by
  rw [lexed_of_cut ⟨_, rfl, rfl, rfl⟩]
  cases fresh <;> rfl

/-- Two sources that can be read alone can be read with a line feed between them: the statements
are those of the first one and then those of the second one. So neither an open bracket nor a level
of nesting is left over from one statement for the next. -/
theorem parse_append_line {first second : String} {program others : List Expr}
    (h : parse first = .ok program) (h' : parse second = .ok others) :
    parse (first ++ "\n" ++ second) = .ok (program ++ others) := by
  obtain ⟨ts, hlexed, hprogram⟩ := parse_eq_ok_iff.1 h
  obtain ⟨ts', hlexed', hothers⟩ := parse_eq_ok_iff.1 h'
  obtain ⟨fresh, hbehind⟩ : ∃ fresh, Layout.behind .initial ts = ⟨0, fresh⟩ :=
    ⟨_, congrArg (Layout.mk · _) (hprogram.behind true)⟩
  refine parse_eq_ok_iff.2 ⟨_, ?_, hprogram.append hothers hbehind⟩
  have hsource : (first ++ "\n" ++ second).toList = first.toList ++ '\n' :: second.toList := by
    simp [String.toList_append]
  rw [hsource, lexed_append_line hlexed, hbehind, lexed_lineFeed_outside, hlexed']
  rfl

set_option maxRecDepth 1000 in
/-- A comment opens no bracket, and it ends with its line. -/
theorem parse_below_comment :
    let tim := Expr.call "Tim" [.name "Character"] []
    let play := Expr.call "Play" [.name "Tim"] []
    parse "Tim(Character) # ([" = .ok [tim] ∧ parse "\nPlay(\nTim)" = .ok [play] ∧
      parse ("Tim(Character) # ([" ++ "\n" ++ "\nPlay(\nTim)") = .ok [tim, play] := by
  have hfirst : parse "Tim(Character) # ([" = .ok [.call "Tim" [.name "Character"] []] := by cbv
  have hsecond : parse "\nPlay(\nTim)" = .ok [.call "Play" [.name "Tim"] []] := by cbv
  exact ⟨hfirst, hsecond, parse_append_line hfirst hsecond⟩

end Storyweave.Language
