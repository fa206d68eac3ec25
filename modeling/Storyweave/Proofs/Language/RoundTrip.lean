import Storyweave.Proofs.Language.Nesting

/-!
# Printing and parsing

When the printed form of an expression or of a program is read back as the same tree. Results:
1. `parse_eq_ok_iff`, `parseExpr_eq_ok_iff`: a source is accepted exactly if its tokens are a
   program, or an expression, of the grammar.
2. `parseExpr_print_iff`: an expression is read back from its text exactly if its words are names,
   no key occurs twice in a call, its numbers are finite, and its text is not nested too deeply.
3. `parse_printProgram_iff`: what the parser made of a source is read back from its text exactly
   if its numbers are finite and the text is not nested too deeply. Both can fail, because a
   numeral may be too large for a number, and because the text keeps no parentheses that the
   tree does not need.
-/

namespace Storyweave.Language

/-! ## Sources and the grammar -/

theorem parse_eq_ok_iff {source : String} {program : List Expr} :
    parse source = .ok program ↔
      ∃ ts, lexed .initial source.toList = some ts ∧ Grammar.Program ts program := by
  constructor
  · intro h
    obtain ⟨stream, hstream, hread⟩ := bind_eq_ok_iff.1 h
    exact ⟨_, tokens_eq_ok_iff.2 ⟨stream, hstream, rfl⟩, Grammar.statements_sound hread⟩
  · rintro ⟨ts, hlexed, hprogram⟩
    obtain ⟨stream, hstream, rfl⟩ := tokens_eq_ok_iff.1 hlexed
    exact bind_eq_ok_iff.2 ⟨stream, hstream, hprogram.reads _ _ rfl⟩

theorem parseExpr_eq (source : String) :
    parseExpr source = tokens source >>= fun stream =>
      readChain stream.stop .compose maxNesting (skipNewlines stream.tokens) >>= fun only =>
        match skipNewlines only.2 with
        | [] => .ok only.1
        | rest => .error (unexpected stream.stop .endOfInput rest) := by
  unfold parseExpr
  cases tokens source with
  | error fault => rfl
  | ok stream =>
    simp only [readChain, plain, bind, Except.bind]
    cases expression stream.stop maxNesting (skipNewlines stream.tokens) <;> rfl

theorem parseExpr_eq_ok_iff {source : String} {e : Expr} :
    parseExpr source = .ok e ↔
      ∃ ts s t c, lexed .initial source.toList = some ts ∧ Grammar.LineBreaks ts s ∧
        Grammar.Chain .compose maxNesting c s t e ∧ Grammar.LineBreaks t [] := by
  rw [parseExpr_eq]
  constructor
  · intro h
    obtain ⟨stream, hstream, hread⟩ := bind_eq_ok_iff.1 h
    obtain ⟨⟨only, rest⟩, honly, hend⟩ := bind_eq_ok_iff.1 hread
    obtain ⟨c, hchain⟩ := Grammar.readChain_sound honly
    have hbehind := Grammar.lineBreaks_skipNewlines rest
    dsimp only at hend
    split at hend
    · next hnil =>
      rw [hnil] at hbehind
      cases hend
      exact ⟨_, _, _, c, tokens_eq_ok_iff.2 ⟨stream, hstream, rfl⟩,
        Grammar.lineBreaks_skipNewlines _, hchain, hbehind⟩
    · cases hend
  · rintro ⟨ts, s, t, c, hlexed, hbreaks, hchain, hend⟩
    obtain ⟨stream, hstream, rfl⟩ := tokens_eq_ok_iff.1 hlexed
    have hskip := Grammar.kinds_skipNewlines hbreaks (hchain.opens.head_ne rfl)
    have ht : ∀ op : Operator, t.head? ≠ some (.symbol op.sign) := by
      cases hend <;> rintro op ⟨⟩
    obtain ⟨rest, hrest, hread⟩ := hchain.reads_end stream.stop ht hskip
    refine bind_eq_ok_iff.2 ⟨stream, hstream, bind_eq_ok_iff.2 ⟨_, hread, ?_⟩⟩
    have hnil : skipNewlines rest = [] :=
      kinds_eq_nil (Grammar.kinds_skipNewlines (by rw [hrest]; exact hend) (by rintro ⟨⟩))
    simp only [hnil]

/-! ## Expressions -/

theorem wordsValid_of_lexed {layout : Layout} {cs : List Char} {ts : List Token}
    (h : lexed layout cs = some ts) : WordsValid (atomsOf ts) :=
  fun _ hword => isName_of_lexed h (List.mem_of_mem_filter hword)

/-- Atoms that agree are the same words. -/
theorem WordsValid.of_agrees {s t : List Token} (hs : WordsValid s)
    (h : List.Forall₂ Token.Agrees s t) : WordsValid t := by
  induction h with
  | nil => exact hs
  | @cons x y s t hxy _ ih =>
    intro word hword
    rcases List.mem_cons.1 hword with hfirst | hrest
    · subst hfirst
      cases x with
      | word other =>
        obtain rfl : other = word := hxy
        exact hs other List.mem_cons_self
      | _ => cases hxy
    · exact ih hs.tail word hrest

/-- The text of an atom is read as the same atom only if it is no number that is not finite. -/
theorem numbersFinite_of_agrees {s : List Token}
    (h : List.Forall₂ Token.Agrees (s.map Token.spelled) s) : NumbersFinite s := by
  rw [List.forall₂_map_left_iff, List.forall₂_same] at h
  intro x hx
  have hagrees := h _ hx
  by_cases hfinite : x.isFinite = true
  · exact hfinite
  · rw [Token.spelled, numberToken, if_neg hfinite] at hagrees
    cases hagrees

theorem NumbersFinite.legible {s : List Token} (h : NumbersFinite s) :
    s.all Token.legible = true := by
  rw [List.all_eq_true]
  intro token htoken
  cases token with
  | number x =>
    have hfinite := h x htoken
    rw [Number.isFinite_eq, Bool.not_eq_true', Bool.or_eq_false_iff] at hfinite
    simp [Token.legible, hfinite.2]
  | _ => rfl

/-- The text of an expression whose words are names is read as its tokens. -/
theorem lexed_print {e : Expr} (h : WordsValid e.atoms) :
    lexed .initial e.print.toList =
      if e.atoms.all Token.legible then some e.tokens else none := by
  have hprint := e.spells_print h 0 true [] delimited_nil
  rw [List.append_nil, lexed.eq_1] at hprint
  rw [Layout.initial, hprint]
  simp

/-- An expression between ends of lines has the atoms of all its tokens. -/
theorem contents_of_chain {b c : Nat} {ts s t : List Token} {e : Expr}
    (hbreaks : Grammar.LineBreaks ts s) (hchain : Grammar.Chain .compose b c s t e)
    (hend : Grammar.LineBreaks t []) : atomsOf ts = e.atoms ∧ e.KeysDistinct := by
  obtain ⟨hatoms, hkeys⟩ := hchain.contents
  refine ⟨?_, hkeys⟩
  rw [hbreaks.atoms_eq, hatoms, hend.atoms_eq]
  exact List.append_nil _

/-- The words of what the parser made of a source are names, and its keys are distinct. -/
theorem contents_of_parseExpr {source : String} {e : Expr} (h : parseExpr source = .ok e) :
    WordsValid e.atoms ∧ e.KeysDistinct := by
  obtain ⟨ts, s, t, c, hlexed, hbreaks, hchain, hend⟩ := parseExpr_eq_ok_iff.1 h
  obtain ⟨hatoms, hkeys⟩ := contents_of_chain hbreaks hchain hend
  refine ⟨?_, hkeys⟩
  rw [← hatoms]
  exact wordsValid_of_lexed hlexed

/-- An expression that can be written is read back from its text. -/
theorem parseExpr_print {e : Expr} (hwords : WordsValid e.atoms) (hkeys : e.KeysDistinct)
    (hfinite : NumbersFinite e.atoms) (hcost : e.cost ≤ maxNesting) :
    parseExpr e.print = .ok e := by
  have hphrase := e.isPhrase hkeys hfinite maxNesting [] hcost (by rintro ⟨⟩)
  rw [List.append_nil] at hphrase
  refine parseExpr_eq_ok_iff.2 ⟨_, _, _, _, ?_, .done, hphrase.expression, .done⟩
  rw [lexed_print hwords, if_pos hfinite.legible]

/-- An expression that is read back has finite numbers, and its text does not take too many
levels. -/
theorem finite_of_parseExpr_print {e again : Expr} (hwords : WordsValid e.atoms)
    (hkeys : e.KeysDistinct) (hread : parseExpr e.print = .ok again)
    (hagrees : again.agrees e = true) : NumbersFinite e.atoms ∧ e.cost ≤ maxNesting := by
  obtain ⟨ts, s, t, c, hlexed, hbreaks, hchain, hend⟩ := parseExpr_eq_ok_iff.1 hread
  rw [lexed_print hwords] at hlexed
  split at hlexed
  · cases hlexed
    -- a number that is not finite is a word of the text, and no word agrees with a number
    have hsame := Expr.agrees_atoms hagrees
    rw [← (contents_of_chain hbreaks hchain hend).1, Expr.atomsOf_tokens] at hsame
    have hfinite := numbersFinite_of_agrees hsame
    rw [hbreaks.eq_of_head_ne (e.tokens_opens.head_ne rfl), ← List.append_nil e.tokens] at hchain
    have ht : ∀ op : Operator, t.head? ≠ some (.symbol op.sign) := by
      cases hend <;> rintro op ⟨⟩
    exact ⟨hfinite, Expr.cost_le_of_chain hkeys hfinite hchain ht⟩
  · cases hlexed

/-- An expression is read back from its text, as an equal tree, exactly if its words are names, no
key occurs twice in a call, its numbers are finite, and the parser has enough levels for its
text. -/
theorem parseExpr_print_iff (e : Expr) :
    (∃ again, parseExpr e.print = .ok again ∧ again.agrees e = true) ↔
      WordsValid e.atoms ∧ e.KeysDistinct ∧ NumbersFinite e.atoms ∧ e.cost ≤ maxNesting := by
  constructor
  · rintro ⟨again, hread, hagrees⟩
    -- what was read has names and distinct keys, so the equal expression has them too
    obtain ⟨hwords, hkeys⟩ := contents_of_parseExpr hread
    have hwords' := hwords.of_agrees (Expr.agrees_atoms hagrees)
    have hkeys' := Expr.agrees_keysDistinct hagrees hkeys
    obtain ⟨hfinite, hcost⟩ := finite_of_parseExpr_print hwords' hkeys' hread hagrees
    exact ⟨hwords', hkeys', hfinite, hcost⟩
  · rintro ⟨hwords, hkeys, hfinite, hcost⟩
    exact ⟨e, parseExpr_print hwords hkeys hfinite hcost, e.agrees_self hfinite⟩

/-! ## Programs -/

/-- The words of what the parser made of a source are names, and its keys are distinct. -/
theorem contents_of_parse {source : String} {program : List Expr}
    (h : parse source = .ok program) :
    WordsValid (Expr.atomsAll program) ∧ Expr.KeysDistinctAll program := by
  obtain ⟨ts, hlexed, hprogram⟩ := parse_eq_ok_iff.1 h
  obtain ⟨hatoms, hkeys⟩ := hprogram.contents
  refine ⟨?_, hkeys⟩
  rw [← hatoms]
  exact wordsValid_of_lexed hlexed

/-- A program that can be written is read back from its text. -/
theorem parse_printProgram {program : List Expr} (hwords : WordsValid (Expr.atomsAll program))
    (hkeys : Expr.KeysDistinctAll program) (hfinite : NumbersFinite (Expr.atomsAll program))
    (hcost : Expr.costAll program ≤ maxNesting) : parse (printProgram program) = .ok program := by
  refine parse_eq_ok_iff.2 ⟨_, ?_, Expr.program_tokens program hkeys hfinite hcost⟩
  rw [Layout.initial, lexed_printProgram program true hwords, if_pos hfinite.legible]

/-- A program that is read back has finite numbers, and its text does not take too many levels. -/
theorem finite_of_parse_printProgram {program again : List Expr}
    (hwords : WordsValid (Expr.atomsAll program)) (hkeys : Expr.KeysDistinctAll program)
    (hread : parse (printProgram program) = .ok again)
    (hagrees : Expr.allAgree again program = true) :
    NumbersFinite (Expr.atomsAll program) ∧ Expr.costAll program ≤ maxNesting := by
  obtain ⟨ts, hlexed, hagain⟩ := parse_eq_ok_iff.1 hread
  rw [Layout.initial, lexed_printProgram program true hwords] at hlexed
  split at hlexed
  · cases hlexed
    have hsame := Expr.allAgree_atoms hagrees
    rw [← hagain.contents.1, atomsOf_programTokens] at hsame
    have hfinite := numbersFinite_of_agrees hsame
    exact ⟨hfinite, Expr.costAll_le_of_program hkeys hfinite hagain⟩
  · cases hlexed

/-! ## Long chains -/

namespace Expr

/-- Nothing but the nesting of an expression can keep it from being read back. -/
def Readable (e : Expr) : Prop := WordsValid e.atoms ∧ e.KeysDistinct ∧ NumbersFinite e.atoms

/-- An expression with `x` behind it, joined by an operator, for `n` times. -/
def extend (op : Operator) : Nat → Expr → Expr
  | 0, e => e
  | n + 1, e => extend op n (.binary op e (.name "x"))

theorem isName_x : IsName "x" := ⟨'x', [], rfl, by decide, nofun⟩

theorem readable_x : (name "x").Readable := by
  refine ⟨fun word hword => ?_, trivial, fun x hx => ?_⟩
  · cases List.mem_singleton.1 hword
    exact isName_x
  · cases List.mem_singleton.1 hx

theorem Readable.binary {l r : Expr} (hl : l.Readable) (hr : r.Readable) (op : Operator) :
    (binary op l r).Readable := by
  refine ⟨fun word hword => ?_, ⟨hl.2.1, hr.2.1⟩, fun x hx => ?_⟩
  · exact (List.mem_append.1 hword).elim (hl.1 word) (hr.1 word)
  · exact (List.mem_append.1 hx).elim (hl.2.2 x) (hr.2.2 x)

theorem Readable.extend {e : Expr} (h : e.Readable) (op : Operator) (n : Nat) :
    (e.extend op n).Readable := by
  induction n generalizing e with
  | zero => exact h
  | succ n ih => exact ih (h.binary readable_x op)

theorem operators_extend (op : Operator) (n : Nat) (e : Expr) :
    (e.extend op n).operators op = e.operators op + n := by
  induction n generalizing e with
  | zero => rfl
  | succ n ih =>
    rw [extend, ih, operators, if_pos rfl]
    omega

theorem precedence_extend (op : Operator) (n : Nat) (e : Expr) :
    (e.extend op (n + 1)).precedence = op.precedence := by
  induction n generalizing e with
  | zero => rfl
  | succ n ih => exact ih (.binary op e (.name "x"))

theorem operators_lt_cost (op : Operator) (e : Expr) : e.operators op < e.cost := by
  have hpos := e.cost_pos
  cases e with
  | binary other l r =>
    rw [operators]
    split
    · next hsame =>
      subst hsame
      have hright := Nat.lt_of_lt_of_le r.cost_pos (r.cost_le_encloseCost (other.precedence + 1))
      rw [cost]
      omega
    · exact hpos
  | _ => exact hpos

/-- A chain takes no more levels than its first link and its operators. -/
theorem cost_extend_le {op : Operator} {n b : Nat} {e : Expr} (hop : op.precedence ≤ e.precedence)
    (hcost : e.cost ≤ b) (hn : e.operators op + n < b) : (e.extend op n).cost ≤ b := by
  induction n generalizing e with
  | zero => exact hcost
  | succ n ih =>
    refine ih (Nat.le_refl op.precedence) ?_ ?_
    · have hx : encloseCost (name "x").precedence (op.precedence + 1) (name "x").cost = 1 :=
        if_neg (Nat.not_lt.2 op.precedence_bounds.2)
      rw [cost, hx, encloseCost, if_neg (Nat.not_lt.2 hop)]
      omega
    · rw [operators, if_pos rfl]
      omega

theorem Readable.program {e : Expr} (h : e.Readable) :
    WordsValid (atomsAll [e]) ∧ KeysDistinctAll [e] ∧ NumbersFinite (atomsAll [e]) := by
  have hatoms : atomsAll [e] = e.atoms := List.append_nil _
  rw [hatoms]
  exact ⟨h.1, ⟨h.2.1, trivial⟩, h.2.2⟩

theorem Readable.parse {e : Expr} (h : e.Readable) (hcost : e.cost ≤ maxNesting) :
    Language.parse (printProgram [e]) = .ok [e] := by
  obtain ⟨hwords, hkeys, hfinite⟩ := h.program
  exact parse_printProgram hwords hkeys hfinite (Nat.max_le.2 ⟨hcost, Nat.zero_le _⟩)

/-- A chain of `/` and a chain of `+` behind it can each take all levels. -/
theorem cost_chains_le {n b : Nat} {e : Expr} (he : 3 ≤ e.precedence) (hcost : e.cost ≤ b)
    (hn : n + 1 < b) : ((e.extend .dilute (n + 1)).extend .compose (n + 1)).cost ≤ b := by
  have hop : ∀ op : Operator, e.operators op = 0 := fun op =>
    operators_eq_zero (Nat.ne_of_gt (Nat.lt_of_lt_of_le op.precedence_bounds.2 he))
  have hterm : (e.extend .dilute (n + 1)).cost ≤ b :=
    cost_extend_le (Nat.le_of_succ_le he) hcost (by rw [hop]; omega)
  have hoperators : (e.extend .dilute (n + 1)).operators .compose = 0 :=
    operators_eq_zero (by rw [precedence_extend]; decide)
  exact cost_extend_le (precedence_pos _) hterm (by rw [hoperators]; omega)

end Expr

/-- `x`, so many times behind an operator, and other tokens behind it. -/
def extendTokens (op : Operator) : Nat → List Token → List Token
  | 0, t => t
  | n + 1, t => .symbol op.sign :: .word "x" :: extendTokens op n t

/-- A text with `x` behind it, joined by an operator, for `n` times. -/
def extendText (op : Operator) : Nat → String → String
  | 0, text => text
  | n + 1, text => extendText op n (text ++ " " ++ op.symbol ++ " " ++ "x")

theorem Expr.print_extend {op : Operator} {n : Nat} {e : Expr} (h : op.precedence ≤ e.precedence) :
    (e.extend op n).print = extendText op n e.print := by
  induction n generalizing e with
  | zero => rfl
  | succ n ih =>
    have hleft : parenthesize e.precedence op.precedence e.print = e.print :=
      if_neg (Nat.not_lt.2 h)
    have hright : parenthesize (name "x").precedence (op.precedence + 1) (name "x").print = "x" :=
      if_neg (Nat.not_lt.2 op.precedence_bounds.2)
    have hnext := @ih (.binary op e (.name "x")) (Nat.le_refl op.precedence)
    rw [extend, extendText, hnext, print, hleft, hright]

theorem spells_extendText (op : Operator) (n : Nat) {text : String} {ts : List Token}
    (h : Spells text true ts) :
    Spells (extendText op n text) true (ts ++ extendTokens op n []) := by
  induction n generalizing text ts with
  | zero =>
    rw [extendTokens, List.append_nil]
    exact h
  | succ n ih =>
    have hnext := ih (spells_binary op h (spells_word Expr.isName_x))
    rw [List.append_assoc] at hnext
    exact hnext

namespace Grammar

theorem Link.name (op : Operator) {b : Nat} {word : String} {t : List Token}
    (ht : t.head? ≠ some (.symbol .openParen)) :
    Link op (b + 1) (.word word :: t) t (.name word) := by
  cases op with
  | compose => exact .term (.first (.operand (.name ht)))
  | dilute => exact .operand (.name ht)

/-- A chain goes on as long as a level is left behind its last operator. -/
theorem Chain.extend {op : Operator} {b c n : Nat} {s t : List Token} {e : Expr}
    (ht : t.head? ≠ some (.symbol .openParen))
    (h : Chain op b (c + 1 + n) s (extendTokens op n t) e) :
    Chain op b (c + 1) s t (e.extend op n) := by
  induction n generalizing e with
  | zero => exact h
  | succ n ih =>
    have hhead : (extendTokens op n t).head? ≠ some (.symbol .openParen) := by
      cases n with
      | zero => exact ht
      | succ n => cases op <;> rintro ⟨⟩
    have hlink := @Link.name op (c + n) "x" _ hhead
    rw [Nat.add_right_comm] at hlink
    exact ih (.next h .done hlink)

end Grammar

/-! ## What is read back -/

/-- A source that is a numeral is one number. -/
theorem parse_numeral {numeral : List Char} (h : Number.Numeral numeral) :
    parse (String.ofList numeral) = .ok [.number (Number.Decimal.ofChars numeral).toFloat] := by
  have hlexed := lexed_number h 0 true delimited_nil
  rw [List.append_nil, lexed.eq_1] at hlexed
  refine parse_eq_ok_iff.2 ⟨_, ?_, .last .done (.first (.term (.first (.operand .number))))⟩
  rw [String.toList_ofList]
  exact hlexed

theorem numeral_nines (n : Nat) : Number.Numeral (List.replicate (n + 1) '9') := by
  refine ⟨false, List.replicate (n + 1) '9', [], (List.append_nil _).symm, ⟨nofun, ?_⟩, .inl rfl⟩
  intro c hc
  rw [List.eq_of_mem_replicate hc]
  rfl

theorem parse_chain :
    let program := [((Expr.name "x").extend .dilute 1).extend .compose 1]
    parse "x / x + x" = .ok program ∧ NumbersFinite (Expr.atomsAll program) ∧
      Expr.costAll program ≤ maxNesting := by
  intro program
  have hreadable := (Expr.readable_x.extend .dilute 1).extend .compose 1
  have hcost := @Expr.cost_chains_le 0 maxNesting (.name "x") (by decide) (by decide) (by decide)
  have hprint : printProgram program = "x / x + x" := by decide +kernel
  rw [← hprint]
  exact ⟨hreadable.parse hcost, hreadable.program.2.2, Nat.max_le.2 ⟨hcost, Nat.zero_le _⟩⟩

/-- What the parser made of a source is read back from its text, as an equal program, exactly if
its numbers are finite and the parser has enough levels for its text. -/
theorem parse_printProgram_iff {source : String} {program : List Expr}
    (h : parse source = .ok program) :
    (∃ again, parse (printProgram program) = .ok again ∧ Expr.allAgree again program = true) ↔
      NumbersFinite (Expr.atomsAll program) ∧ Expr.costAll program ≤ maxNesting := by
  obtain ⟨hwords, hkeys⟩ := contents_of_parse h
  constructor
  · rintro ⟨again, hread, hagrees⟩
    exact finite_of_parse_printProgram hwords hkeys hread hagrees
  · rintro ⟨hfinite, hcost⟩
    exact ⟨program, parse_printProgram hwords hkeys hfinite hcost,
      Expr.allAgree_self program hfinite⟩

/-- A chain of both operators is read back. -/
theorem chain_read_back :
    ∃ program, parse "x / x + x" = .ok program ∧
      ∃ again, parse (printProgram program) = .ok again ∧
        Expr.allAgree again program = true := by
  obtain ⟨hparse, hfinite, hcost⟩ := parse_chain
  exact ⟨_, hparse, (parse_printProgram_iff hparse).2 ⟨hfinite, hcost⟩⟩

/-- A numeral of 309 nines is read as infinity, which is written as a word. -/
theorem numeral_not_read_back :
    ∃ program, parse (String.ofList (List.replicate 309 '9')) = .ok program ∧
      ¬∃ again, parse (printProgram program) = .ok again ∧
        Expr.allAgree again program = true := by
  have hparse := parse_numeral (numeral_nines 308)
  refine ⟨_, hparse, ?_⟩
  rintro ⟨again, hread, hagrees⟩
  obtain ⟨hwords, hkeys⟩ := contents_of_parse hparse
  have hfinite := (finite_of_parse_printProgram hwords hkeys hread hagrees).1 _ List.mem_cons_self
  exact absurd hfinite (by decide +kernel)

/-- Parentheses around the first part of a long chain give the levels of this part back, and the
text of the tree does not keep them. -/
theorem group_not_read_back {m n : Nat} (hm : m + 1 < maxNesting) (hn : n < maxNesting)
    (hchain : maxNesting ≤ m + n) :
    ∃ program, parse (extendText .compose n
        ("(" ++ ((Expr.name "x").extend .compose m).print ++ ")")) = .ok program ∧
      ¬∃ again, parse (printProgram program) = .ok again ∧
        Expr.allAgree again program = true := by
  obtain ⟨hwords, hkeys, hfinite⟩ := Expr.readable_x.extend .compose m
  generalize hinner : (Expr.name "x").extend .compose m = inner at hwords hkeys hfinite
  have hcost : inner.cost ≤ maxNesting - 1 := by
    rw [← hinner]
    exact Expr.cost_extend_le (by decide) (by decide) (by
      show 0 + m < maxNesting - 1
      omega)
  have hparse : parse (extendText .compose n ("(" ++ inner.print ++ ")")) =
      .ok [inner.extend .compose n] := by
    have hprint := inner.spells_print hwords
    rw [hfinite.legible] at hprint
    have hspells := spells_extendText .compose n (spells_parenthesize hprint 0 1)
    have hlexed := hspells 0 true [] delimited_nil
    rw [List.append_nil, lexed.eq_1, if_pos rfl, Option.map_some, List.append_nil] at hlexed
    have hgroup := (inner.isPhrase hkeys hfinite).group (show inner.cost + 1 ≤ maxNesting by omega)
      (extendTokens .compose n [])
    -- behind the closing parenthesis all levels are there again for the second chain
    have hlevels : maxNesting - n - 1 + 1 + n = maxNesting := by omega
    have hfirst : Grammar.Chain .compose maxNesting (maxNesting - n - 1 + 1 + n)
        (encloseTokens 0 1 inner.tokens ++ extendTokens .compose n [])
        (extendTokens .compose n []) inner := by
      rw [hlevels]
      exact .first (.term (.first (.operand hgroup)))
    exact parse_eq_ok_iff.2 ⟨_, hlexed, .last .done (hfirst.extend (by rintro ⟨⟩))⟩
  refine ⟨_, hparse, ?_⟩
  rintro ⟨again, hread, hagrees⟩
  obtain ⟨hwords', hkeys'⟩ := contents_of_parse hparse
  have hfits := Nat.max_le.1 (finite_of_parse_printProgram hwords' hkeys' hread hagrees).2
  -- without the parentheses both chains are one, with too many operators
  have hoperators := Expr.operators_lt_cost .compose (inner.extend .compose n)
  rw [Expr.operators_extend, ← hinner, Expr.operators_extend] at hoperators
  rw [← hinner] at hfits
  have hcount : (Expr.name "x").operators .compose = 0 := rfl
  omega

end Storyweave.Language
