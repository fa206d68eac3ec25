import Mathlib.Data.List.Basic
import Storyweave.Proofs.Language.Acceptance
import Storyweave.Proofs.Language.Places
import Storyweave.Proofs.Language.Viable

/-!
# The first token that does not fit

Results:
1. `viable_readEntries`, `viable_operand`, `viable_readChain`: expressions are read up to the first
   offence, whatever brackets and operators are open.
2. `statements_error`: so are programs.
3. `parse_error_at_first_offence`: the place of a syntax error tells up to where the tokens of a
   source can be continued to a program.
-/

namespace Storyweave.Language

section

variable {stop : Position} {fresh : Prop} {ts : List Located}

/-! ## Chains -/

/-- Links of at most `b` levels are read up to the first offence. -/
def LinksViable (stop : Position) (op : Operator) (b : Nat) : Prop :=
  ∀ c ≤ b, ∀ ts, Viable stop True (readLink stop op c) ts

theorem head_ne_newline_of_readChain {op : Operator} {b : Nat} {p : Expr × List Located}
    (h : readChain stop op b ts = .ok p) : (kinds ts).head? ≠ some .newline := by
  obtain ⟨c, hchain⟩ := Grammar.readChain_sound h
  exact hchain.opens.head_ne rfl

theorem head_ne_newline_of_readLink {op : Operator} {b : Nat} {p : Expr × List Located}
    (h : readLink stop op b ts = .ok p) : (kinds ts).head? ≠ some .newline := by
  cases op with
  | compose =>
    rw [readLink_compose] at h
    exact head_ne_newline_of_readChain h
  | dilute =>
    exact (Grammar.linksSound_dilute stop b b (Nat.le_refl b) _ _ _ h).opens.head_ne rfl

theorem closesExpression_sign (op : Operator) :
    Token.closesExpression (.symbol op.sign) = false := by
  cases op <;> rfl

/-- The rest of a chain ends where no operator follows. -/
theorem viable_readTail_end {op : Operator} {b : Nat} {left : Expr}
    (h : (kinds ts).head? ≠ some (.symbol op.sign)) :
    Viable stop fresh (readTail stop op b left) ts :=
  .take (w := []) fun _ hrest' =>
    readTail_end stop op b left (hrest'.head_ne (closesExpression_sign op) h)

/-- The rest of a chain is read up to the first offence. -/
theorem viable_readTail {op : Operator} {b : Nat} (hlinks : LinksViable stop op b) {c : Nat}
    (hc : c ≤ b) (left : Expr) (ts : List Located) :
    Viable stop False (readTail stop op c left) ts := by
  induction c generalizing left ts with
  | zero =>
    by_cases hsign : (kinds ts).head? = some (.symbol op.sign)
    · obtain ⟨place, more, rfl⟩ := eq_cons_of_head hsign
      exact .tooDeep (readTail_sign_zero stop op left place more) rfl
    · exact viable_readTail_end hsign
  | succ c ih =>
    by_cases hsign : (kinds ts).head? = some (.symbol op.sign)
    · obtain ⟨place, more, rfl⟩ := eq_cons_of_head hsign
      have hlink := (hlinks c (Nat.le_of_succ_le hc) (skipNewlines more)).skip
        fun _ _ => head_ne_newline_of_readLink
      have hmore := hlink.bind (c := [])
        (fun right behind _ => ih (Nat.le_of_succ_le hc) (.binary op left right) behind)
        (fun _ hclosed => hclosed) fun right behind hclosed =>
          ⟨_, readTail_end stop op c _ (hclosed.head_ne (closesExpression_sign op))⟩
      refine hmore.lead [⟨.symbol op.sign, place⟩] id fun ts => ?_
      rw [List.singleton_append, readTail_sign]
      exact (bind_pure _).symm
    · exact viable_readTail_end hsign

/-- So is a chain. -/
theorem viable_readChain_of_links {op : Operator} {b : Nat} (hlinks : LinksViable stop op b)
    (ts : List Located) : Viable stop True (readChain stop op b) ts := by
  have hchain : readChain stop op b = fun ts =>
      readLink stop op b ts >>= fun left => readTail stop op b left.1 left.2 :=
    funext (readChain_eq stop op b)
  rw [hchain]
  refine (hlinks b (Nat.le_refl b) ts).bind (c := [])
    (fun left behind _ => viable_readTail hlinks (Nat.le_refl b) left behind)
    (fun _ hclosed => hclosed) fun left behind hclosed => ?_
  exact ⟨_, readTail_end stop op b left (hclosed.head_ne (closesExpression_sign op))⟩

theorem LinksViable.compose {b : Nat} (h : LinksViable stop .dilute b) :
    LinksViable stop .compose b :=
  fun _ hc ts => viable_readChain_of_links (fun d hd => h d (Nat.le_trans hd hc)) ts

/-! ## Entries of brackets -/

/-- Where no level is left, no expression is read. -/
theorem readChain_zero (op : Operator) (ts : List Located) :
    readChain stop op 0 ts = .error (faultAt stop ts .tooDeep) := by
  have hdilute : readChain stop .dilute 0 ts = .error (faultAt stop ts .tooDeep) := by
    rw [readChain_eq, readLink, operand_zero]
    rfl
  cases op with
  | dilute => exact hdilute
  | compose =>
    rw [readChain_eq, readLink_compose, hdilute]
    rfl

/-- A name is an expression where neither a parenthesis nor an operator follows it. -/
theorem readChain_name (op : Operator) (b : Nat) (word : String) (place : Position)
    {ts : List Located} (hopen : (kinds ts).head? ≠ some (.symbol .openParen))
    (hsign : ∀ op : Operator, (kinds ts).head? ≠ some (.symbol op.sign)) :
    readChain stop op (b + 1) (⟨.word word, place⟩ :: ts) = .ok (.name word, ts) := by
  have hdilute : readChain stop .dilute (b + 1) (⟨.word word, place⟩ :: ts) =
      .ok (.name word, ts) := by
    rw [readChain_eq, readLink, operand_name stop b word place hopen]
    exact readTail_end stop .dilute (b + 1) _ (hsign .dilute)
  cases op with
  | dilute => exact hdilute
  | compose =>
    rw [readChain_eq, readLink_compose, hdilute]
    exact readTail_end stop .compose (b + 1) _ (hsign .compose)

theorem exists_of_startsKeyword {ts : List Located}
    (h : Grammar.StartsKeyword (kinds ts)) :
    ∃ key place place' more, ts = ⟨.word key, place⟩ :: ⟨.symbol .equals, place'⟩ :: more := by
  obtain ⟨key, s, hs⟩ := h
  obtain ⟨place, ts', rfl, hts'⟩ := kinds_eq_cons hs
  obtain ⟨place', more, rfl, -⟩ := kinds_eq_cons hts'
  exact ⟨key, place, place', more, rfl⟩

/-- In front of a key and an equals sign an expression ends before the equals sign. -/
theorem readChain_of_startsKeyword {b : Nat} {ts rest : List Located} {e : Expr}
    (hstart : Grammar.StartsKeyword (kinds ts))
    (h : readChain stop .compose b ts = .ok (e, rest)) :
    ∃ key place, ts = ⟨.word key, place⟩ :: rest ∧
      (kinds rest).head? = some (.symbol .equals) := by
  obtain ⟨key, place, place', more, rfl⟩ := exists_of_startsKeyword hstart
  cases b with
  | zero =>
    rw [readChain_zero] at h
    cases h
  | succ b =>
    rw [readChain_name .compose b key place (by rintro ⟨⟩) (by rintro (_ | _) ⟨⟩)] at h
    cases h
    exact ⟨key, place, rfl, rfl⟩

/-- What is read as an expression begins with a key only if an equals sign follows it. So it begins
with one in front of other tokens, too. -/
theorem startsKeyword_of_resumes {b : Nat} {w rest rest' : List Located} {e : Expr}
    (h : readChain stop .compose b (w ++ rest') = .ok (e, rest')) (hrest' : Resumes rest rest')
    (hstart : Grammar.StartsKeyword (kinds (w ++ rest'))) :
    Grammar.StartsKeyword (kinds (w ++ rest)) := by
  obtain ⟨key, place, hw, hequals'⟩ := readChain_of_startsKeyword hstart h
  obtain rfl : w = [⟨.word key, place⟩] := List.append_cancel_right hw
  by_cases hequals : (kinds rest).head? = some (.symbol .equals)
  · obtain ⟨place', more, rfl⟩ := eq_cons_of_head hequals
    exact ⟨key, kinds more, rfl⟩
  · exact absurd hequals' (hrest'.head_ne rfl hequals)

/-- Whether a key stands in front is decided by the first two tokens. -/
theorem SameStart.startsKeyword {ts ts' : List Located} (h : SameStart ts ts')
    (hstart : Grammar.StartsKeyword (kinds ts')) : Grammar.StartsKeyword (kinds ts) := by
  obtain ⟨key, s, hs⟩ := hstart
  rcases h with rfl | ⟨x, y, more, more', rfl, rfl⟩
  · exact ⟨key, s, hs⟩
  · injection hs with hx hs
    injection hs with hy
    exact ⟨key, kinds more, by rw [← hx, ← hy]; rfl⟩

theorem head_ne_closing_of_readEntry {k : Bracket} {b : Nat} {keys : List String}
    {p : (Argument × List String) × List Located} (h : readEntry stop k keys b ts = .ok p) :
    (kinds ts).head? ≠ some (.symbol k.closing) := by
  have hsound : Grammar.ExpressionsSound stop b := fun _ _ _ => Grammar.readChain_sound
  exact (Grammar.readEntry_sound hsound h).1.head_ne_closing

/-- What stands behind an entry: a comma and other entries, or the closing symbol. -/
def readBehind (stop : Position) (k : Bracket) (b : Nat) (first : Argument × List String)
    (ts : List Located) : Except SyntaxError (List Argument × List Located) :=
  plain (skipComma stop k.closing k.wanted ts) >>= fun next =>
    readEntries stop k first.2 b next.2 >>= fun others => .ok (first.1 :: others.1, others.2)

theorem readBehind_close (k : Bracket) (b : Nat) (first : Argument × List String)
    (place : Position) (ts : List Located) :
    readBehind stop k b first (⟨.symbol k.closing, place⟩ :: ts) = .ok ([first.1], ts) := by
  rw [readBehind, plain_skipComma_close]
  simp only [bind, Except.bind, readEntries_close]

/-- Nothing but a comma and the closing symbol stands behind an entry. -/
theorem readBehind_unexpected {k : Bracket} {b : Nat} {first : Argument × List String}
    (hcomma : (kinds ts).head? ≠ some (.symbol .comma))
    (hclose : (kinds ts).head? ≠ some (.symbol k.closing)) :
    readBehind stop k b first ts = .error (unexpected stop k.wanted ts) := by
  have hnext : skipComma stop k.closing k.wanted ts = .error (unexpected stop k.wanted ts) := by
    unfold skipComma
    split
    · next mark place rest =>
      rw [if_neg fun h => hcomma (by rw [h]; rfl), if_neg fun h => hclose (by rw [h]; rfl)]
    · rfl
  rw [readBehind, hnext]
  rfl

/-- What stands behind an entry is read up to the first offence, if the other entries are. -/
theorem viable_readBehind {k : Bracket} {b : Nat} {first : Argument × List String}
    (hothers : ∀ place more, ts = ⟨.symbol .comma, place⟩ :: more →
      Viable stop True (readEntries stop k first.2 b) more) :
    Viable stop False (readBehind stop k b first) ts := by
  by_cases hcomma : (kinds ts).head? = some (.symbol .comma)
  · obtain ⟨place, more, rfl⟩ := eq_cons_of_head hcomma
    exact (hothers place more rfl).lead [_] (first.1 :: ·) fun _ => rfl
  · by_cases hclose : (kinds ts).head? = some (.symbol k.closing)
    · obtain ⟨place, more, rfl⟩ := eq_cons_of_head hclose
      exact .take (w := [_]) fun rest' _ => readBehind_close k b first place rest'
    · exact .refuse (unexpected stop k.wanted)
        (fun ts' hts' => readBehind_unexpected (hts'.head_ne hcomma) (hts'.head_ne hclose)) rfl
        False.elim

section Entries

variable {b : Nat} (hchain : ∀ ts, Viable stop True (readChain stop .compose b) ts)
include hchain

/-- An entry is read up to the first offence. -/
theorem viable_readEntry (k : Bracket) (keys : List String) (ts : List Located) :
    Viable stop False (readEntry stop k keys b) ts := by
  cases k with
  | list => exact (hchain ts).lead [] (fun item => (.positional item, keys)) fun _ => rfl
  | call =>
    by_cases hstart : Grammar.StartsKeyword (kinds ts)
    · obtain ⟨key, place, place', more, rfl⟩ := exists_of_startsKeyword hstart
      by_cases htaken : key ∈ keys
      · -- the key is refused in front of the equals sign, whatever its value is
        have hread (ts : List Located) :=
          (readEntry_keyword stop keys b key place place' ts).trans (if_pos htaken)
        refine .refuse (fun _ => ⟨place, .duplicateKeyword key⟩) (fun ts' hts' => ?_) rfl False.elim
        obtain rfl | ⟨x, y, front, front', ⟨⟩, rfl⟩ := hts'
        · exact hread more
        · exact hread front'
      · refine (hchain more).lead [_, _] (fun value => (.keyword key value, key :: keys))
          fun ts => ?_
        exact (readEntry_keyword stop keys b key place place' ts).trans (if_neg htaken)
    · by_cases hkeys : keys.isEmpty
      · have hvalue : Viable stop False (fun ts => readChain stop .compose b ts >>= fun value =>
            .ok ((Argument.positional value.1, keys), value.2)) ts :=
          (hchain ts).lead [] (fun value => (.positional value, keys)) fun _ => rfl
        refine hvalue.congr (P := fun ts => ¬Grammar.StartsKeyword (kinds ts)) (fun ts hts => ?_)
          hstart (fun h hts' => mt hts'.startsKeyword h) ?_ ?_
        · rw [readEntry_positional stop keys b hts, if_pos hkeys]
        · intro w rest rest' v h hrest' hread
          obtain ⟨⟨value, behind⟩, hvalue, ⟨⟩⟩ := bind_eq_ok_iff.1 hread
          exact mt (startsKeyword_of_resumes hvalue hrest') h
        · intro ts v behind hbehind hread hkeyword
          obtain ⟨⟨value, behind⟩, hvalue, ⟨⟩⟩ := bind_eq_ok_iff.1 hread
          obtain ⟨-, -, -, hequals⟩ := readChain_of_startsKeyword hkeyword hvalue
          exact hbehind.head_ne rfl hequals
      · refine .refuse (faultAt stop · .positionalAfterKeyword) (fun ts' hts' => ?_) rfl False.elim
        exact (readEntry_positional stop keys b (mt hts'.startsKeyword hstart)).trans (if_neg hkeys)

/-- The entries of a bracket are read up to the first offence. -/
theorem viable_readEntries (k : Bracket) (keys : List String) (ts : List Located) :
    Viable stop True (readEntries stop k keys b) ts := by
  induction hn : ts.length using Nat.strongRecOn generalizing ts keys with
  | _ n ih =>
    have hclosed (place : Position) (behind : List Located) :=
      readEntries_close stop k keys b place behind
    refine .closable (c := [⟨.symbol k.closing, stop⟩]) ?_ fun behind _ => ⟨[], hclosed _ behind⟩
    by_cases hclose : (kinds ts).head? = some (.symbol k.closing)
    · obtain ⟨place, more, rfl⟩ := eq_cons_of_head hclose
      exact .take (w := [_]) fun rest' _ => hclosed place rest'
    · have hitems : Viable stop False (fun ts => readEntry stop k keys b ts >>= fun first =>
          readBehind stop k b first.1 first.2) ts := by
        refine (viable_readEntry hchain k keys ts).bind (c := [⟨.symbol k.closing, stop⟩])
          (fun first between hfirst => viable_readBehind fun place more hmore => ?_)
          (fun behind _ => closes_closing k stop behind)
          fun first behind _ => ⟨_, readBehind_close k b first stop behind⟩
        -- an entry takes a token, so the other entries begin in a shorter list
        have hshort := Grammar.length_lt_of_readEntry hfirst
        rw [hmore, hn] at hshort
        exact ih _ (Nat.lt_of_succ_lt hshort) _ _ rfl
      refine hitems.congr (P := fun ts => (kinds ts).head? ≠ some (.symbol k.closing))
        (fun ts => readEntries_item stop k keys b) hclose (fun h hts' => hts'.head_ne h)
        (fun _ _ hread => ?_) (fun _ hread => ?_)
      all_goals
        obtain ⟨first, hfirst, -⟩ := bind_eq_ok_iff.1 hread
        exact head_ne_closing_of_readEntry hfirst

end Entries

/-! ## Operands -/

/-- What stands behind the expression in a group. -/
def readClosing (stop : Position) (inner : Expr) (ts : List Located) :
    Except SyntaxError (Expr × List Located) :=
  match closing? .closeParen ts with
  | some closed => .ok (inner, closed.rest)
  | none => .error (unexpected stop .closingParenthesis ts)

theorem readClosing_close (inner : Expr) (place : Position) (ts : List Located) :
    readClosing stop inner (⟨.symbol .closeParen, place⟩ :: ts) = .ok (inner, ts) := by
  rw [readClosing, closing?_symbol]

theorem operand_readClosing (b : Nat) (place : Position) (ts : List Located) :
    plain (operand stop (b + 1) (⟨.symbol .openParen, place⟩ :: ts)) =
      readChain stop .compose b ts >>= fun inner => readClosing stop inner.1 inner.2 := by
  rw [operand_group]
  refine congrArg (readChain stop .compose b ts >>= ·) (funext fun inner => ?_)
  unfold readClosing
  cases closing? .closeParen inner.2 <;> rfl

theorem viable_readClosing (inner : Expr) (ts : List Located) :
    Viable stop False (readClosing stop inner) ts := by
  by_cases hclose : (kinds ts).head? = some (.symbol .closeParen)
  · obtain ⟨place, more, rfl⟩ := eq_cons_of_head hclose
    exact .take (w := [_]) fun rest' _ => readClosing_close inner place rest'
  · refine .refuse (unexpected stop .closingParenthesis) (fun ts' hts' => ?_) rfl False.elim
    rw [readClosing, closing?_eq_none (hts'.head_ne hclose)]

/-- An operand is read up to the first offence, if the expressions inside it are. -/
theorem viable_operand {b : Nat}
    (hchain : ∀ ts, Viable stop True (readChain stop .compose b) ts) (ts : List Located) :
    Viable stop True (fun ts => plain (operand stop (b + 1) ts)) ts := by
  have hunexpected (h : ∀ x ∈ (kinds ts).head?, x.opensOperand = false) :
      Viable stop True (fun ts => plain (operand stop (b + 1) ts)) ts := by
    refine .refuse (unexpected stop .expression) (fun ts' hts' => ?_) rfl fun _ => ?_
    · exact operand_unexpected stop b (by rwa [head?_kinds, hts'.head?, ← head?_kinds])
    · -- a text is an operand, whatever stands behind it
      exact ⟨[⟨.text "", stop⟩], fun behind _ => ⟨_, operand_text stop b "" stop behind⟩⟩
  cases ts with
  | nil => exact hunexpected (by simp [kinds])
  | cons first ts =>
    obtain ⟨x, place⟩ := first
    cases x with
    | number value => exact .take (w := [_]) fun rest' _ => operand_number stop b value place rest'
    | text value => exact .take (w := [_]) fun rest' _ => operand_text stop b value place rest'
    | newline => exact hunexpected (by simp [Token.opensOperand])
    | word word =>
      by_cases hcall : (kinds ts).head? = some (.symbol .openParen)
      · obtain ⟨place', more, rfl⟩ := eq_cons_of_head hcall
        exact (viable_readEntries hchain .call [] more).lead [_, _]
          (fun entries : List Argument => .call word (entries.filterMap Argument.positional?)
            (entries.filterMap Argument.keyword?))
          fun ts => operand_call stop b word place place' ts
      · exact .take (w := [_]) fun rest' hrest' =>
          operand_name stop b word place (hrest'.head_ne rfl hcall)
    | symbol mark =>
      cases mark with
      | openBracket =>
        exact (viable_readEntries hchain .list [] ts).lead [_]
          (fun entries : List Argument => .list (entries.filterMap Argument.positional?))
          fun ts => operand_list stop b place ts
      | openParen =>
        have hgroup : Viable stop True (fun ts => readChain stop .compose b ts >>= fun inner =>
            readClosing stop inner.1 inner.2) ts :=
          (hchain ts).bind (c := [⟨.symbol .closeParen, stop⟩])
            (fun inner behind _ => viable_readClosing inner behind)
            (fun behind _ => closes_closing .call stop behind)
            fun inner behind _ => ⟨inner, readClosing_close inner stop behind⟩
        refine hgroup.lead [⟨.symbol .openParen, place⟩] id fun ts => ?_
        rw [List.singleton_append, operand_readClosing]
        exact (bind_pure _).symm
      | _ => exact hunexpected (by simp [Token.opensOperand])

theorem linksViable_dilute (stop : Position) (b : Nat) : LinksViable stop .dilute b := by
  induction b with
  | zero =>
    intro c hc ts
    obtain rfl := Nat.le_zero.1 hc
    exact .tooDeep (operand_zero stop ts) rfl
  | succ b ih =>
    intro c hc ts
    rcases Nat.le_succ_iff.1 hc with hsmaller | rfl
    · exact ih c hsmaller ts
    · exact viable_operand (viable_readChain_of_links ih.compose) ts

/-- Expressions are read up to the first offence. -/
theorem viable_readChain (stop : Position) (b : Nat) (ts : List Located) :
    Viable stop True (readChain stop .compose b) ts :=
  viable_readChain_of_links (linksViable_dilute stop b).compose ts

/-! ## Statements -/

/-- What a statement is read of is read of the other lines, too. -/
theorem statements_line {statement : Expr} {behind : List Located}
    (h : readChain stop .compose maxNesting (skipNewlines ts) = .ok (statement, behind)) :
    statements stop ts = plain (skipLineEnd stop behind) >>= fun next =>
      statements stop next.2 >>= fun more => .ok (statement :: more) := by
  have hne : skipNewlines ts ≠ [] := by
    intro hnil
    obtain ⟨c, hchain⟩ := Grammar.readChain_sound h
    obtain ⟨x, s, hopens, -⟩ := hchain.opens
    rw [hnil] at hopens
    cases hopens
  rw [statements_cons stop hne, h]
  rfl

theorem statements_last {statement : Expr}
    (h : readChain stop .compose maxNesting (skipNewlines ts) = .ok (statement, [])) :
    statements stop ts = .ok [statement] := by
  have hnil : statements stop [] = .ok [] := statements_nil stop rfl
  rw [statements_line h]
  simp only [skipLineEnd, plain, Except.map, bind, Except.bind, hnil]

theorem statements_more {statement : Expr} {place : Position} {more : List Located}
    (h : readChain stop .compose maxNesting (skipNewlines ts) =
      .ok (statement, ⟨.newline, place⟩ :: more)) :
    statements stop ts = statements stop more >>= fun others => .ok (statement :: others) := by
  rw [statements_line h]
  rfl

theorem skipLineEnd_eq_error_iff {behind : List Located} {e : SyntaxError} :
    plain (skipLineEnd stop behind) = .error e ↔
      behind ≠ [] ∧ (kinds behind).head? ≠ some .newline ∧
        e = unexpected stop .endOfLine behind := by
  unfold skipLineEnd
  split
  · exact iff_of_false (by rintro ⟨⟩) fun h => h.1 rfl
  · exact iff_of_false (by rintro ⟨⟩) fun h => h.2.1 rfl
  · next hnil hline =>
    have hhead : (kinds behind).head? ≠ some .newline := by
      intro hnewline
      obtain ⟨place, more, rfl⟩ := eq_cons_of_head hnewline
      exact hline place more rfl
    constructor
    · rintro ⟨⟩
      exact ⟨hnil, hhead, rfl⟩
    · rintro ⟨-, -, rfl⟩
      rfl

/-- Behind a statement stands the end of its line, or nothing. -/
theorem statements_unexpected {statement : Expr} {behind : List Located}
    (h : readChain stop .compose maxNesting (skipNewlines ts) = .ok (statement, behind))
    (hne : behind ≠ []) (hline : (kinds behind).head? ≠ some .newline) :
    statements stop ts = .error (unexpected stop .endOfLine behind) := by
  rw [statements_line h, skipLineEnd_eq_error_iff.2 ⟨hne, hline, rfl⟩]
  rfl

/-- The first offence of a program stands in front of `rest`. The tokens before it can be continued
to a program. -/
structure Offends (stop : Position) (e : SyntaxError) (w rest : List Located) : Prop where
  place : e.position = placeOf stop rest
  refused : ∀ rest', SameStart rest rest' → ∃ e', statements stop (w ++ rest') = .error e'
  completed : ∃ c program, statements stop (w ++ c) = .ok program

/-- The first offence of a statement is the first one of the program. -/
theorem Breaks.offends {e : SyntaxError} {breaks w rest : List Located}
    (h : Breaks stop True (readChain stop .compose maxNesting) e w rest)
    (hskip : ∀ ts, (kinds ts).head? ≠ some .newline → skipNewlines (breaks ++ ts) = ts)
    (hne : w ++ rest ≠ []) (hhead : (kinds (w ++ rest)).head? ≠ some .newline) :
    Offends stop e (breaks ++ w) rest where
  place := h.place
  refused := by
    intro rest' hrest'
    obtain ⟨e', he'⟩ := h.refused rest' hrest'
    have hlines := hskip _ ((hrest'.append w).head_ne hhead)
    have hne' := (hrest'.append w).ne_nil hne
    rw [List.append_assoc, statements_cons stop (by rwa [hlines]), hlines, he']
    exact ⟨e', rfl⟩
  completed := by
    obtain ⟨c, hc⟩ := h.completed (.inl trivial)
    obtain ⟨statement, hread⟩ := hc [] closes_nil
    rw [List.append_nil] at hread
    have hlines := hskip _ (head_ne_newline_of_readChain hread)
    rw [← hlines] at hread
    exact ⟨c, [statement], by rw [List.append_assoc, statements_last hread]⟩

/-- Behind a statement, what is not the end of its line is an offence. -/
theorem offends_behind {statement : Expr} {w behind : List Located}
    (hread : ∀ behind', Resumes behind behind' →
      readChain stop .compose maxNesting (skipNewlines (w ++ behind')) = .ok (statement, behind'))
    (hne : behind ≠ []) (hline : (kinds behind).head? ≠ some .newline) :
    Offends stop (unexpected stop .endOfLine behind) w behind where
  place := rfl
  refused := by
    intro behind' hbehind'
    exact ⟨_, statements_unexpected (hread behind' (.inl hbehind'.head?)) (hbehind'.ne_nil hne)
      (hbehind'.head_ne hline)⟩
  completed := ⟨[], [statement], statements_last (hread [] (.inr closes_nil))⟩

/-- Behind the line of a statement, the first offence of the other lines is the first one of the
program. -/
theorem Offends.line {statement : Expr} {e : SyntaxError} {w w' rest : List Located}
    {place : Position}
    (hread : ∀ more, readChain stop .compose maxNesting
      (skipNewlines (w ++ ⟨.newline, place⟩ :: more)) = .ok (statement, ⟨.newline, place⟩ :: more))
    (h : Offends stop e w' rest) : Offends stop e (w ++ ⟨.newline, place⟩ :: w') rest where
  place := h.place
  refused := by
    intro rest' hrest'
    obtain ⟨e', he'⟩ := h.refused rest' hrest'
    rw [List.append_assoc, List.cons_append, statements_more (hread _), he']
    exact ⟨e', rfl⟩
  completed := by
    obtain ⟨c, program, hc⟩ := h.completed
    refine ⟨c, statement :: program, ?_⟩
    rw [List.append_assoc, List.cons_append, statements_more (hread _), hc]
    rfl

/-- A program is read up to the first offence. -/
theorem statements_error {e : SyntaxError} (h : statements stop ts = .error e)
    (hdeep : e.fault ≠ .tooDeep) : ∃ w rest, ts = w ++ rest ∧ Offends stop e w rest := by
  induction hn : ts.length using Nat.strongRecOn generalizing ts with
  | _ n ih =>
    obtain ⟨breaks, hlines, hhead, hskip⟩ := exists_skipNewlines ts
    by_cases hnil : skipNewlines ts = []
    · rw [statements_nil stop hnil] at h
      cases h
    rw [statements_cons stop hnil] at h
    have hviable := viable_readChain stop maxNesting (skipNewlines ts)
    rcases bind_eq_error_iff.1 h with he | ⟨⟨statement, behind⟩, hread, hbehind⟩
    · obtain ⟨w, rest, hw, hbreaks⟩ := hviable.error he hdeep
      rw [hw] at hnil hhead
      refine ⟨breaks ++ w, rest, ?_, hbreaks.offends hskip hnil hhead⟩
      rw [List.append_assoc, ← hw, ← hlines]
    · obtain ⟨w, hw, hmoves⟩ := hviable.ok hread
      have hts : ts = (breaks ++ w) ++ behind := by rw [List.append_assoc, ← hw, ← hlines]
      have hline (behind' : List Located) (h : Resumes behind behind') :
          readChain stop .compose maxNesting (skipNewlines ((breaks ++ w) ++ behind')) =
            .ok (statement, behind') := by
        have hread' := hmoves behind' h
        rw [List.append_assoc, hskip _ (head_ne_newline_of_readChain hread'), hread']
      rcases bind_eq_error_iff.1 hbehind with he | ⟨⟨_, next⟩, hnext, hmore⟩
      · obtain ⟨hne, hnewline, rfl⟩ := skipLineEnd_eq_error_iff.1 he
        exact ⟨breaks ++ w, behind, hts, offends_behind hline hne hnewline⟩
      · obtain he | ⟨_, _, ⟨⟩⟩ := bind_eq_error_iff.1 hmore
        rcases skipLineEnd_eq_ok stop hnext with ⟨-, rfl⟩ | ⟨place, rfl⟩
        · rw [statements_nil stop rfl] at he
          cases he
        · have hshort : next.length < n := by
            rw [← hn, hts, List.length_append, List.length_cons]
            omega
          obtain ⟨w', rest, rfl, hoffends⟩ := ih _ hshort he rfl
          refine ⟨_, rest, ?_, hoffends.line fun more => hline _ (.inl rfl)⟩
          simpa only [List.append_assoc, List.cons_append] using hts

end

theorem sameStart_take {rest more : List Located} (h : rest.length < 2 → more = []) :
    SameStart rest (rest.take 2 ++ more) := by
  match rest with
  | [] =>
    obtain rfl := h Nat.two_pos
    exact .inl rfl
  | [x] =>
    obtain rfl := h Nat.one_lt_two
    exact .inl rfl
  | x :: y :: behind => exact .inr ⟨x, y, behind, more, rfl, rfl⟩

/-- A syntax error other than too many levels stands at the place of one of the tokens, or at the
end. The tokens before it can be continued to a program. Those up to the one behind it cannot, and
all the tokens are no program if the end is one of these two. -/
theorem parse_error_at_first_offence {source : String} {stream : TokenStream} {e : SyntaxError}
    (htokens : tokens source = .ok stream) (h : parse source = .error e)
    (hdeep : e.fault ≠ .tooDeep) :
    ∃ before rest, stream.tokens = before ++ rest ∧ e.position = placeOf stream.stop rest ∧
      (∀ before' rest', stream.tokens = before' ++ rest' →
        e.position = placeOf stream.stop rest' → before' = before ∧ rest' = rest) ∧
      (∃ more program, statements stream.stop (before ++ more) = .ok program) ∧
      ∀ more, (rest.length < 2 → more = []) → ∀ program,
        statements stream.stop (before ++ (rest.take 2 ++ more)) ≠ .ok program := by
  have herror : statements stream.stop stream.tokens = .error e := by
    rwa [parse, htokens] at h
  obtain ⟨before, rest, hsplit, hoffends⟩ := statements_error herror hdeep
  refine ⟨before, rest, hsplit, hoffends.place, fun before' rest' hsplit' hplace => ?_,
    hoffends.completed, fun more hmore program hread => ?_⟩
  · exact eq_of_placeOf htokens hsplit' hsplit (hplace.symm.trans hoffends.place)
  · obtain ⟨e', he'⟩ := hoffends.refused _ (sameStart_take hmore)
    rw [he'] at hread
    cases hread

set_option maxRecDepth 1000 in
/-- Between Tim and Ann a comma is missing. Up to Tim the call can be completed. -/
theorem parse_error_at_missing_comma :
    ∃ stream, tokens "Play(Tim Ann)" = .ok stream ∧
      parse "Play(Tim Ann)" = .error ⟨⟨1, 10⟩, .expected .argumentEnd (some (.word "Ann"))⟩ ∧
      placeOf stream.stop (stream.tokens.drop 3) = ⟨1, 10⟩ ∧
      (∃ more program, statements stream.stop (stream.tokens.take 3 ++ more) = .ok program) ∧
      ∀ more program, statements stream.stop (stream.tokens.take 5 ++ more) ≠ .ok program := by
  have hparse : parse "Play(Tim Ann)" =
      .error ⟨⟨1, 10⟩, .expected .argumentEnd (some (.word "Ann"))⟩ := by cbv
  have hplaces : (tokens "Play(Tim Ann)").toOption.map TokenStream.places =
      some [⟨1, 1⟩, ⟨1, 5⟩, ⟨1, 6⟩, ⟨1, 10⟩, ⟨1, 13⟩, ⟨1, 14⟩] := by cbv
  cases htokens : tokens "Play(Tim Ann)" with
  | error e =>
    rw [htokens] at hplaces
    cases hplaces
  | ok stream =>
    rw [htokens] at hplaces
    have hplaces := Option.some.inj hplaces
    obtain ⟨before, rest, hsplit, hplace, hunique, hcompleted, hrefused⟩ :=
      parse_error_at_first_offence htokens hparse (by rintro ⟨⟩)
    have htake := (List.take_append_drop 3 stream.tokens).symm
    have hlength : stream.tokens.length = 5 := by
      simpa [TokenStream.places] using congrArg List.length hplaces
    have hann : placeOf stream.stop (stream.tokens.drop 3) = ⟨1, 10⟩ := by
      have hfourth := getElem?_places htake
      rw [List.length_take, hlength, hplaces] at hfourth
      exact (Option.some.inj hfourth).symm
    obtain ⟨rfl, rfl⟩ := hunique _ _ htake hann.symm
    refine ⟨stream, rfl, hparse, hann, hcompleted, fun more program => ?_⟩
    rw [List.take_add (i := 3) (j := 2), List.append_assoc]
    exact hrefused more (by simp [hlength]) program

end Storyweave.Language
