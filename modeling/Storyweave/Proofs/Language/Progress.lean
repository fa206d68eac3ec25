import Storyweave.Proofs.Language.Offence
import Storyweave.Proofs.Language.RoundTrip

/-!
# Readers go forward

A reader takes tokens from the front and never goes back. So what it leaves is the end of what it
was given, and an error stands at one of these tokens or behind them. Results:
1. `Forward.bind`: one reader after the other goes forward if both do.
2. `forward_readChain`: so do the readers of expressions, whatever levels are left for them.
3. `placeOf_of_statements_error`, `placeOf_of_parseExpr_error`: the errors of a program, and of a
   single expression, stand where one of the tokens does, or at the end.
-/

namespace Storyweave.Language

/-- What a reader leaves of some tokens is an end of them, and so is what it fails in front of. -/
structure Forward {α : Type} (stop : Position) (ts : List Located)
    (r : Except SyntaxError (α × List Located)) : Prop where
  ok : ∀ {v rest}, r = .ok (v, rest) → rest <:+ ts
  error : ∀ {e}, r = .error e → ∃ rest, rest <:+ ts ∧ e.position = placeOf stop rest

section

variable {α β : Type} {stop : Position} {ts rest : List Located}

namespace Forward

theorem take {v : α} (h : rest <:+ ts) : Forward stop ts (.ok (v, rest)) where
  ok := by
    rintro _ _ ⟨⟩
    exact h
  error := by rintro _ ⟨⟩

theorem fail {e : SyntaxError} (h : rest <:+ ts) (hplace : e.position = placeOf stop rest) :
    Forward stop ts (.error e : Except SyntaxError (α × List Located)) where
  ok := by rintro _ _ ⟨⟩
  error := by
    rintro _ ⟨⟩
    exact ⟨rest, h, hplace⟩

theorem widen {r : Except SyntaxError (α × List Located)} (h : Forward stop rest r)
    (hrest : rest <:+ ts) : Forward stop ts r where
  ok hr := (h.ok hr).trans hrest
  error hr := by
    obtain ⟨behind, hbehind, hplace⟩ := h.error hr
    exact ⟨behind, hbehind.trans hrest, hplace⟩

theorem bind {r : Except SyntaxError (α × List Located)}
    {next : α × List Located → Except SyntaxError (β × List Located)} (h : Forward stop ts r)
    (hnext : ∀ v rest, r = .ok (v, rest) → Forward stop rest (next (v, rest))) :
    Forward stop ts (r >>= next) := by
  cases r with
  | error e =>
    obtain ⟨rest, hrest, hplace⟩ := h.error rfl
    exact fail hrest hplace
  | ok p => exact (hnext p.1 p.2 rfl).widen (h.ok rfl)

/-- What was read is made into something else. -/
theorem map {r : Except SyntaxError (α × List Located)} (h : Forward stop ts r) (f : α → β) :
    Forward stop ts (r >>= fun p => .ok (f p.1, p.2)) :=
  h.bind fun _ _ _ => take (List.suffix_refl _)

end Forward

/-! ## Chains -/

theorem skipNewlines_suffix (ts : List Located) : skipNewlines ts <:+ ts := by
  obtain ⟨breaks, hlines, -⟩ := exists_skipNewlines ts
  exact ⟨breaks, hlines.symm⟩

/-- Links of at most `b` levels are read forward. -/
def LinksForward (stop : Position) (op : Operator) (b : Nat) : Prop :=
  ∀ c ≤ b, ∀ ts, Forward stop ts (readLink stop op c ts)

theorem forward_readTail {op : Operator} {b : Nat} (hlinks : LinksForward stop op b) {c : Nat}
    (hc : c ≤ b) (left : Expr) (ts : List Located) :
    Forward stop ts (readTail stop op c left ts) := by
  induction c generalizing left ts with
  | zero =>
    by_cases hsign : (kinds ts).head? = some (.symbol op.sign)
    · obtain ⟨place, more, rfl⟩ := eq_cons_of_head hsign
      rw [readTail_sign_zero]
      exact .fail (List.suffix_refl _) rfl
    · rw [readTail_end stop op 0 left hsign]
      exact .take (List.suffix_refl _)
  | succ c ih =>
    have hc' := Nat.le_of_succ_le hc
    by_cases hsign : (kinds ts).head? = some (.symbol op.sign)
    · obtain ⟨place, more, rfl⟩ := eq_cons_of_head hsign
      have hlink := (hlinks c hc' (skipNewlines more)).widen (skipNewlines_suffix more)
      rw [readTail_sign]
      refine Forward.widen ?_ (List.suffix_cons _ more)
      exact hlink.bind fun right behind _ => ih hc' (.binary op left right) behind
    · rw [readTail_end stop op (c + 1) left hsign]
      exact .take (List.suffix_refl _)

theorem forward_readChain_of_links {op : Operator} {b : Nat} (hlinks : LinksForward stop op b)
    (ts : List Located) : Forward stop ts (readChain stop op b ts) := by
  rw [readChain_eq]
  exact (hlinks b (Nat.le_refl b) ts).bind fun left behind _ =>
    forward_readTail hlinks (Nat.le_refl b) left behind

theorem LinksForward.compose {b : Nat} (h : LinksForward stop .dilute b) :
    LinksForward stop .compose b :=
  fun _ hc ts => forward_readChain_of_links (fun d hd => h d (Nat.le_trans hd hc)) ts

/-! ## Entries of brackets -/

theorem forward_skipComma (close : Symbol) (wanted : Expectation) (ts : List Located) :
    Forward stop ts (plain (skipComma stop close wanted ts)) := by
  unfold skipComma
  split
  · split
    · exact .take (List.suffix_cons _ _)
    · split
      · exact .take (List.suffix_refl _)
      · exact .fail (List.suffix_refl _) rfl
  · exact .fail (List.suffix_refl _) rfl

section Entries

variable {b : Nat} (hchain : ∀ ts, Forward stop ts (readChain stop .compose b ts))
include hchain

theorem forward_readEntry (k : Bracket) (keys : List String) (ts : List Located) :
    Forward stop ts (readEntry stop k keys b ts) := by
  cases k with
  | list => exact (hchain ts).map fun item => (Argument.positional item, keys)
  | call =>
    by_cases hstart : Grammar.StartsKeyword (kinds ts)
    · obtain ⟨key, place, place', more, rfl⟩ := exists_of_startsKeyword hstart
      rw [readEntry_keyword]
      split
      · exact .fail (List.suffix_refl _) rfl
      · have hvalue := (hchain more).map fun value => (Argument.keyword key value, key :: keys)
        exact hvalue.widen ((List.suffix_cons _ more).trans (List.suffix_cons _ _))
    · rw [readEntry_positional stop keys b hstart]
      split
      · exact (hchain ts).map fun value => (Argument.positional value, keys)
      · exact .fail (List.suffix_refl _) rfl

theorem forward_readEntries (k : Bracket) (keys : List String) (ts : List Located) :
    Forward stop ts (readEntries stop k keys b ts) := by
  induction hn : ts.length using Nat.strongRecOn generalizing ts keys with
  | _ n ih =>
    by_cases hclose : (kinds ts).head? = some (.symbol k.closing)
    · obtain ⟨place, more, rfl⟩ := eq_cons_of_head hclose
      rw [readEntries_close]
      exact .take (List.suffix_cons _ more)
    · rw [readEntries_item stop k keys b hclose]
      refine (forward_readEntry hchain k keys ts).bind fun first behind hfirst => ?_
      refine (forward_skipComma k.closing k.wanted behind).bind fun _ next hnext => ?_
      -- an entry takes a token, so the other entries begin in a shorter list
      have hshort : next.length < n := by
        have hbehind := Grammar.length_lt_of_readEntry hfirst
        have hle := ((forward_skipComma k.closing k.wanted behind).ok hnext).length_le
        omega
      exact (ih _ hshort first.2 next rfl).map fun others => first.1 :: others

end Entries

/-! ## Operands -/

theorem forward_readClosing (inner : Expr) (ts : List Located) :
    Forward stop ts (readClosing stop inner ts) := by
  by_cases hclose : (kinds ts).head? = some (.symbol .closeParen)
  · obtain ⟨place, more, rfl⟩ := eq_cons_of_head hclose
    rw [readClosing_close]
    exact .take (List.suffix_cons _ more)
  · rw [readClosing, closing?_eq_none hclose]
    exact .fail (List.suffix_refl _) rfl

/-- An operand is read forward, if the expressions inside it are. -/
theorem forward_operand {b : Nat} (hchain : ∀ ts, Forward stop ts (readChain stop .compose b ts))
    (ts : List Located) : Forward stop ts (plain (operand stop (b + 1) ts)) := by
  have hunexpected (h : ∀ x ∈ (kinds ts).head?, x.opensOperand = false) :
      Forward stop ts (plain (operand stop (b + 1) ts)) := by
    rw [operand_unexpected stop b h]
    exact .fail (List.suffix_refl _) rfl
  cases ts with
  | nil => exact hunexpected (by simp [kinds])
  | cons first ts =>
    obtain ⟨x, place⟩ := first
    cases x with
    | number value =>
      rw [operand_number]
      exact .take (List.suffix_cons _ ts)
    | text value =>
      rw [operand_text]
      exact .take (List.suffix_cons _ ts)
    | newline => exact hunexpected (by simp [Token.opensOperand])
    | word word =>
      by_cases hcall : (kinds ts).head? = some (.symbol .openParen)
      · obtain ⟨place', more, rfl⟩ := eq_cons_of_head hcall
        have hentries := forward_readEntries hchain .call [] more
        rw [operand_call]
        refine Forward.widen ?_ ((List.suffix_cons _ more).trans (List.suffix_cons _ _))
        exact hentries.map fun entries => Expr.call word (entries.filterMap Argument.positional?)
          (entries.filterMap Argument.keyword?)
      · rw [operand_name stop b word place hcall]
        exact .take (List.suffix_cons _ ts)
    | symbol mark =>
      cases mark with
      | openBracket =>
        have hentries := forward_readEntries hchain .list [] ts
        rw [operand_list]
        refine Forward.widen ?_ (List.suffix_cons _ ts)
        exact hentries.map fun entries => Expr.list (entries.filterMap Argument.positional?)
      | openParen =>
        rw [operand_readClosing]
        refine Forward.widen ?_ (List.suffix_cons _ ts)
        exact (hchain ts).bind fun inner behind _ => forward_readClosing inner behind
      | _ => exact hunexpected (by simp [Token.opensOperand])

theorem linksForward_dilute (stop : Position) (b : Nat) : LinksForward stop .dilute b := by
  induction b with
  | zero =>
    intro c hc ts
    obtain rfl := Nat.le_zero.1 hc
    rw [readLink, operand_zero]
    exact .fail (List.suffix_refl _) rfl
  | succ b ih =>
    intro c hc ts
    rcases Nat.le_succ_iff.1 hc with hsmaller | rfl
    · exact ih c hsmaller ts
    · exact forward_operand (forward_readChain_of_links ih.compose) ts

/-- Expressions are read forward. -/
theorem forward_readChain (stop : Position) (b : Nat) (ts : List Located) :
    Forward stop ts (readChain stop .compose b ts) :=
  forward_readChain_of_links (linksForward_dilute stop b).compose ts

/-! ## Errors of sources -/

/-- An error of a program stands at one of its tokens, or at its end. -/
theorem placeOf_of_statements_error {e : SyntaxError} (h : statements stop ts = .error e) :
    ∃ rest, rest <:+ ts ∧ e.position = placeOf stop rest := by
  induction hn : ts.length using Nat.strongRecOn generalizing ts with
  | _ n ih =>
    by_cases hnil : skipNewlines ts = []
    · rw [statements_nil stop hnil] at h
      cases h
    rw [statements_cons stop hnil] at h
    have hchain := (forward_readChain stop maxNesting (skipNewlines ts)).widen
      (skipNewlines_suffix ts)
    rcases bind_eq_error_iff.1 h with he | ⟨⟨statement, behind⟩, hread, hbehind⟩
    · exact hchain.error he
    have hsuffix := hchain.ok hread
    rcases bind_eq_error_iff.1 hbehind with he | ⟨⟨_, next⟩, hnext, hmore⟩
    · obtain ⟨-, -, rfl⟩ := skipLineEnd_eq_error_iff.1 he
      exact ⟨behind, hsuffix, rfl⟩
    obtain he | ⟨_, _, ⟨⟩⟩ := bind_eq_error_iff.1 hmore
    rcases skipLineEnd_eq_ok stop hnext with ⟨-, rfl⟩ | ⟨place, rfl⟩
    · rw [statements_nil stop rfl] at he
      cases he
    · have hlater := (List.suffix_cons _ next).trans hsuffix
      have hshort : next.length < n := by
        have hle := hsuffix.length_le
        rw [List.length_cons] at hle
        omega
      obtain ⟨rest, hrest, hplace⟩ := ih _ hshort he rfl
      exact ⟨rest, hrest.trans hlater, hplace⟩

/-- So does an error of a single expression. -/
theorem placeOf_of_parseExpr_error {source : String} {stream : TokenStream} {e : SyntaxError}
    (htokens : tokens source = .ok stream) (h : parseExpr source = .error e) :
    ∃ rest, rest <:+ stream.tokens ∧ e.position = placeOf stream.stop rest := by
  rw [parseExpr_eq, htokens] at h
  obtain ⟨⟨⟩⟩ | ⟨_, ⟨⟩, hafter⟩ := bind_eq_error_iff.1 h
  have hchain := (forward_readChain stream.stop maxNesting (skipNewlines stream.tokens)).widen
    (skipNewlines_suffix stream.tokens)
  rcases bind_eq_error_iff.1 hafter with he | ⟨⟨only, behind⟩, hread, hbehind⟩
  · exact hchain.error he
  · dsimp only at hbehind
    split at hbehind
    · cases hbehind
    · cases hbehind
      exact ⟨_, (skipNewlines_suffix behind).trans (hchain.ok hread), rfl⟩

end

end Storyweave.Language
