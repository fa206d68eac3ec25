import Storyweave.Proofs.Language.Acceptance
import Storyweave.Proofs.Language.Spelling

/-!
# The nesting of a printed expression

The levels that the parser spends on a printed expression can be read off its tree. Results:
1. `Expr.isPhrase`: within so many levels the tokens of an expression are a phrase of the grammar.
2. `Expr.isRefused`: within fewer levels the parser refuses them as nested too deeply.
-/

namespace Storyweave.Language

theorem Operator.precedence_bounds (op : Operator) : 0 < op.precedence ∧ op.precedence < 3 := by
  cases op <;> decide

theorem Expr.precedence_pos (e : Expr) : 0 < e.precedence := by
  cases e with
  | binary op _ _ => exact op.precedence_bounds.1
  | _ => exact Nat.zero_lt_succ 2

/-- The levels of an expression, with one for its parentheses if it needs them. -/
def encloseCost (precedence required cost : Nat) : Nat :=
  if precedence < required then cost + 1 else cost

namespace Expr

/-- How many operators of one kind an expression is a chain of. -/
def operators (op : Operator) : Expr → Nat
  | .binary other left _ => if other = op then left.operators op + 1 else 0
  | _ => 0

mutual

/-- How many levels the printed form of an expression takes: at each operand one for every operand
that is open there, itself included, and one for every operator already read in the chains around
it. -/
def cost : Expr → Nat
  | .call _ positional keywords => max (costAll positional) (costKeywords keywords) + 1
  | .binary op left right =>
    max (encloseCost left.precedence op.precedence (cost left))
      (left.operators op + 1 + encloseCost right.precedence (op.precedence + 1) (cost right))
  | .name _ => 1
  | .number _ => 1
  | .text _ => 1
  | .list items => costAll items + 1

/-- The most levels that one of some expressions takes. -/
def costAll : List Expr → Nat
  | [] => 0
  | first :: rest => max (cost first) (costAll rest)

/-- The most levels that the value of one of some keyword arguments takes. -/
def costKeywords : List (String × Expr) → Nat
  | [] => 0
  | (_, value) :: rest => max (cost value) (costKeywords rest)

end

theorem cost_pos (e : Expr) : 0 < e.cost := by
  cases e <;> simp only [cost] <;> omega

theorem costAll_le_iff {items : List Expr} {b : Nat} :
    costAll items ≤ b ↔ ∀ item ∈ items, item.cost ≤ b := by
  induction items with
  | nil => simp [costAll]
  | cons item rest ih => simp only [costAll, Nat.max_le, ih, List.forall_mem_cons]

theorem costKeywords_le_iff {keywords : List (String × Expr)} {b : Nat} :
    costKeywords keywords ≤ b ↔ ∀ k ∈ keywords, k.2.cost ≤ b := by
  induction keywords with
  | nil => simp [costKeywords]
  | cons k rest ih => simp only [costKeywords, Nat.max_le, ih, List.forall_mem_cons]

theorem cost_callArguments_le_iff {positional : List Expr} {keywords : List (String × Expr)}
    {b : Nat} : max (costAll positional) (costKeywords keywords) ≤ b ↔
      ∀ a ∈ callArguments positional keywords, a.value.cost ≤ b := by
  rw [Nat.max_le, costAll_le_iff, costKeywords_le_iff, forall_callArguments (P := (·.cost ≤ b))]

theorem cost_le_encloseCost (e : Expr) (required : Nat) :
    e.cost ≤ encloseCost e.precedence required e.cost := by
  unfold encloseCost
  split <;> omega

/-! ## The first tokens -/

theorem encloseTokens_opens {ts : List Token} (h : Opens ts) (precedence required : Nat) :
    Opens (encloseTokens precedence required ts) := by
  unfold encloseTokens
  split
  · exact ⟨_, _, rfl, rfl⟩
  · exact h

theorem tokens_opens (e : Expr) : Opens e.tokens := by
  cases e with
  | call _ _ _ => exact ⟨_, _, rfl, rfl⟩
  | binary op l r =>
    rw [tokens]
    exact (encloseTokens_opens l.tokens_opens l.precedence op.precedence).append _
  | name _ => exact ⟨_, _, rfl, rfl⟩
  | number x =>
    refine ⟨numberToken x, [], rfl, ?_⟩
    unfold numberToken
    split <;> rfl
  | text _ => exact ⟨_, _, rfl, rfl⟩
  | list _ => exact ⟨_, _, rfl, rfl⟩
termination_by structural e

/-- A printed expression is no keyword argument, whatever but an equals sign follows it. -/
theorem not_startsKeyword (e : Expr) {t : List Token} (ht : t.head? ≠ some (.symbol .equals)) :
    ¬Grammar.StartsKeyword (e.tokens ++ t) := by
  cases e with
  | binary op l r =>
    rw [tokens, List.append_assoc]
    unfold encloseTokens
    split
    · rintro ⟨key, s, hs⟩
      cases hs
    · exact l.not_startsKeyword (by cases op <;> rintro ⟨⟩)
  | name _ =>
    rintro ⟨key, s, hs⟩
    cases hs
    exact ht rfl
  | number x =>
    rw [tokens]
    unfold numberToken
    split
    · rintro ⟨key, s, hs⟩
      cases hs
    · rintro ⟨key, s, hs⟩
      cases hs
      exact ht rfl
  | _ =>
    rintro ⟨key, s, hs⟩
    cases hs
termination_by structural e

end Expr

/-! ## Phrases of the grammar -/

namespace Expr

open Grammar

/-- An expression with an operator outermost is a chain; what has none is an operand. -/
def Phrase (b : Nat) (s t : List Token) : Expr → Prop
  | .binary op l r => Chain op b (b - (binary op l r).operators op) s t (binary op l r)
  | e => Operand b s t e

theorem operators_eq_zero {e : Expr} {op : Operator} (h : e.precedence ≠ op.precedence) :
    e.operators op = 0 := by
  cases e with
  | binary other l r =>
    refine if_neg ?_
    rintro rfl
    exact h rfl
  | _ => rfl

theorem Phrase.operand {b : Nat} {s t : List Token} {e : Expr} (he : ¬e.precedence < 3)
    (h : Phrase b s t e) : Operand b s t e := by
  cases e with
  | binary op l r => exact absurd op.precedence_bounds.2 he
  | _ => exact h

theorem Phrase.term {b : Nat} {s t : List Token} {e : Expr} (he : ¬e.precedence < 2)
    (h : Phrase b s t e) : Chain .dilute b (b - e.operators .dilute) s t e := by
  cases e with
  | binary op l r =>
    cases op with
    | compose => exact absurd (Nat.lt_succ_self 1) he
    | dilute => exact h
  | _ => exact .first (.operand h)

theorem Phrase.expression {b : Nat} {s t : List Token} {e : Expr} (h : Phrase b s t e) :
    Chain .compose b (b - e.operators .compose) s t e := by
  cases e with
  | binary op l r =>
    cases op with
    | compose => exact h
    | dilute => exact .first (.term h)
  | _ => exact .first (.term (.first (.operand h)))

/-- Within enough levels, and if no parenthesis follows, the tokens of an expression are a
phrase. -/
def IsPhrase (e : Expr) : Prop :=
  ∀ b t, e.cost ≤ b → t.head? ≠ some (.symbol .openParen) → Phrase b (e.tokens ++ t) t e

theorem IsPhrase.group {e : Expr} (h : e.IsPhrase) {b : Nat} (hb : e.cost + 1 ≤ b)
    (t : List Token) :
    Operand b (.symbol .openParen :: (e.tokens ++ [.symbol .closeParen]) ++ t) t e := by
  obtain ⟨b, rfl⟩ := Nat.exists_eq_add_one.2 (Nat.zero_lt_of_lt hb)
  have hinner := (h b (.symbol .closeParen :: t) (by omega) (by rintro ⟨⟩)).expression
  rw [List.cons_append, List.append_assoc]
  exact .group hinner

/-- The left side of an operator, in parentheses if it needs them. -/
theorem IsPhrase.chain {e : Expr} (h : e.IsPhrase) (op : Operator) {b : Nat} {t : List Token}
    (hb : encloseCost e.precedence op.precedence e.cost ≤ b)
    (ht : t.head? ≠ some (.symbol .openParen)) :
    Chain op b (b - e.operators op)
      (encloseTokens e.precedence op.precedence e.tokens ++ t) t e := by
  unfold encloseTokens
  unfold encloseCost at hb
  split at hb
  · next hlow =>
    rw [if_pos hlow, operators_eq_zero (Nat.ne_of_lt hlow)]
    cases op with
    -- on the left only a sum is put in parentheses, and only if the operator is `/`
    | compose => exact absurd hlow (Nat.not_lt.2 e.precedence_pos)
    | dilute => exact .first (.operand (h.group hb t))
  · next hhigh =>
    rw [if_neg hhigh]
    cases op with
    | compose => exact (h b t hb ht).expression
    | dilute => exact (h b t hb ht).term hhigh

/-- The right side of an operator, in parentheses if it needs them. -/
theorem IsPhrase.link {e : Expr} (h : e.IsPhrase) (op : Operator) {b : Nat} {t : List Token}
    (hb : encloseCost e.precedence (op.precedence + 1) e.cost ≤ b)
    (ht : t.head? ≠ some (.symbol .openParen)) :
    Link op b (encloseTokens e.precedence (op.precedence + 1) e.tokens ++ t) t e := by
  cases op with
  | compose => exact .term (h.chain .dilute hb ht)
  | dilute =>
    unfold encloseTokens
    unfold encloseCost at hb
    split at hb
    · next hlow =>
      rw [if_pos hlow]
      exact .operand (h.group hb t)
    · next hhigh =>
      rw [if_neg hhigh]
      exact .operand ((h b t hb ht).operand hhigh)

end Expr

/-- The tokens of a printed argument. -/
def Argument.tokens : Argument → List Token
  | .positional value => value.tokens
  | .keyword key value => .word key :: .symbol .equals :: value.tokens

theorem Argument.head_ne_closing (a : Argument) (k : Bracket) (t : List Token) :
    (a.tokens ++ t).head? ≠ some (.symbol k.closing) := by
  cases a with
  | keyword key value => rintro ⟨⟩
  | positional value =>
    refine (value.tokens_opens.append t).head_ne ?_
    cases k <;> rfl

namespace Expr

open Grammar

theorem tokensAll_eq (items : List Expr) :
    tokensAll items = (items.map Argument.positional).map Argument.tokens := by
  induction items with
  | nil => rfl
  | cons item rest ih => rw [tokensAll, ih]; rfl

theorem tokensKeywords_eq (keywords : List (String × Expr)) :
    tokensKeywords keywords =
      (keywords.map fun k => Argument.keyword k.1 k.2).map Argument.tokens := by
  induction keywords with
  | nil => rfl
  | cons k rest ih => rw [tokensKeywords, ih]; rfl

theorem tokens_callArguments (positional : List Expr) (keywords : List (String × Expr)) :
    tokensAll positional ++ tokensKeywords keywords =
      (callArguments positional keywords).map Argument.tokens := by
  rw [tokensAll_eq, tokensKeywords_eq, callArguments, List.map_append]

/-- What stands behind an entry: a comma or the closing symbol. -/
def BehindEntry (k : Bracket) (t : List Token) : Prop :=
  ∃ s, t = .symbol .comma :: s ∨ t = .symbol k.closing :: s

theorem BehindEntry.head_ne {k : Bracket} {t : List Token} (h : BehindEntry k t) {mark : Symbol}
    (hcomma : mark ≠ .comma) (hclose : mark ≠ k.closing) : t.head? ≠ some (.symbol mark) := by
  rcases h with ⟨s, rfl | rfl⟩
  · rintro ⟨⟩
    exact hcomma rfl
  · rintro ⟨⟩
    exact hclose rfl

theorem IsPhrase.entry {k : Bracket} {a : Argument} (h : a.value.IsPhrase)
    (hkey : k = .list → ∃ e, a = .positional e) {b : Nat} (hb : a.value.cost ≤ b) {t : List Token}
    (ht : BehindEntry k t) : Entry k b (a.tokens ++ t) t a := by
  have hchain := (h b t hb (ht.head_ne (by rintro ⟨⟩) (by cases k <;> rintro ⟨⟩))).expression
  cases a with
  | keyword key value =>
    cases k with
    | list =>
      obtain ⟨e, he⟩ := hkey rfl
      cases he
    | call => exact .keyword hchain
  | positional value =>
    cases k with
    | list => exact .item hchain
    | call =>
      have hhead : t.head? ≠ some (.symbol .equals) := ht.head_ne (by rintro ⟨⟩) (by rintro ⟨⟩)
      exact .positional (not_startsKeyword value hhead) hchain

/-- Entries with commas between them, if each of them is one wherever it stands. -/
theorem entries_of_entry {k : Bracket} {b : Nat} (t : List Token) : ∀ {entries : List Argument},
    (∀ a ∈ entries, ∀ t, BehindEntry k t → Entry k b (a.tokens ++ t) t a) →
      Entries k b (commaTokens (entries.map Argument.tokens) ++ .symbol k.closing :: t) t entries
  | [], _ => .close
  | [a], h => .last (h a List.mem_cons_self _ ⟨t, .inr rfl⟩)
  | a :: second :: rest, h => by
    have hrest := entries_of_entry t fun x hx => h x (List.mem_cons_of_mem a hx)
    have hfirst := h a List.mem_cons_self
      (.symbol .comma :: (commaTokens ((second :: rest).map Argument.tokens) ++
        .symbol k.closing :: t)) ⟨_, .inl rfl⟩
    have htokens : commaTokens ((a :: second :: rest).map Argument.tokens) ++
        .symbol k.closing :: t = a.tokens ++ .symbol .comma ::
          (commaTokens ((second :: rest).map Argument.tokens) ++ .symbol k.closing :: t) := by
      rw [← List.cons_append, ← List.append_assoc]
      rfl
    rw [htokens]
    exact .more hfirst hrest

theorem exists_of_mem_items {items : List Expr} {a : Argument}
    (h : a ∈ items.map Argument.positional) : ∃ e, a = .positional e := by
  obtain ⟨item, -, rfl⟩ := List.mem_map.1 h
  exact ⟨item, rfl⟩

mutual

/-- Within as many levels as its cost, the tokens of an expression are a phrase. -/
theorem isPhrase : ∀ e : Expr, e.KeysDistinct → NumbersFinite e.atoms → e.IsPhrase
  | .call kernel p w, hkeys, hfinite, b, t, hb, _ => by
    rw [cost] at hb
    obtain ⟨b, rfl⟩ := Nat.exists_eq_add_one.2 (Nat.zero_lt_of_lt hb)
    have hphrases := forall_callArguments.2 ⟨isPhrase_all p hkeys.2.1 hfinite.tail.left,
      isPhrase_keywords w hkeys.2.2 hfinite.tail.right⟩
    have hcosts := cost_callArguments_le_iff.1 (Nat.le_of_succ_le_succ hb)
    have hentries := @entries_of_entry .call b t (callArguments p w) fun a ha _ ht =>
      (hphrases a ha).entry (by rintro ⟨⟩) (hcosts a ha) ht
    show Operand _ (tokens _ ++ t) t _
    rw [tokens, tokens_callArguments, List.cons_append, List.cons_append, List.append_assoc]
    exact .call hentries hkeys.1
  | .binary op l r, hkeys, hfinite, b, t, hb, ht => by
    rw [cost] at hb
    have hpos := r.cost_pos
    have hcost := r.cost_le_encloseCost (op.precedence + 1)
    have hleft := (isPhrase l hkeys.1 hfinite.left).chain op
      (show encloseCost l.precedence op.precedence l.cost ≤ b by omega)
      (show (.symbol op.sign :: (encloseTokens r.precedence (op.precedence + 1) r.tokens ++
        t)).head? ≠ some (.symbol .openParen) by cases op <;> rintro ⟨⟩)
    have hright := (isPhrase r hkeys.2 hfinite.right).link op
      (show encloseCost r.precedence (op.precedence + 1) r.cost ≤ b - (l.operators op + 1) by omega)
      ht
    -- the operator takes one of the levels that its left side has left
    have hlevels : b - l.operators op = b - (l.operators op + 1) + 1 := by omega
    rw [hlevels] at hleft
    show Chain op b (b - (binary op l r).operators op) _ t _
    rw [operators, if_pos rfl, tokens, List.append_assoc]
    exact .next hleft .done hright
  | .name _, _, _, b, t, hb, ht => by
    rw [cost] at hb
    obtain ⟨b, rfl⟩ := Nat.exists_eq_add_one.2 (Nat.zero_lt_of_lt hb)
    exact Operand.name ht
  | .number x, _, hfinite, b, t, hb, _ => by
    rw [cost] at hb
    obtain ⟨b, rfl⟩ := Nat.exists_eq_add_one.2 (Nat.zero_lt_of_lt hb)
    show Operand (b + 1) ([numberToken x] ++ t) t _
    rw [numberToken, if_pos (hfinite x List.mem_cons_self)]
    exact .number
  | .text _, _, _, b, t, hb, _ => by
    rw [cost] at hb
    obtain ⟨b, rfl⟩ := Nat.exists_eq_add_one.2 (Nat.zero_lt_of_lt hb)
    exact Operand.text
  | .list items, hkeys, hfinite, b, t, hb, _ => by
    rw [cost] at hb
    obtain ⟨b, rfl⟩ := Nat.exists_eq_add_one.2 (Nat.zero_lt_of_lt hb)
    have hphrases := forall_items.2 (isPhrase_all items hkeys hfinite)
    have hcosts := forall_items.2 (costAll_le_iff.1 (Nat.le_of_succ_le_succ hb))
    have hentries := @entries_of_entry .list b t (items.map .positional) fun a ha _ ht =>
      (hphrases a ha).entry (fun _ => exists_of_mem_items ha) (hcosts a ha) ht
    show Operand _ (tokens _ ++ t) t _
    rw [tokens, tokensAll_eq, List.cons_append, List.append_assoc]
    exact .list hentries

theorem isPhrase_all : ∀ items : List Expr, KeysDistinctAll items →
    NumbersFinite (atomsAll items) → ∀ item ∈ items, item.IsPhrase
  | [], _, _ => nofun
  | first :: rest, hkeys, hfinite => List.forall_mem_cons.2
    ⟨isPhrase first hkeys.1 hfinite.left, isPhrase_all rest hkeys.2 hfinite.right⟩

theorem isPhrase_keywords : ∀ keywords : List (String × Expr), KeysDistinctKeywords keywords →
    NumbersFinite (atomsKeywords keywords) → ∀ k ∈ keywords, k.2.IsPhrase
  | [], _, _ => nofun
  | (_, value) :: rest, hkeys, hfinite => List.forall_mem_cons.2
    ⟨isPhrase value hkeys.1 hfinite.tail.left, isPhrase_keywords rest hkeys.2 hfinite.tail.right⟩

end

end Expr

/-! ## Expressions that are nested too deeply -/

/-- Reading ends because no level is left. -/
def TooDeep {α : Type} (r : Except SyntaxError α) : Prop := ∃ place, r = .error ⟨place, .tooDeep⟩

theorem TooDeep.bind {α β : Type} {r : Except SyntaxError α} (h : TooDeep r)
    (f : α → Except SyntaxError β) : TooDeep (r >>= f) := by
  obtain ⟨place, rfl⟩ := h
  exact ⟨place, rfl⟩

namespace Expr

open Grammar

section

variable (stop : Position)

/-- The counterpart of a phrase: reading it ends because no level is left. -/
def Refusal (b : Nat) (ts : List Located) : Expr → Prop
  | .binary op _ _ => TooDeep (readChain stop op b ts)
  | _ => TooDeep (plain (operand stop b ts))

/-- Within too few levels the tokens of an expression are refused. -/
def IsRefused (e : Expr) : Prop :=
  ∀ b ts t, b < e.cost → kinds ts = e.tokens ++ t → Refusal stop b ts e

variable {stop}

theorem tooDeep_readChain {op : Operator} {b : Nat} {ts : List Located}
    (h : TooDeep (readLink stop op b ts)) : TooDeep (readChain stop op b ts) := by
  rw [readChain_eq]
  exact h.bind _

theorem Refusal.operand {b : Nat} {ts : List Located} {e : Expr} (he : ¬e.precedence < 3)
    (h : Refusal stop b ts e) : TooDeep (plain (operand stop b ts)) := by
  cases e with
  | binary op l r => exact absurd op.precedence_bounds.2 he
  | _ => exact h

theorem Refusal.term {b : Nat} {ts : List Located} {e : Expr} (he : ¬e.precedence < 2)
    (h : Refusal stop b ts e) : TooDeep (readChain stop .dilute b ts) := by
  cases e with
  | binary op l r =>
    cases op with
    | compose => exact absurd (Nat.lt_succ_self 1) he
    | dilute => exact h
  | _ => exact tooDeep_readChain h

theorem Refusal.expression {b : Nat} {ts : List Located} {e : Expr} (h : Refusal stop b ts e) :
    TooDeep (readChain stop .compose b ts) := by
  cases e with
  | binary op l r =>
    cases op with
    | compose => exact h
    | dilute => exact tooDeep_readChain h
  | _ =>
    have hterm : TooDeep (readChain stop .dilute b ts) := tooDeep_readChain h
    exact tooDeep_readChain hterm

theorem IsRefused.group {e : Expr} (h : e.IsRefused stop) {b : Nat} (hb : b < e.cost + 1)
    {ts : List Located} {t : List Token}
    (hts : kinds ts = .symbol .openParen :: (e.tokens ++ [.symbol .closeParen]) ++ t) :
    TooDeep (plain (Language.operand stop b ts)) := by
  cases b with
  | zero =>
    rw [operand_zero]
    exact ⟨_, rfl⟩
  | succ b =>
    obtain ⟨place, inside, rfl, hinside⟩ := kinds_eq_cons hts
    rw [operand_group]
    have htokens := hinside.trans (List.append_assoc e.tokens _ t)
    exact (h b inside _ (by omega) htokens).expression.bind _

theorem IsRefused.chain {e : Expr} (h : e.IsRefused stop) (op : Operator) {b : Nat}
    (hb : b < encloseCost e.precedence op.precedence e.cost) {ts : List Located} {t : List Token}
    (hts : kinds ts = encloseTokens e.precedence op.precedence e.tokens ++ t) :
    TooDeep (readChain stop op b ts) := by
  unfold encloseTokens at hts
  unfold encloseCost at hb
  split at hb
  · next hlow =>
    rw [if_pos hlow] at hts
    cases op with
    | compose => exact absurd hlow (Nat.not_lt.2 e.precedence_pos)
    | dilute => exact tooDeep_readChain (h.group hb hts)
  · next hhigh =>
    rw [if_neg hhigh] at hts
    cases op with
    | compose => exact (h b ts t hb hts).expression
    | dilute => exact (h b ts t hb hts).term hhigh

theorem IsRefused.link {e : Expr} (h : e.IsRefused stop) (op : Operator) {b : Nat}
    (hb : b < encloseCost e.precedence (op.precedence + 1) e.cost) {ts : List Located}
    {t : List Token}
    (hts : kinds ts = encloseTokens e.precedence (op.precedence + 1) e.tokens ++ t) :
    TooDeep (readLink stop op b ts) := by
  cases op with
  | compose => exact h.chain .dilute hb hts
  | dilute =>
    unfold encloseTokens at hts
    unfold encloseCost at hb
    split at hb
    · next hlow =>
      rw [if_pos hlow] at hts
      exact h.group hb hts
    · next hhigh =>
      rw [if_neg hhigh] at hts
      exact (h b ts t hb hts).operand hhigh

/-- An argument is refused because its value is. -/
theorem IsRefused.entry {k : Bracket} {a : Argument} {others : List Argument} {keys : List String}
    (h : a.value.IsRefused stop) (hfits : Fits k keys (a :: others)) {b : Nat}
    (hb : b < a.value.cost) {ts : List Located} {t : List Token} (hts : kinds ts = a.tokens ++ t)
    (ht : t.head? ≠ some (.symbol .equals)) : TooDeep (readEntry stop k keys b ts) := by
  cases a with
  | keyword key value =>
    obtain ⟨rfl, hkey, -⟩ := hfits
    obtain ⟨place, ts', rfl, hts'⟩ := kinds_eq_cons hts
    obtain ⟨place', inside, rfl, hinside⟩ := kinds_eq_cons hts'
    rw [readEntry_keyword, if_neg hkey]
    exact (h b inside t hb hinside).expression.bind _
  | positional value =>
    have hread := (h b ts t hb hts).expression
    cases k with
    | list =>
      rw [readEntry_list]
      exact hread.bind _
    | call =>
      have hstart : ¬StartsKeyword (kinds ts) := by
        rw [hts]
        exact not_startsKeyword value ht
      rw [readEntry_positional stop keys b hstart, if_pos (List.isEmpty_iff.2 (hfits.1 rfl))]
      exact hread.bind _

/-- Entries are refused because one of them is and those before it are read. -/
theorem tooDeep_readEntries {k : Bracket} {b : Nat} (t : List Token) :
    ∀ {entries : List Argument} {keys : List String} {ts : List Located},
    (∀ a ∈ entries, a.value.IsPhrase ∧ a.value.IsRefused stop ∧
      (k = .list → ∃ e, a = .positional e)) →
    (∃ a ∈ entries, b < a.value.cost) → Fits k keys entries →
    kinds ts = commaTokens (entries.map Argument.tokens) ++ .symbol k.closing :: t →
      TooDeep (readEntries stop k keys b ts)
  | [], _, _, _, hdeep, _, _ => by
    obtain ⟨a, ha, -⟩ := hdeep
    cases ha
  | a :: others, keys, ts, hentries, hdeep, hfits, hts => by
    obtain ⟨⟨hphrase, hrefused, hkey⟩, hothers⟩ := List.forall_mem_cons.1 hentries
    obtain ⟨rest, hrest, hbehind⟩ : ∃ rest, kinds ts = a.tokens ++ rest ∧ BehindEntry k rest := by
      cases others with
      | nil => exact ⟨_, hts, t, .inr rfl⟩
      | cons second more => exact ⟨_, hts.trans (List.append_assoc _ _ _), _, .inl rfl⟩
    have hhead : (kinds ts).head? ≠ some (.symbol k.closing) := by
      rw [hrest]
      exact a.head_ne_closing k rest
    rw [readEntries_item stop k keys b hhead]
    by_cases hfirst : b < a.value.cost
    · have hequals : rest.head? ≠ some (.symbol .equals) :=
        hbehind.head_ne (by rintro ⟨⟩) (by cases k <;> rintro ⟨⟩)
      exact (hrefused.entry hfits hfirst hrest hequals).bind _
    · obtain ⟨last, keys', hlast, hread, hfits'⟩ :=
        (hphrase.entry hkey (Nat.not_lt.1 hfirst) hbehind).reads stop
          (fun op => hbehind.head_ne (by cases op <;> rintro ⟨⟩)
            (by cases k <;> cases op <;> rintro ⟨⟩)) keys others hfits ts hrest
      -- the first entry is read, so the one that is too deep comes later
      obtain ⟨deep, hmem, hcost⟩ := hdeep
      rcases List.mem_cons.1 hmem with rfl | hmem
      · exact absurd hcost hfirst
      · cases others with
        | nil => cases hmem
        | cons second more =>
          have hcomma : kinds last = .symbol .comma ::
              (commaTokens ((second :: more).map Argument.tokens) ++ .symbol k.closing :: t) := by
            have hsame := hrest.symm.trans (hts.trans (List.append_assoc _ _ _))
            rw [hlast]
            exact List.append_cancel_left hsame
          obtain ⟨place, next, rfl, hnext⟩ := kinds_eq_cons hcomma
          have hdeeper := tooDeep_readEntries t hothers ⟨deep, hmem, hcost⟩ hfits' hnext
          rw [hread]
          simp only [bind, Except.bind, plain_skipComma_comma]
          exact hdeeper.bind _

variable (stop)

mutual

/-- Within fewer levels than its cost, the tokens of an expression are refused. -/
theorem isRefused : ∀ e : Expr, e.KeysDistinct → NumbersFinite e.atoms → e.IsRefused stop
  | .call kernel p w, hkeys, hfinite, b, ts, t, hb, hts => by
    cases b with
    | zero => exact ⟨_, operand_zero stop ts⟩
    | succ b =>
      rw [tokens, tokens_callArguments] at hts
      obtain ⟨place, ts', rfl, hts'⟩ := kinds_eq_cons hts
      obtain ⟨place', inside, rfl, hinside⟩ := kinds_eq_cons hts'
      have hphrases := forall_callArguments.2 ⟨isPhrase_all p hkeys.2.1 hfinite.tail.left,
        isPhrase_keywords w hkeys.2.2 hfinite.tail.right⟩
      have hrefused := forall_callArguments.2 ⟨isRefused_all p hkeys.2.1 hfinite.tail.left,
        isRefused_keywords w hkeys.2.2 hfinite.tail.right⟩
      -- one of the arguments has the cost of the call without its own level
      have hdeep : ∃ a ∈ callArguments p w, b < a.value.cost := by
        have hmax := mt cost_callArguments_le_iff.2 (Nat.not_le.2 (Nat.lt_of_succ_lt_succ hb))
        simpa using hmax
      have hentries := tooDeep_readEntries t
        (fun a ha => ⟨hphrases a ha, hrefused a ha, by rintro ⟨⟩⟩) hdeep
        (fits_callArguments.2 hkeys.1) (hinside.trans (List.append_assoc _ _ _))
      show TooDeep (plain (Language.operand _ _ _))
      rw [operand_call]
      exact hentries.bind _
  | .binary op l r, hkeys, hfinite, b, ts, t, hb, hts => by
    show TooDeep (readChain stop op b ts)
    rw [tokens, List.append_assoc] at hts
    by_cases hleft : b < encloseCost l.precedence op.precedence l.cost
    · exact (isRefused l hkeys.1 hfinite.left).chain op hleft hts
    · -- the left side is read, and no level is left for the operator or for its right side
      rw [cost] at hb
      have hchain := (isPhrase l hkeys.1 hfinite.left).chain op (Nat.not_lt.1 hleft)
        (show (.symbol op.sign :: (encloseTokens r.precedence (op.precedence + 1) r.tokens ++
          t)).head? ≠ some (.symbol .openParen) by cases op <;> rintro ⟨⟩)
      obtain ⟨rest, hrest, hread⟩ := hchain.reads stop (closed_sign _ _) ts hts
      obtain ⟨place, more, rfl, hmore⟩ := kinds_eq_cons hrest
      rw [hread]
      cases hlevels : b - l.operators op with
      | zero => exact ⟨place, readTail_sign_zero stop op l place more⟩
      | succ c =>
        rw [readTail_sign]
        have hopens := encloseTokens_opens r.tokens_opens r.precedence (op.precedence + 1)
        have hline : (kinds more).head? ≠ some .newline := by
          rw [hmore]
          exact (hopens.append t).head_ne rfl
        have hskip := (kinds_skipNewlines .done hline).trans hmore
        have hright : c < encloseCost r.precedence (op.precedence + 1) r.cost := by omega
        exact ((isRefused r hkeys.2 hfinite.right).link op hright hskip).bind _
  | .name _, _, _, b, ts, t, hb, hts => by
    obtain rfl : b = 0 := Nat.lt_one_iff.1 hb
    exact ⟨_, operand_zero stop ts⟩
  | .number _, _, _, b, ts, _, hb, _ => by
    obtain rfl : b = 0 := Nat.lt_one_iff.1 hb
    exact ⟨_, operand_zero stop ts⟩
  | .text _, _, _, b, ts, _, hb, _ => by
    obtain rfl : b = 0 := Nat.lt_one_iff.1 hb
    exact ⟨_, operand_zero stop ts⟩
  | .list items, hkeys, hfinite, b, ts, t, hb, hts => by
    cases b with
    | zero => exact ⟨_, operand_zero stop ts⟩
    | succ b =>
      rw [tokens, tokensAll_eq] at hts
      obtain ⟨place, inside, rfl, hinside⟩ := kinds_eq_cons hts
      have hphrases := forall_items.2 (isPhrase_all items hkeys hfinite)
      have hrefused := forall_items.2 (isRefused_all items hkeys hfinite)
      have hdeep : ∃ a ∈ items.map Argument.positional, b < a.value.cost := by
        have hmax := mt costAll_le_iff.2 (Nat.not_le.2 (Nat.lt_of_succ_lt_succ hb))
        rw [← forall_items] at hmax
        simpa using hmax
      have hentries := tooDeep_readEntries t
        (fun a ha => ⟨hphrases a ha, hrefused a ha, fun _ => exists_of_mem_items ha⟩) hdeep
        (fits_items [] items) (hinside.trans (List.append_assoc _ _ _))
      show TooDeep (plain (Language.operand _ _ _))
      rw [operand_list]
      exact hentries.bind _

theorem isRefused_all : ∀ items : List Expr, KeysDistinctAll items →
    NumbersFinite (atomsAll items) → ∀ item ∈ items, item.IsRefused stop
  | [], _, _ => nofun
  | first :: rest, hkeys, hfinite => List.forall_mem_cons.2
    ⟨isRefused first hkeys.1 hfinite.left, isRefused_all rest hkeys.2 hfinite.right⟩

theorem isRefused_keywords : ∀ keywords : List (String × Expr), KeysDistinctKeywords keywords →
    NumbersFinite (atomsKeywords keywords) → ∀ k ∈ keywords, k.2.IsRefused stop
  | [], _, _ => nofun
  | (_, value) :: rest, hkeys, hfinite => List.forall_mem_cons.2
    ⟨isRefused value hkeys.1 hfinite.tail.left,
      isRefused_keywords rest hkeys.2 hfinite.tail.right⟩

end

end

end Expr

/-! ## Printed programs -/

namespace Grammar

theorem LineBreaks.eq_of_head_ne {s t : List Token} (h : LineBreaks s t)
    (hs : s.head? ≠ some .newline) : t = s := by
  cases h with
  | done => rfl
  | skip _ => exact absurd rfl hs

end Grammar

namespace Expr

open Grammar

/-- If the tokens of an expression are read, then within at least as many levels as its cost. -/
theorem cost_le_of_chain {e other : Expr} (hkeys : e.KeysDistinct) (hfinite : NumbersFinite e.atoms)
    {b c : Nat} {s t : List Token} (h : Chain .compose b c (e.tokens ++ s) t other)
    (ht : ∀ op : Operator, t.head? ≠ some (.symbol op.sign)) : e.cost ≤ b := by
  obtain ⟨ts, hts⟩ := exists_kinds (e.tokens ++ s)
  obtain ⟨rest, rfl, hread⟩ := h.reads_end .start ht hts
  -- with fewer levels the parser would refuse what it has read
  refine Nat.not_lt.1 fun hdeep => ?_
  obtain ⟨place, hrefused⟩ :=
    (e.isRefused .start hkeys hfinite b ts s hdeep hts).expression
  rw [hread] at hrefused
  cases hrefused

/-- Within as many levels as its cost, a printed program is one of the grammar. -/
theorem program_tokens : ∀ program : List Expr, KeysDistinctAll program →
    NumbersFinite (atomsAll program) → costAll program ≤ maxNesting →
      Program (programTokens program) program
  | [], _, _, _ => .blank .done
  | [only], hkeys, hfinite, hcost => by
    have hphrase := only.isPhrase hkeys.1 hfinite.left maxNesting []
      (Nat.le_trans (Nat.le_max_left _ _) hcost) (by rintro ⟨⟩)
    have hchain := hphrase.expression
    rw [List.append_nil] at hchain
    exact .last .done hchain
  | first :: second :: rest, hkeys, hfinite, hcost => by
    have hphrase := first.isPhrase hkeys.1 hfinite.left maxNesting
      (.newline :: programTokens (second :: rest)) (Nat.le_trans (Nat.le_max_left _ _) hcost)
      (by rintro ⟨⟩)
    exact .more .done hphrase.expression (program_tokens (second :: rest) hkeys.2 hfinite.right
      (Nat.le_trans (Nat.le_max_right _ _) hcost))

/-- What is read as a program begins with a statement, with nothing or another program behind. -/
theorem exists_statement {e : Expr} {s : List Token} {again : List Expr}
    (h : Program (e.tokens ++ s) again) : ∃ c t other,
      Chain .compose maxNesting c (e.tokens ++ s) t other ∧
        (∀ op : Operator, t.head? ≠ some (.symbol op.sign)) ∧
        (t = [] ∨ ∃ more others, t = .newline :: more ∧ Program more others) := by
  have hopens := e.tokens_opens.append s
  have hline : (e.tokens ++ s).head? ≠ some .newline := hopens.head_ne rfl
  cases h with
  | blank hbreaks =>
    obtain ⟨x, s', hx, -⟩ := hopens
    rw [hx] at hbreaks hline
    cases hbreaks.eq_of_head_ne hline
  | last hbreaks hchain =>
    rw [hbreaks.eq_of_head_ne hline] at hchain
    exact ⟨_, _, _, hchain, by rintro op ⟨⟩, .inl rfl⟩
  | more hbreaks hchain hothers =>
    rw [hbreaks.eq_of_head_ne hline] at hchain
    exact ⟨_, _, _, hchain, by rintro op ⟨⟩, .inr ⟨_, _, rfl, hothers⟩⟩

/-- If a printed program is read as anything, then within at least as many levels as its cost. -/
theorem costAll_le_of_program : ∀ {program again : List Expr}, KeysDistinctAll program →
    NumbersFinite (atomsAll program) → Program (programTokens program) again →
      costAll program ≤ maxNesting
  | [], _, _, _, _ => Nat.zero_le _
  | [only], again, hkeys, hfinite, h => by
    rw [programTokens, ← List.append_nil only.tokens] at h
    obtain ⟨c, t, other, hchain, ht, -⟩ := exists_statement h
    have hcost := cost_le_of_chain hkeys.1 hfinite.left hchain ht
    exact Nat.max_le.2 ⟨hcost, Nat.zero_le _⟩
  | first :: second :: rest, again, hkeys, hfinite, h => by
    obtain ⟨c, t, other, hchain, ht, hbehind⟩ := @exists_statement first _ _ h
    have hcost := cost_le_of_chain hkeys.1 hfinite.left hchain ht
    -- the first statement is read as itself, so the others are read behind its line
    have hphrase := first.isPhrase hkeys.1 hfinite.left maxNesting
      (.newline :: programTokens (second :: rest)) hcost (by rintro ⟨⟩)
    obtain ⟨rfl, -⟩ := hchain.unique ht hphrase.expression (by rintro op ⟨⟩)
    rcases hbehind with hnil | ⟨more, others, hmore, hothers⟩
    · cases hnil
    · cases hmore
      exact Nat.max_le.2 ⟨hcost, costAll_le_of_program hkeys.2 hfinite.right hothers⟩

end Expr

end Storyweave.Language
