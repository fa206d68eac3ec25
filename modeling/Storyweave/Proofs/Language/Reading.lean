import Storyweave.Proofs.Language.Grammar

/-!
# The parser step by step

A reader returns what it read together with the evidence that fewer tokens are left. Here the
evidence is dropped, and each reader is given by equations: what it does on an opening token, on
an operator, on a closing symbol. The two operators are read alike, and so are the entries of
calls and of lists, so one equation serves both.
-/

namespace Storyweave.Language

/-- A sequence of two steps succeeds exactly if both do. -/
theorem bind_eq_ok_iff {ε α β : Type} {x : Except ε α} {f : α → Except ε β} {b : β} :
    x >>= f = .ok b ↔ ∃ a, x = .ok a ∧ f a = .ok b := by
  cases x with
  | error fault =>
    constructor
    · intro h; cases h
    · rintro ⟨a, h, -⟩; cases h
  | ok a =>
    constructor
    · intro h; exact ⟨a, rfl, h⟩
    · rintro ⟨a', h, hf⟩; cases h; exact hf

/-- The tokens without their places. -/
def kinds (ts : List Located) : List Token := ts.map Located.token

theorem kinds_eq_nil {ts : List Located} (h : kinds ts = []) : ts = [] := List.map_eq_nil_iff.1 h

theorem kinds_eq_cons {ts : List Located} {x : Token} {s : List Token} (h : kinds ts = x :: s) :
    ∃ place rest, ts = ⟨x, place⟩ :: rest ∧ kinds rest = s := by
  obtain ⟨first, rest, rfl, rfl, hs⟩ := List.map_eq_cons_iff.1 h
  exact ⟨first.position, rest, rfl, hs⟩

theorem eq_cons_of_head {ts : List Located} {x : Token} (h : (kinds ts).head? = some x) :
    ∃ place rest, ts = ⟨x, place⟩ :: rest := by
  obtain ⟨s, hs⟩ := List.head?_eq_some_iff.1 h
  obtain ⟨place, rest, hts, -⟩ := kinds_eq_cons hs
  exact ⟨place, rest, hts⟩

@[simp] theorem kinds_cons (x : Token) (place : Position) (ts : List Located) :
    kinds (⟨x, place⟩ :: ts) = x :: kinds ts := rfl

theorem exists_kinds (s : List Token) : ∃ ts, kinds ts = s := by
  refine ⟨s.map (⟨·, .start⟩), ?_⟩
  rw [kinds, List.map_map]
  exact List.map_id s

/-- What was read, and the tokens behind it. -/
def plain {α : Type} {n : Nat} (r : Except SyntaxError (Parsed α n)) :
    Except SyntaxError (α × List Located) :=
  r.map fun p => (p.value, p.rest)

theorem length_lt_of_plain {α : Type} {n : Nat} {r : Except SyntaxError (Parsed α n)} {a : α}
    {rest : List Located} (h : plain r = .ok (a, rest)) : rest.length < n := by
  cases r with
  | error fault => cases h
  | ok p => cases h; exact p.fits

theorem plain_bind {α β : Type} {m n : Nat} {x : Except SyntaxError (Parsed α m)}
    {f : Parsed α m → Except SyntaxError (Parsed β n)}
    {g : α × List Located → Except SyntaxError (β × List Located)}
    (h : ∀ p, plain (f p) = g (p.value, p.rest)) : plain (x >>= f) = plain x >>= g := by
  cases x with
  | error fault => rfl
  | ok p => exact h p

theorem plain_widen {α : Type} {m n : Nat} (h : Parsed α m → m ≤ n)
    (x : Except SyntaxError (Parsed α m)) :
    plain (x >>= fun p => pure (p.widen (h p))) = plain x := by
  cases x <;> rfl

section

variable (stop : Position)

/-! ## Chains of operators -/

/-- Reads what stands on one side of an operator. -/
def readLink (op : Operator) (b : Nat) (ts : List Located) :
    Except SyntaxError (Expr × List Located) :=
  match op with
  | .compose => plain (term stop b ts)
  | .dilute => plain (operand stop b ts)

/-- Reads a whole chain of an operator. -/
def readChain (op : Operator) (b : Nat) (ts : List Located) :
    Except SyntaxError (Expr × List Located) :=
  match op with
  | .compose => plain (expression stop b ts)
  | .dilute => plain (term stop b ts)

/-- Reads the rest of a chain behind its left side. -/
def readTail (op : Operator) (b : Nat) (left : Expr) (ts : List Located) :
    Except SyntaxError (Expr × List Located) :=
  match op with
  | .compose => plain (sum stop b left ts)
  | .dilute => plain (quotient stop b left ts)

theorem readChain_eq (op : Operator) (b : Nat) (ts : List Located) :
    readChain stop op b ts =
      readLink stop op b ts >>= fun left => readTail stop op b left.1 left.2 := by
  cases op with
  | compose =>
    simp only [readChain, readLink, readTail]
    rw [expression]
    exact plain_bind fun left => plain_widen _ _
  | dilute =>
    simp only [readChain, readLink, readTail]
    rw [term]
    exact plain_bind fun left => plain_widen _ _

/-- An operator is not read when no level is left for it. -/
theorem readTail_sign_zero (op : Operator) (left : Expr) (place : Position) (ts : List Located) :
    readTail stop op 0 left (⟨.symbol op.sign, place⟩ :: ts) = .error ⟨place, .tooDeep⟩ := by
  cases op with
  | compose => simp only [readTail, Operator.sign]; rw [sum]; rfl
  | dilute => simp only [readTail, Operator.sign]; rw [quotient]; rfl

/-- An operator takes one level from the rest of its chain. -/
theorem readTail_sign (op : Operator) (b : Nat) (left : Expr) (place : Position)
    (ts : List Located) :
    readTail stop op (b + 1) left (⟨.symbol op.sign, place⟩ :: ts) =
      readLink stop op b (skipNewlines ts) >>= fun right =>
        readTail stop op b (.binary op left right.1) right.2 := by
  cases op with
  | compose =>
    simp only [readTail, readLink, Operator.sign]
    rw [sum]
    exact plain_bind fun right => plain_widen _ _
  | dilute =>
    simp only [readTail, readLink, Operator.sign]
    rw [quotient]
    exact plain_bind fun right => plain_widen _ _

/-- A chain ends where its operator does not follow. -/
theorem readTail_end (op : Operator) (b : Nat) (left : Expr) {ts : List Located}
    (h : (kinds ts).head? ≠ some (.symbol op.sign)) :
    readTail stop op b left ts = .ok (left, ts) := by
  have hne : ∀ place rest, ts ≠ ⟨.symbol op.sign, place⟩ :: rest := by
    rintro place rest rfl
    exact h rfl
  cases op with
  | compose =>
    simp only [readTail]
    rw [sum]
    · rfl
    · exact hne
  | dilute =>
    simp only [readTail]
    rw [quotient]
    · rfl
    · exact hne

/-- A term is a chain of `/`. -/
theorem readLink_compose (b : Nat) (ts : List Located) :
    readLink stop .compose b ts = readChain stop .dilute b ts := rfl

/-! ## Entries of brackets -/

/-- What is missing where the entries of a bracket break off. -/
def Bracket.wanted : Bracket → Expectation
  | .call => .argumentEnd
  | .list => .itemEnd

/-- Reads one entry behind arguments with the keys `keys`. Lists have no keys. -/
def readEntry (k : Bracket) (keys : List String) (b : Nat) (ts : List Located) :
    Except SyntaxError ((Argument × List String) × List Located) :=
  match k with
  | .call => plain (argument stop (fun ts => expression stop b ts) keys ts)
  | .list => readChain stop .compose b ts >>= fun item => .ok ((.positional item.1, keys), item.2)

/-- Reads the entries of a bracket and its closing symbol. -/
def readEntries (k : Bracket) (keys : List String) (b : Nat) (ts : List Located) :
    Except SyntaxError (List Argument × List Located) :=
  match k with
  | .call =>
    plain (itemsUntil stop .closeParen .argumentEnd
      (argument stop (fun ts => expression stop b ts)) keys ts)
  | .list =>
    plain (itemsUntil stop .closeBracket .itemEnd (listItem (fun ts => expression stop b ts)) () ts)
      >>= fun items => .ok (items.1.map .positional, items.2)

theorem closing?_eq_some {close : Symbol} {ts : List Located} {closed : Parsed Unit ts.length}
    (h : closing? close ts = some closed) :
    ∃ place, ts = ⟨.symbol close, place⟩ :: closed.rest := by
  unfold closing? at h
  split at h
  · next mark place rest =>
    split at h
    · next hmark =>
      cases h
      exact ⟨place, by rw [hmark]⟩
    · cases h
  · cases h

theorem closing?_symbol (close : Symbol) (place : Position) (ts : List Located) :
    closing? close (⟨.symbol close, place⟩ :: ts) = some ⟨(), ts, Nat.lt_succ_self _⟩ := by
  simp [closing?]

theorem closing?_eq_none {close : Symbol} {ts : List Located}
    (h : (kinds ts).head? ≠ some (.symbol close)) : closing? close ts = none := by
  cases hc : closing? close ts with
  | none => rfl
  | some closed =>
    obtain ⟨place, hts⟩ := closing?_eq_some hc
    rw [hts] at h
    exact absurd rfl h

theorem plain_itemsUntil_close {α σ : Type} {close : Symbol} {wanted : Expectation}
    {item : σ → Reader (α × σ)} (state : σ) (place : Position) (ts : List Located) :
    plain (itemsUntil stop close wanted item state (⟨.symbol close, place⟩ :: ts)) =
      .ok ([], ts) := by
  rw [itemsUntil, closing?_symbol]
  rfl

theorem plain_itemsUntil_item {α σ : Type} {close : Symbol} {wanted : Expectation}
    {item : σ → Reader (α × σ)} (state : σ) {ts : List Located}
    (h : (kinds ts).head? ≠ some (.symbol close)) :
    plain (itemsUntil stop close wanted item state ts) =
      plain (item state ts) >>= fun first =>
        plain (skipComma stop close wanted first.2) >>= fun next =>
          plain (itemsUntil stop close wanted item first.1.2 next.2) >>= fun more =>
            .ok (first.1.1 :: more.1, more.2) := by
  rw [itemsUntil, closing?_eq_none h]
  refine plain_bind fun first => plain_bind fun next => ?_
  cases itemsUntil stop close wanted item first.value.2 next.rest <;> rfl

theorem plain_listItem (b : Nat) (ts : List Located) :
    plain (listItem (fun ts => expression stop b ts) () ts) =
      readChain stop .compose b ts >>= fun item => .ok ((item.1, ()), item.2) :=
  plain_bind fun _ => rfl

theorem readEntries_close (k : Bracket) (keys : List String) (b : Nat) (place : Position)
    (ts : List Located) :
    readEntries stop k keys b (⟨.symbol k.closing, place⟩ :: ts) = .ok ([], ts) := by
  cases k with
  | call => exact plain_itemsUntil_close stop keys place ts
  | list =>
    simp only [readEntries, Bracket.closing]
    rw [plain_itemsUntil_close]
    rfl

/-- What does not begin with the closing symbol begins with an entry. -/
theorem readEntries_item (k : Bracket) (keys : List String) (b : Nat) {ts : List Located}
    (h : (kinds ts).head? ≠ some (.symbol k.closing)) :
    readEntries stop k keys b ts =
      readEntry stop k keys b ts >>= fun first =>
        plain (skipComma stop k.closing k.wanted first.2) >>= fun next =>
          readEntries stop k first.1.2 b next.2 >>= fun others =>
            .ok (first.1.1 :: others.1, others.2) := by
  cases k with
  | call => exact plain_itemsUntil_item stop keys h
  | list =>
    have hlist : (kinds ts).head? ≠ some (.symbol .closeBracket) := h
    simp only [readEntries, readEntry]
    rw [plain_itemsUntil_item stop () hlist, plain_listItem]
    simp only [bind_assoc]
    rfl

theorem plain_skipComma_comma (close : Symbol) (wanted : Expectation) (place : Position)
    (ts : List Located) :
    plain (skipComma stop close wanted (⟨.symbol .comma, place⟩ :: ts)) = .ok ((), ts) := rfl

theorem plain_skipComma_close (k : Bracket) (wanted : Expectation) (place : Position)
    (ts : List Located) :
    plain (skipComma stop k.closing wanted (⟨.symbol k.closing, place⟩ :: ts)) =
      .ok ((), ⟨.symbol k.closing, place⟩ :: ts) := by
  cases k <;> rfl

/-- Behind an entry stands a comma or the closing symbol. -/
theorem skipComma_eq_ok {close : Symbol} {wanted : Expectation} {ts rest : List Located}
    (h : plain (skipComma stop close wanted ts) = .ok ((), rest)) :
    (∃ place, ts = ⟨.symbol .comma, place⟩ :: rest) ∨
      rest = ts ∧ ∃ place more, ts = ⟨.symbol close, place⟩ :: more := by
  unfold skipComma at h
  split at h
  · next mark place more =>
    split at h
    · next hcomma => cases h; exact .inl ⟨place, by rw [hcomma]⟩
    · split at h
      · next hclose => cases h; exact .inr ⟨rfl, place, more, by rw [hclose]⟩
      · cases h
  · cases h

theorem readEntry_list (keys : List String) (b : Nat) (ts : List Located) :
    readEntry stop .list keys b ts =
      readChain stop .compose b ts >>= fun item => .ok ((.positional item.1, keys), item.2) := rfl

/-- A key is read with its value, if no argument before has the same key. -/
theorem readEntry_keyword (keys : List String) (b : Nat) (key : String) (place place' : Position)
    (ts : List Located) :
    readEntry stop .call keys b (⟨.word key, place⟩ :: ⟨.symbol .equals, place'⟩ :: ts) =
      if key ∈ keys then .error ⟨place, .duplicateKeyword key⟩
      else readChain stop .compose b ts >>= fun value =>
        .ok ((.keyword key value.1, key :: keys), value.2) := by
  simp only [readEntry, argument]
  split
  · rfl
  · exact plain_bind fun _ => rfl

/-- An argument without a key is read if none before it has one. -/
theorem readEntry_positional (keys : List String) (b : Nat) {ts : List Located}
    (h : ¬Grammar.StartsKeyword (kinds ts)) :
    readEntry stop .call keys b ts =
      if keys.isEmpty then readChain stop .compose b ts >>= fun value =>
        .ok ((.positional value.1, keys), value.2)
      else .error (faultAt stop ts .positionalAfterKeyword) := by
  simp only [readEntry]
  rw [argument]
  · split
    · exact plain_bind fun _ => rfl
    · rfl
  · rintro key place place' rest rfl
    exact h ⟨key, kinds rest, rfl⟩

/-! ## Operands -/

theorem operand_zero (ts : List Located) :
    plain (operand stop 0 ts) = .error (faultAt stop ts .tooDeep) := by
  rw [operand]
  rfl

theorem operand_call (b : Nat) (kernel : String) (place place' : Position) (ts : List Located) :
    plain (operand stop (b + 1) (⟨.word kernel, place⟩ :: ⟨.symbol .openParen, place'⟩ :: ts)) =
      readEntries stop .call [] b ts >>= fun entries =>
        .ok (.call kernel (entries.1.filterMap Argument.positional?)
          (entries.1.filterMap Argument.keyword?), entries.2) := by
  rw [operand]
  exact plain_bind fun _ => rfl

theorem operand_name (b : Nat) (word : String) (place : Position) {ts : List Located}
    (h : (kinds ts).head? ≠ some (.symbol .openParen)) :
    plain (operand stop (b + 1) (⟨.word word, place⟩ :: ts)) = .ok (.name word, ts) := by
  rw [operand]
  · rfl
  · rintro place' rest rfl
    exact h rfl

theorem operand_number (b : Nat) (value : Float) (place : Position) (ts : List Located) :
    plain (operand stop (b + 1) (⟨.number value, place⟩ :: ts)) = .ok (.number value, ts) := by
  rw [operand]
  rfl

theorem operand_text (b : Nat) (value : String) (place : Position) (ts : List Located) :
    plain (operand stop (b + 1) (⟨.text value, place⟩ :: ts)) = .ok (.text value, ts) := by
  rw [operand]
  rfl

theorem filterMap_positional? (items : List Expr) :
    (items.map Argument.positional).filterMap Argument.positional? = items := by
  rw [List.filterMap_map]
  exact List.filterMap_some

theorem operand_list (b : Nat) (place : Position) (ts : List Located) :
    plain (operand stop (b + 1) (⟨.symbol .openBracket, place⟩ :: ts)) =
      readEntries stop .list [] b ts >>= fun entries =>
        .ok (.list (entries.1.filterMap Argument.positional?), entries.2) := by
  rw [operand]
  simp only [readEntries, bind_assoc]
  refine plain_bind fun items => ?_
  simp only [bind, Except.bind, filterMap_positional?]
  rfl

theorem operand_group (b : Nat) (place : Position) (ts : List Located) :
    plain (operand stop (b + 1) (⟨.symbol .openParen, place⟩ :: ts)) =
      readChain stop .compose b ts >>= fun inner =>
        match closing? .closeParen inner.2 with
        | some closed => .ok (inner.1, closed.rest)
        | none => .error (unexpected stop .closingParenthesis inner.2) := by
  rw [operand]
  refine plain_bind fun inner => ?_
  cases closing? .closeParen inner.rest <;> rfl

/-- What begins with no operand is refused. -/
theorem operand_unexpected (b : Nat) {ts : List Located}
    (h : ∀ x ∈ (kinds ts).head?, x.opensOperand = false) :
    plain (operand stop (b + 1) ts) = .error (unexpected stop .expression ts) := by
  cases ts with
  | nil => rw [operand]; rfl; all_goals simp
  | cons first rest =>
    have hfirst : first.token.opensOperand = false := h _ rfl
    obtain ⟨x, place⟩ := first
    cases x with
    | word name => cases hfirst
    | number value => cases hfirst
    | text value => cases hfirst
    | newline => rw [operand]; rfl; all_goals simp
    | symbol mark =>
      cases mark with
      | openParen => cases hfirst
      | openBracket => cases hfirst
      | _ => rw [operand]; rfl; all_goals simp

/-! ## Statements -/

theorem statements_nil {ts : List Located} (h : skipNewlines ts = []) :
    statements stop ts = .ok [] := by
  rw [statements]
  split
  · rfl
  · next hcons => rw [h] at hcons; cases hcons

theorem statements_cons {ts : List Located} (h : skipNewlines ts ≠ []) :
    statements stop ts =
      readChain stop .compose maxNesting (skipNewlines ts) >>= fun statement =>
        plain (skipLineEnd stop statement.2) >>= fun next =>
          statements stop next.2 >>= fun more => .ok (statement.1 :: more) := by
  rw [statements]
  split
  · next hnil => exact absurd hnil h
  · next first others hcons =>
    have hread : readChain stop .compose maxNesting (skipNewlines ts) =
        plain (expression stop maxNesting (first :: others)) := by
      rw [hcons]
      rfl
    rw [hread]
    cases expression stop maxNesting (first :: others) with
    | error fault => rfl
    | ok statement =>
      simp only [plain, bind, Except.bind, Except.map]
      cases skipLineEnd stop statement.rest <;> rfl

/-- A statement ends with its line or with the input. -/
theorem skipLineEnd_eq_ok {ts rest : List Located}
    (h : plain (skipLineEnd stop ts) = .ok ((), rest)) :
    (ts = [] ∧ rest = []) ∨ ∃ place, ts = ⟨.newline, place⟩ :: rest := by
  unfold skipLineEnd at h
  split at h
  · cases h; exact .inl ⟨rfl, rfl⟩
  · next place more => cases h; exact .inr ⟨place, rfl⟩
  · cases h

end

end Storyweave.Language
