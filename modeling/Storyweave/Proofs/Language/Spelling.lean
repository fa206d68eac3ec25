import Storyweave.Proofs.Language.Contents
import Storyweave.Proofs.Language.Lexemes

/-!
# The tokens of a printed expression

`Expr.tokens` is what an expression is printed as, token by token. Results:
1. `spells_print`: the printed text of an expression is read as these tokens, if its words are
   names. A negative infinity is printed as something that is no token.
2. `atomsOf_tokens`: the atoms of the tokens are those of the expression, but for numbers that are
   not finite: their text is read as a word.
3. `lexed_printProgram`: the same for a program.
-/

namespace Storyweave.Language

open Storyweave.Text

/-! ## Tokens of a printed form -/

/-- Tokens in parentheses if they bind less tightly than `required`. -/
def encloseTokens (precedence required : Nat) (ts : List Token) : List Token :=
  if precedence < required then .symbol .openParen :: (ts ++ [.symbol .closeParen]) else ts

/-- Tokens with commas between them. -/
def commaTokens : List (List Token) → List Token
  | [] => []
  | [only] => only
  | first :: rest => first ++ .symbol .comma :: commaTokens rest

/-- The token that the text of a number is read as: a word if the number is not finite. -/
def numberToken (x : Float) : Token :=
  if x.isFinite then .number x else .word (Number.text x)

namespace Expr

mutual

/-- The tokens of a printed expression. -/
def tokens : Expr → List Token
  | .call kernel positional keywords =>
    .word kernel :: .symbol .openParen ::
      (commaTokens (tokensAll positional ++ tokensKeywords keywords) ++ [.symbol .closeParen])
  | .binary op left right =>
    encloseTokens left.precedence op.precedence (tokens left) ++
      .symbol op.sign :: encloseTokens right.precedence (op.precedence + 1) (tokens right)
  | .name word => [.word word]
  | .number value => [numberToken value]
  | .text value => [.text value]
  | .list items =>
    .symbol .openBracket :: (commaTokens (tokensAll items) ++ [.symbol .closeBracket])

/-- The tokens of some printed expressions. -/
def tokensAll : List Expr → List (List Token)
  | [] => []
  | first :: rest => tokens first :: tokensAll rest

/-- The tokens of some printed keyword arguments. -/
def tokensKeywords : List (String × Expr) → List (List Token)
  | [] => []
  | (key, value) :: rest => (.word key :: .symbol .equals :: tokens value) :: tokensKeywords rest

end

end Expr

/-- The tokens of a printed program. -/
def programTokens : List Expr → List Token
  | [] => []
  | [only] => only.tokens
  | first :: rest => first.tokens ++ .newline :: programTokens rest

/-! ## Spellings -/

/-- Whether the text of an atom is made of tokens: that of a negative infinity is not. -/
def Token.legible : Token → Bool
  | .number x => !(x.isInf && Number.isNegative x)
  | _ => true

/-- A text spells some tokens wherever it stands, if it is legible; else nothing is read there. -/
def Spells (text : String) (legible : Bool) (ts : List Token) : Prop :=
  ∀ depth fresh rest, Delimited rest →
    lexed ⟨depth, fresh⟩ (text.toList ++ rest) =
      if legible then (lexed ⟨depth, false⟩ rest).map (ts ++ ·) else none

/-- Each text spells the tokens in its place. -/
inductive SpellsAll : List String → Bool → List (List Token) → Prop
  | nil : SpellsAll [] true []
  | cons {text : String} {legible others : Bool} {ts : List Token} {texts : List String}
      {rest : List (List Token)} :
      Spells text legible ts → SpellsAll texts others rest →
      SpellsAll (text :: texts) (legible && others) (ts :: rest)

theorem SpellsAll.append {texts texts' : List String} {ok ok' : Bool} {tss tss' : List (List Token)}
    (h : SpellsAll texts ok tss) (h' : SpellsAll texts' ok' tss') :
    SpellsAll (texts ++ texts') (ok && ok') (tss ++ tss') := by
  induction h with
  | nil => exact h'
  | cons hfirst _ ih =>
    rw [Bool.and_assoc]
    exact .cons hfirst ih

theorem delimited_nil : Delimited [] := nofun

theorem delimited_cons {c : Char} (h : continuesName c = false ∧ c ≠ '.') (rest : List Char) :
    Delimited (c :: rest) := by
  rintro _ ⟨⟩
  exact h

theorem spells_word {word : String} (h : IsName word) : Spells word true [.word word] :=
  fun depth fresh _ hrest => lexed_word h depth fresh hrest

theorem spells_text (value : String) : Spells (quote value) true [.text value] :=
  fun depth fresh rest _ => lexed_text value depth fresh rest

theorem isName_nan : IsName "NaN" :=
  ⟨'N', ['a', 'N'], rfl, by decide, List.all_eq_true.1 (by decide)⟩

theorem isName_inf : IsName "inf" :=
  ⟨'i', ['n', 'f'], rfl, by decide, List.all_eq_true.1 (by decide)⟩

/-- A finite number is a token of its own. -/
theorem spells_finite {x : Float} (h : x.isFinite = true) :
    Spells (Number.text x) true [.number x] := by
  intro depth fresh rest hrest
  have htext : (Number.text x).toList = Number.chars x := String.toList_ofList
  obtain ⟨hnumeral, hvalue⟩ := Number.numeral_chars h
  rw [htext, lexed_number hnumeral depth fresh hrest, hvalue]
  rfl

theorem text_of_isNaN {x : Float} (h : x.isNaN = true) : Number.text x = "NaN" := by
  rw [Number.text, Number.chars, if_pos h]
  rfl

theorem text_of_isInf {x : Float} (hnan : ¬x.isNaN = true) (hinf : x.isInf = true) :
    Number.text x = if Number.isNegative x then "-inf" else "inf" := by
  rw [Number.text, Number.chars, if_neg hnan, if_pos hinf]
  split <;> rfl

/-- A minus sign that no digit follows is no token. -/
theorem spells_negative_infinity (ts : List Token) : Spells "-inf" false ts := by
  intro depth fresh rest _
  show lexed _ ('-' :: 'i' :: 'n' :: 'f' :: rest) = none
  rw [lexed]
  rfl

/-- A finite number is a token of its own, and a number that is not finite a word, or nothing. -/
theorem spells_number (x : Float) :
    Spells (Number.text x) (Token.number x).legible [numberToken x] := by
  by_cases hfinite : x.isFinite = true
  · have hinf : x.isInf = false := by
      rw [Number.isFinite_eq, Bool.not_eq_true', Bool.or_eq_false_iff] at hfinite
      exact hfinite.2
    rw [numberToken, if_pos hfinite, Token.legible, hinf]
    exact spells_finite hfinite
  · rw [numberToken, if_neg hfinite]
    by_cases hnan : x.isNaN = true
    · rw [text_of_isNaN hnan, Token.legible, Number.isInf_eq_false_of_isNaN hnan]
      exact spells_word isName_nan
    · have hinf : x.isInf = true := by
        rw [Number.isFinite_eq, Bool.eq_false_iff.2 hnan, Bool.false_or,
          Bool.not_eq_true', Bool.not_eq_false] at hfinite
        exact hfinite
      rw [text_of_isInf hnan hinf, Token.legible, hinf]
      cases Number.isNegative x with
      | false => exact spells_word isName_inf
      | true => exact spells_negative_infinity _

/-! ## Spellings of expressions -/

/-- A text between two brackets. The inner text ends where the closing bracket stands. -/
theorem lexed_enclosed {opening closing : Char} {left right : Symbol}
    (hleft : Symbol.ofChar? opening = some left) (hright : Symbol.ofChar? closing = some right)
    (hopen : ∀ depth, Layout.depthAfter depth left = depth + 1)
    (hclose : ∀ depth, Layout.depthAfter (depth + 1) right = depth)
    {inner : List Char} {legible : Bool} {ts : List Token} {depth : Nat} (fresh : Bool)
    {rest : List Char}
    (h : lexed ⟨depth + 1, false⟩ (inner ++ closing :: rest) =
      if legible then (lexed ⟨depth + 1, false⟩ (closing :: rest)).map (ts ++ ·) else none) :
    lexed ⟨depth, fresh⟩ (opening :: (inner ++ closing :: rest)) =
      if legible then
        (lexed ⟨depth, false⟩ rest).map (.symbol left :: (ts ++ [.symbol right]) ++ ·)
      else none := by
  rw [lexed_symbol hleft, hopen, h]
  cases legible with
  | false => rfl
  | true =>
    rw [if_pos rfl, if_pos rfl, lexed_symbol hright, hclose, Option.map_map, Option.map_map]
    simp [Function.comp_def]

theorem spells_parenthesize {text : String} {legible : Bool} {ts : List Token}
    (h : Spells text legible ts) (precedence required : Nat) :
    Spells (parenthesize precedence required text) legible
      (encloseTokens precedence required ts) := by
  unfold parenthesize encloseTokens
  split
  · intro depth fresh rest _
    have hinner := h (depth + 1) false (')' :: rest) (delimited_cons (by decide) rest)
    have hwhole := @lexed_enclosed '(' ')' _ _ rfl rfl (fun _ => rfl) (fun _ => rfl) _ _ _ _ fresh
      _ hinner
    simpa [String.toList_append] using hwhole
  · exact h

theorem spells_binary {left right : String} {ok ok' : Bool} {ts ts' : List Token} (op : Operator)
    (hleft : Spells left ok ts) (hright : Spells right ok' ts') :
    Spells (left ++ " " ++ op.symbol ++ " " ++ right) (ok && ok')
      (ts ++ .symbol op.sign :: ts') := by
  intro depth fresh rest hrest
  obtain ⟨c, hsymbol, hsign⟩ : ∃ c, op.symbol.toList = [c] ∧ Symbol.ofChar? c = some op.sign := by
    cases op <;> exact ⟨_, rfl, rfl⟩
  have hdepth : Layout.depthAfter depth op.sign = depth := by cases op <;> rfl
  have hspaced : (left ++ " " ++ op.symbol ++ " " ++ right).toList ++ rest =
      left.toList ++ ' ' :: c :: ' ' :: (right.toList ++ rest) := by
    simp [String.toList_append, hsymbol]
  rw [hspaced, hleft depth fresh _ (delimited_cons (by decide) _), lexed_space, lexed_symbol hsign,
    lexed_space, hdepth, hright depth false rest hrest]
  cases ok <;> cases ok' <;> simp [Option.map_map, Function.comp_def]

theorem spells_keyword {key value : String} {ok : Bool} {ts : List Token} (hkey : IsName key)
    (hvalue : Spells value ok ts) :
    Spells (key ++ "=" ++ value) ok (.word key :: .symbol .equals :: ts) := by
  intro depth fresh rest hrest
  have hjoined : (key ++ "=" ++ value).toList ++ rest =
      key.toList ++ '=' :: (value.toList ++ rest) := by
    simp [String.toList_append]
  have hequals := @lexed_symbol '=' .equals rfl depth false (value.toList ++ rest)
  rw [hjoined, lexed_word hkey depth fresh (delimited_cons (by decide) _), hequals]
  show (Option.map _ (lexed ⟨depth, false⟩ _)).map _ = _
  rw [hvalue depth false rest hrest]
  cases ok <;> simp [Option.map_map, Function.comp_def]

/-- A sequence with commas is read item by item. It may be empty, so it is read behind a token. -/
theorem lexed_commaList {texts : List String} {ok : Bool} {tss : List (List Token)}
    (h : SpellsAll texts ok tss) (depth : Nat) {rest : List Char} (hrest : Delimited rest) :
    lexed ⟨depth, false⟩ ((commaList texts).toList ++ rest) =
      if ok then (lexed ⟨depth, false⟩ rest).map (commaTokens tss ++ ·) else none := by
  induction h with
  | nil => simp [commaList, commaTokens]
  | @cons text ok others ts texts tss hfirst hothers ih =>
    cases hothers with
    | nil => simpa [commaList, commaTokens] using hfirst depth false rest hrest
    | @cons text' ok' others' ts' texts' tss' hsecond hmore =>
      have hjoined : (commaList (text :: text' :: texts')).toList ++ rest =
          text.toList ++ ',' :: ' ' :: ((commaList (text' :: texts')).toList ++ rest) := by
        simp [commaList, String.toList_append]
      have hcomma := @lexed_symbol ',' .comma rfl depth false
      rw [hjoined, hfirst depth false _ (delimited_cons (by decide) _), hcomma, lexed_space]
      show (if ok then (Option.map _ (lexed ⟨depth, false⟩ _)).map _ else none) = _
      have htokens : commaTokens (ts :: ts' :: tss') =
          ts ++ .symbol .comma :: commaTokens (ts' :: tss') := rfl
      rw [ih, htokens]
      cases ok <;> cases (ok' && others') <;> simp [Option.map_map, Function.comp_def]

theorem spells_list {texts : List String} {ok : Bool} {tss : List (List Token)}
    (h : SpellsAll texts ok tss) :
    Spells ("[" ++ commaList texts ++ "]") ok
      (.symbol .openBracket :: (commaTokens tss ++ [.symbol .closeBracket])) := by
  intro depth fresh rest _
  have hinner := lexed_commaList h (depth + 1) (delimited_cons (c := ']') (by decide) rest)
  have hwhole := @lexed_enclosed '[' ']' _ _ rfl rfl (fun _ => rfl) (fun _ => rfl) _ _ _ _ fresh
    _ hinner
  simpa [String.toList_append] using hwhole

theorem spells_call {kernel : String} {texts : List String} {ok : Bool} {tss : List (List Token)}
    (hkernel : IsName kernel) (h : SpellsAll texts ok tss) :
    Spells (kernel ++ "(" ++ commaList texts ++ ")") ok
      (.word kernel :: .symbol .openParen :: (commaTokens tss ++ [.symbol .closeParen])) := by
  intro depth fresh rest _
  have hinner := lexed_commaList h (depth + 1) (delimited_cons (c := ')') (by decide) rest)
  have hwhole := @lexed_enclosed '(' ')' _ _ rfl rfl (fun _ => rfl) (fun _ => rfl) _ _ _ _ false
    _ hinner
  have hjoined : (kernel ++ "(" ++ commaList texts ++ ")").toList ++ rest =
      kernel.toList ++ '(' :: ((commaList texts).toList ++ ')' :: rest) := by
    simp [String.toList_append]
  rw [hjoined, lexed_word hkernel depth fresh (delimited_cons (by decide) _), hwhole]
  cases ok <;> simp [Option.map_map, Function.comp_def]

/-- Every word of some atoms is a name. -/
def WordsValid (atoms : List Token) : Prop := ∀ word, .word word ∈ atoms → IsName word

theorem WordsValid.left {s t : List Token} (h : WordsValid (s ++ t)) : WordsValid s :=
  fun word hword => h word (List.mem_append_left t hword)

theorem WordsValid.right {s t : List Token} (h : WordsValid (s ++ t)) : WordsValid t :=
  fun word hword => h word (List.mem_append_right s hword)

theorem WordsValid.tail {x : Token} {t : List Token} (h : WordsValid (x :: t)) : WordsValid t :=
  fun word hword => h word (List.mem_cons_of_mem x hword)

namespace Expr

mutual

/-- The text of an expression spells its tokens. -/
theorem spells_print : ∀ e : Expr, WordsValid e.atoms →
    Spells e.print (e.atoms.all Token.legible) e.tokens
  | .call kernel p w, h => by
    have hall := (spells_printAll p h.tail.left).append (spells_printKeywords w h.tail.right)
    have hlegible : (call kernel p w).atoms.all Token.legible =
        ((atomsAll p).all Token.legible && (atomsKeywords w).all Token.legible) := by
      rw [atoms, List.all_cons, List.all_append]
      rfl
    rw [hlegible]
    exact spells_call (h kernel List.mem_cons_self) hall
  | .binary op l r, h => by
    have hleft := spells_parenthesize (spells_print l h.left) l.precedence op.precedence
    have hright := spells_parenthesize (spells_print r h.right) r.precedence (op.precedence + 1)
    rw [atoms, List.all_append]
    exact spells_binary op hleft hright
  | .name word, h => spells_word (h word List.mem_cons_self)
  | .number x, _ => by
    rw [atoms, List.all_cons, List.all_nil, Bool.and_true]
    exact spells_number x
  | .text value, _ => spells_text value
  | .list items, h => spells_list (spells_printAll items h)

theorem spells_printAll : ∀ items : List Expr, WordsValid (atomsAll items) →
    SpellsAll (printAll items) ((atomsAll items).all Token.legible) (tokensAll items)
  | [], _ => .nil
  | first :: rest, h => by
    rw [atomsAll, List.all_append]
    exact .cons (spells_print first h.left) (spells_printAll rest h.right)

theorem spells_printKeywords : ∀ keywords : List (String × Expr),
    WordsValid (atomsKeywords keywords) →
      SpellsAll (printKeywords keywords) ((atomsKeywords keywords).all Token.legible)
        (tokensKeywords keywords)
  | [], _ => .nil
  | (key, value) :: rest, h => by
    have hvalue := spells_print value h.tail.left
    have hrest := spells_printKeywords rest h.tail.right
    have hlegible : (atomsKeywords ((key, value) :: rest)).all Token.legible =
        (value.atoms.all Token.legible && (atomsKeywords rest).all Token.legible) := by
      rw [atomsKeywords, List.all_cons, List.all_append]
      rfl
    rw [hlegible]
    exact .cons (spells_keyword (h key List.mem_cons_self) hvalue) hrest

end

end Expr

/-! ## Atoms of a printed expression -/

/-- The token that the text of an atom is read as. -/
def Token.spelled : Token → Token
  | .number x => numberToken x
  | token => token

theorem atomsOf_cons_atom {x : Token} (h : x.isAtom = true) (ts : List Token) :
    atomsOf (x :: ts) = x :: atomsOf ts := List.filter_cons_of_pos h

theorem atomsOf_cons_symbol (mark : Symbol) (ts : List Token) :
    atomsOf (.symbol mark :: ts) = atomsOf ts := rfl

theorem isAtom_numberToken (x : Float) : (numberToken x).isAtom = true := by
  unfold numberToken
  split <;> rfl

theorem atomsOf_encloseTokens (precedence required : Nat) (ts : List Token) :
    atomsOf (encloseTokens precedence required ts) = atomsOf ts := by
  unfold encloseTokens
  split
  · rw [atomsOf_cons_symbol, atomsOf_append]
    exact List.append_nil _
  · rfl

theorem atomsOf_commaTokens : ∀ tss : List (List Token),
    atomsOf (commaTokens tss) = atomsOf tss.flatten
  | [] => rfl
  | [only] => by rw [commaTokens, List.flatten_cons, List.flatten_nil, List.append_nil]
  | first :: second :: rest => by
    have hrest := atomsOf_commaTokens (second :: rest)
    have htokens : commaTokens (first :: second :: rest) =
        first ++ .symbol .comma :: commaTokens (second :: rest) := rfl
    rw [htokens, atomsOf_append, atomsOf_cons_symbol, hrest]
    exact (atomsOf_append first (second :: rest).flatten).symm

namespace Expr

mutual

theorem atomsOf_tokens : ∀ e : Expr, atomsOf e.tokens = e.atoms.map Token.spelled
  | .call kernel p w => by
    rw [tokens, atomsOf_cons_atom rfl, atomsOf_cons_symbol, atomsOf_append, atomsOf_commaTokens,
      List.flatten_append, atomsOf_append, atomsOf_tokensAll, atomsOf_tokensKeywords, atoms,
      List.map_cons, List.map_append]
    exact congrArg (Token.word kernel :: ·) (List.append_nil _)
  | .binary op l r => by
    rw [tokens, atomsOf_append, atomsOf_cons_symbol, atomsOf_encloseTokens, atomsOf_encloseTokens,
      atomsOf_tokens l, atomsOf_tokens r, atoms, List.map_append]
  | .name _ => rfl
  | .number x => atomsOf_cons_atom (isAtom_numberToken x) []
  | .text _ => rfl
  | .list items => by
    rw [tokens, atomsOf_cons_symbol, atomsOf_append, atomsOf_commaTokens, atomsOf_tokensAll, atoms]
    exact List.append_nil _

theorem atomsOf_tokensAll : ∀ items : List Expr,
    atomsOf (tokensAll items).flatten = (atomsAll items).map Token.spelled
  | [] => rfl
  | first :: rest => by
    rw [tokensAll, List.flatten_cons, atomsOf_append, atomsOf_tokens first, atomsOf_tokensAll rest,
      atomsAll, List.map_append]

theorem atomsOf_tokensKeywords : ∀ keywords : List (String × Expr),
    atomsOf (tokensKeywords keywords).flatten = (atomsKeywords keywords).map Token.spelled
  | [] => rfl
  | (key, value) :: rest => by
    rw [tokensKeywords, List.flatten_cons, atomsOf_append, atomsOf_cons_atom rfl,
      atomsOf_cons_symbol, atomsOf_tokens value, atomsOf_tokensKeywords rest, atomsKeywords,
      List.map_cons, List.map_append]
    rfl

end

end Expr

theorem atomsOf_programTokens : ∀ program : List Expr,
    atomsOf (programTokens program) = (Expr.atomsAll program).map Token.spelled
  | [] => rfl
  | [only] => by
    rw [programTokens, Expr.atomsOf_tokens, Expr.atomsAll, Expr.atomsAll, List.append_nil]
  | first :: second :: rest => by
    have hrest := atomsOf_programTokens (second :: rest)
    have htokens : programTokens (first :: second :: rest) =
        first.tokens ++ .newline :: programTokens (second :: rest) := rfl
    have hline : atomsOf (.newline :: programTokens (second :: rest)) =
        atomsOf (programTokens (second :: rest)) := rfl
    rw [htokens, atomsOf_append, hline, hrest, Expr.atomsOf_tokens]
    exact List.map_append.symm

/-! ## Programs -/

/-- A printed program is read as its tokens if it is legible, and as nothing if it is not. -/
theorem lexed_printProgram : ∀ (program : List Expr) (fresh : Bool),
    WordsValid (Expr.atomsAll program) →
      lexed ⟨0, fresh⟩ (printProgram program).toList =
        if (Expr.atomsAll program).all Token.legible then some (programTokens program) else none
  | [], fresh, _ => by
    rw [printProgram, List.map_nil, String.intercalate_nil]
    exact lexed.eq_1 ⟨0, fresh⟩
  | [only], fresh, h => by
    have hatoms : Expr.atomsAll [only] = only.atoms := List.append_nil _
    rw [hatoms] at h ⊢
    have hprint := only.spells_print h 0 fresh [] delimited_nil
    rw [List.append_nil] at hprint
    rw [printProgram, List.map_singleton, String.intercalate_singleton, hprint, lexed.eq_1]
    simp [programTokens]
  | first :: second :: rest, fresh, h => by
    have hjoined : (printProgram (first :: second :: rest)).toList =
        first.print.toList ++ '\n' :: (printProgram (second :: rest)).toList := by
      simp [printProgram, String.intercalate_cons_cons, String.toList_append]
    have htokens : programTokens (first :: second :: rest) =
        first.tokens ++ .newline :: programTokens (second :: rest) := rfl
    have hrest := lexed_printProgram (second :: rest) true h.right
    have hall : (Expr.atomsAll (first :: second :: rest)).all Token.legible =
        (first.atoms.all Token.legible && (Expr.atomsAll (second :: rest)).all Token.legible) :=
      List.all_append
    rw [hjoined, first.spells_print h.left 0 fresh _ (delimited_cons (by decide) _),
      lexed_lineFeed, hrest, htokens, hall]
    cases first.atoms.all Token.legible <;>
      cases (Expr.atomsAll (second :: rest)).all Token.legible <;> rfl

end Storyweave.Language
