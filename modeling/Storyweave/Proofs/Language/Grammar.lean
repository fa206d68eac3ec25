import Storyweave.Language.Parser

/-!
# The grammar of expressions

What a list of tokens stands for, said without the parser:

* program = statements with one or more ends of lines between them, and any number of them in
  front and behind;
* expression = term (`+` term)*, and term = operand (`/` operand)*, both folded to the left, with
  ends of lines allowed behind an operator;
* operand = word | word `(` arguments `)` | number | text | `[` items `]` | `(` expression `)`;
* arguments and items stand with commas between them, and one comma may follow the last of them.
  Positional arguments come before keyword arguments, and no key occurs twice.

A phrase is a stretch of the tokens. It is given by the tokens from its first one on and by
those behind it, so that `Operand b s t e` says that `e` is written in `s` up to where `t`
begins. The number `b` is how many levels of nesting are left where the phrase begins: an open
operand takes one of them, and each operator that was read takes one from the rest of its chain.
-/

namespace Storyweave.Language

/-- The symbol of an operator. -/
def Operator.sign : Operator → Symbol
  | .compose => .plus
  | .dilute => .slash

/-- The two kinds of brackets that hold entries: those of a call and those of a list. -/
inductive Bracket where
  | call
  | list
deriving DecidableEq, Repr

/-- The symbol behind the last entry. -/
def Bracket.closing : Bracket → Symbol
  | .call => .closeParen
  | .list => .closeBracket

/-- Whether an operand can begin with a token. -/
def Token.opensOperand : Token → Bool
  | .word _ | .number _ | .text _ | .symbol .openParen | .symbol .openBracket => true
  | _ => false

/-- An operand can begin with the first of some tokens. -/
def Opens (s : List Token) : Prop := ∃ x s', s = x :: s' ∧ x.opensOperand = true

theorem Opens.append {s : List Token} (h : Opens s) (t : List Token) : Opens (s ++ t) := by
  obtain ⟨x, s', rfl, hx⟩ := h
  exact ⟨x, s' ++ t, rfl, hx⟩

theorem Opens.head_ne {s : List Token} (h : Opens s) {x : Token} (hx : x.opensOperand = false) :
    s.head? ≠ some x := by
  obtain ⟨y, s', rfl, hy⟩ := h
  rintro ⟨⟩
  rw [hx] at hy
  cases hy

/-- The arguments of a call: the positional ones, then those with a key. -/
def callArguments (positional : List Expr) (keywords : List (String × Expr)) : List Argument :=
  positional.map .positional ++ keywords.map fun k => .keyword k.1 k.2

namespace Grammar

/-- A key and an equals sign stand in front. -/
def StartsKeyword (s : List Token) : Prop := ∃ key t, s = .word key :: .symbol .equals :: t

/-- Some ends of lines, or none. -/
inductive LineBreaks : List Token → List Token → Prop
  | done {s : List Token} : LineBreaks s s
  | skip {s t : List Token} : LineBreaks s t → LineBreaks (.newline :: s) t

mutual

/-- What an operator joins: a name, a number, a text, a call, a list, or an expression in
parentheses. While it is open it takes one level. -/
inductive Operand : Nat → List Token → List Token → Expr → Prop
  | name {b : Nat} {word : String} {t : List Token} :
      t.head? ≠ some (.symbol .openParen) → Operand (b + 1) (.word word :: t) t (.name word)
  | number {b : Nat} {value : Float} {t : List Token} :
      Operand (b + 1) (.number value :: t) t (.number value)
  | text {b : Nat} {value : String} {t : List Token} :
      Operand (b + 1) (.text value :: t) t (.text value)
  | call {b : Nat} {kernel : String} {s t : List Token} {positional : List Expr}
      {keywords : List (String × Expr)} :
      Entries .call b s t (callArguments positional keywords) → (keywords.map Prod.fst).Nodup →
      Operand (b + 1) (.word kernel :: .symbol .openParen :: s) t (.call kernel positional keywords)
  | list {b : Nat} {s t : List Token} {items : List Expr} :
      Entries .list b s t (items.map .positional) →
      Operand (b + 1) (.symbol .openBracket :: s) t (.list items)
  | group {b c : Nat} {s t : List Token} {e : Expr} :
      Chain .compose b c s (.symbol .closeParen :: t) e →
      Operand (b + 1) (.symbol .openParen :: s) t e

/-- What stands on one side of an operator: an operand for `/`, a term for `+`. -/
inductive Link : Operator → Nat → List Token → List Token → Expr → Prop
  | operand {b : Nat} {s t : List Token} {e : Expr} : Operand b s t e → Link .dilute b s t e
  | term {b c : Nat} {s t : List Token} {e : Expr} : Chain .dilute b c s t e → Link .compose b s t e

/-- `Chain op b c s t e`: links joined by `op`. The chain begins with `b` levels left, of which
`c` are left behind its operators. A chain of `/` is a term, and one of `+` an expression. -/
inductive Chain : Operator → Nat → Nat → List Token → List Token → Expr → Prop
  | first {op : Operator} {b : Nat} {s t : List Token} {e : Expr} :
      Link op b s t e → Chain op b b s t e
  | next {op : Operator} {b c : Nat} {s m n t : List Token} {left right : Expr} :
      Chain op b (c + 1) s (.symbol op.sign :: m) left → LineBreaks m n → Link op c n t right →
      Chain op b c s t (.binary op left right)

/-- One item of a list or one argument of a call. What begins with a key and an equals sign is
no positional argument. -/
inductive Entry : Bracket → Nat → List Token → List Token → Argument → Prop
  | item {b c : Nat} {s t : List Token} {e : Expr} :
      Chain .compose b c s t e → Entry .list b s t (.positional e)
  | positional {b c : Nat} {s t : List Token} {e : Expr} :
      ¬StartsKeyword s → Chain .compose b c s t e → Entry .call b s t (.positional e)
  | keyword {b c : Nat} {key : String} {s t : List Token} {e : Expr} :
      Chain .compose b c s t e →
      Entry .call b (.word key :: .symbol .equals :: s) t (.keyword key e)

/-- The entries of a bracket and its closing symbol. -/
inductive Entries : Bracket → Nat → List Token → List Token → List Argument → Prop
  | close {k : Bracket} {b : Nat} {t : List Token} : Entries k b (.symbol k.closing :: t) t []
  | last {k : Bracket} {b : Nat} {s t : List Token} {a : Argument} :
      Entry k b s (.symbol k.closing :: t) a → Entries k b s t [a]
  | more {k : Bracket} {b : Nat} {s m t : List Token} {a : Argument} {others : List Argument} :
      Entry k b s (.symbol .comma :: m) a → Entries k b m t others → Entries k b s t (a :: others)

end

/-- The statements of a program. Every statement begins with all `maxNesting` levels. -/
inductive Program : List Token → List Expr → Prop
  | blank {s : List Token} : LineBreaks s [] → Program s []
  | last {s m : List Token} {c : Nat} {e : Expr} :
      LineBreaks s m → Chain .compose maxNesting c m [] e → Program s [e]
  | more {s m t : List Token} {c : Nat} {e : Expr} {others : List Expr} :
      LineBreaks s m → Chain .compose maxNesting c m (.newline :: t) e → Program t others →
      Program s (e :: others)

end Grammar

end Storyweave.Language
