import Storyweave.Language.Expr
import Storyweave.Language.Lexer

/-!
# From tokens to expressions

`/` binds tighter than `+`, and both group to the left. Brackets and operators share one
budget of `maxNesting` levels: an operand spends one level while it is open, and an operator
spends one for the rest of its chain. The budget is what the parser recurses on.
-/

namespace Storyweave.Language

/-- What was read from the front of some tokens, and fewer than `limit` tokens behind it. -/
structure Parsed (α : Type) (limit : Nat) where
  value : α
  rest : List Located
  fits : rest.length < limit

/-- The same under a larger limit. -/
def Parsed.widen {α : Type} {m n : Nat} (h : m ≤ n) (p : Parsed α m) : Parsed α n :=
  ⟨p.value, p.rest, Nat.lt_of_lt_of_le p.fits h⟩

/-- A parser of something that takes up at least one token. -/
abbrev Reader (α : Type) := (tokens : List Located) → Except SyntaxError (Parsed α tokens.length)

section

variable (stop : Position)

/-- The place of the first token, or of the end of the input. -/
def placeOf : List Located → Position
  | [] => stop
  | first :: _ => first.position

/-- A fault at the first token. -/
def faultAt (tokens : List Located) (fault : SyntaxFault) : SyntaxError :=
  ⟨placeOf stop tokens, fault⟩

/-- The first token is not what was expected. -/
def unexpected (wanted : Expectation) (tokens : List Located) : SyntaxError :=
  faultAt stop tokens (.expected wanted (tokens.head?.map Located.token))

/-- The tokens behind the ends of lines in front. -/
def skipNewlines : List Located → List Located
  | ⟨.newline, _⟩ :: rest => skipNewlines rest
  | tokens => tokens

theorem length_skipNewlines_le (tokens : List Located) :
    (skipNewlines tokens).length ≤ tokens.length := by
  fun_induction skipNewlines tokens with
  | case1 position rest ih => exact Nat.le_succ_of_le ih
  | case2 tokens _ => exact Nat.le_refl _

/-- The tokens behind a comma; all of them if a closing symbol stands in front instead. -/
def skipComma (close : Symbol) (wanted : Expectation) (tokens : List Located) :
    Except SyntaxError (Parsed Unit (tokens.length + 1)) :=
  match tokens with
  | ⟨.symbol symbol, position⟩ :: rest =>
    if symbol = .comma then .ok ⟨(), rest, by simp only [List.length_cons]; omega⟩
    else if symbol = close then .ok ⟨(), ⟨.symbol symbol, position⟩ :: rest, Nat.lt_succ_self _⟩
    else .error (unexpected stop wanted (⟨.symbol symbol, position⟩ :: rest))
  | tokens => .error (unexpected stop wanted tokens)

/-- Whether a closing symbol stands in front, and what stands behind it. -/
def closing? (close : Symbol) : (tokens : List Located) → Option (Parsed Unit tokens.length)
  | ⟨.symbol symbol, _⟩ :: rest =>
    if symbol = close then some ⟨(), rest, Nat.lt_succ_self _⟩ else none
  | _ => none

/-- Reads items up to a closing symbol. Commas separate them, and one may follow the last.
What an item may be can depend on the items before it, through a state. -/
def itemsUntil {α σ : Type} (close : Symbol) (wanted : Expectation) (item : σ → Reader (α × σ))
    (state : σ) (tokens : List Located) : Except SyntaxError (Parsed (List α) tokens.length) :=
  match closing? close tokens with
  | some closed => .ok ⟨[], closed.rest, closed.fits⟩
  | none => do
    let first ← item state tokens
    let next ← skipComma stop close wanted first.rest
    have shorter : next.rest.length < tokens.length :=
      Nat.lt_of_lt_of_le next.fits first.fits
    let more ← itemsUntil close wanted item first.value.2 next.rest
    return ⟨first.value.1 :: more.value, more.rest, Nat.lt_trans more.fits shorter⟩
termination_by tokens.length

/-- An argument of a call. -/
inductive Argument where
  | positional (value : Expr)
  | keyword (key : String) (value : Expr)

namespace Argument

/-- The value of a positional argument. -/
def positional? : Argument → Option Expr
  | .positional value => some value
  | .keyword _ _ => none

/-- The key and value of a keyword argument. -/
def keyword? : Argument → Option (String × Expr)
  | .positional _ => none
  | .keyword key value => some (key, value)

end Argument

/-- Reads one argument behind those with the keys `keys`. A name before an equals sign is a
key; it must be new, and only keyword arguments may follow it. -/
def argument (expression : Reader Expr) (keys : List String) : Reader (Argument × List String)
  | ⟨.word key, position⟩ :: ⟨.symbol .equals, _⟩ :: rest =>
    if key ∈ keys then .error ⟨position, .duplicateKeyword key⟩
    else do
      let value ← expression rest
      return ⟨(.keyword key value.value, key :: keys), value.rest, by
        have := value.fits; simp only [List.length_cons]; omega⟩
  | tokens =>
    if keys.isEmpty then do
      let value ← expression tokens
      return ⟨(.positional value.value, keys), value.rest, value.fits⟩
    else .error (faultAt stop tokens .positionalAfterKeyword)

/-- The item of a list. -/
def listItem (expression : Reader Expr) : Unit → Reader (Expr × Unit) := fun _ tokens => do
  let value ← expression tokens
  return ⟨(value.value, ()), value.rest, value.fits⟩

mutual

/-- Reads operands joined by `+`. -/
def expression (budget : Nat) (tokens : List Located) :
    Except SyntaxError (Parsed Expr tokens.length) := do
  let left ← term budget tokens
  let all ← sum budget left.value left.rest
  return all.widen left.fits
termination_by 4 * budget + 2

/-- Reads the rest of a chain of `+` behind its left side. -/
def sum (budget : Nat) (left : Expr) (tokens : List Located) :
    Except SyntaxError (Parsed Expr (tokens.length + 1)) :=
  match tokens with
  | ⟨.symbol .plus, position⟩ :: rest =>
    match budget with
    | 0 => .error ⟨position, .tooDeep⟩
    | budget + 1 => do
      let right ← term budget (skipNewlines rest)
      let all ← sum budget (.binary .compose left right.value) right.rest
      return all.widen (by
        have := right.fits
        have := length_skipNewlines_le rest
        simp only [List.length_cons]; omega)
  | tokens => .ok ⟨left, tokens, Nat.lt_succ_self _⟩
termination_by 4 * budget

/-- Reads operands joined by `/`. -/
def term (budget : Nat) (tokens : List Located) :
    Except SyntaxError (Parsed Expr tokens.length) := do
  let left ← operand budget tokens
  let all ← quotient budget left.value left.rest
  return all.widen left.fits
termination_by 4 * budget + 1

/-- Reads the rest of a chain of `/` behind its left side. -/
def quotient (budget : Nat) (left : Expr) (tokens : List Located) :
    Except SyntaxError (Parsed Expr (tokens.length + 1)) :=
  match tokens with
  | ⟨.symbol .slash, position⟩ :: rest =>
    match budget with
    | 0 => .error ⟨position, .tooDeep⟩
    | budget + 1 => do
      let right ← operand budget (skipNewlines rest)
      let all ← quotient budget (.binary .dilute left right.value) right.rest
      return all.widen (by
        have := right.fits
        have := length_skipNewlines_le rest
        simp only [List.length_cons]; omega)
  | tokens => .ok ⟨left, tokens, Nat.lt_succ_self _⟩
termination_by 4 * budget

/-- Reads a call, a name, a number, a text, a list or an expression in parentheses. -/
def operand (budget : Nat) (tokens : List Located) :
    Except SyntaxError (Parsed Expr tokens.length) :=
  match budget with
  | 0 => .error (faultAt stop tokens .tooDeep)
  | budget + 1 =>
    match tokens with
    | ⟨.word kernel, _⟩ :: ⟨.symbol .openParen, _⟩ :: rest => do
      let arguments ← itemsUntil stop .closeParen .argumentEnd
        (argument stop (fun tokens => expression budget tokens)) [] rest
      let call := Expr.call kernel (arguments.value.filterMap Argument.positional?)
        (arguments.value.filterMap Argument.keyword?)
      return ⟨call, arguments.rest, by
        have := arguments.fits; simp only [List.length_cons]; omega⟩
    | ⟨.word name, _⟩ :: rest => .ok ⟨.name name, rest, Nat.lt_succ_self _⟩
    | ⟨.number value, _⟩ :: rest => .ok ⟨.number value, rest, Nat.lt_succ_self _⟩
    | ⟨.text value, _⟩ :: rest => .ok ⟨.text value, rest, Nat.lt_succ_self _⟩
    | ⟨.symbol .openBracket, _⟩ :: rest => do
      let items ← itemsUntil stop .closeBracket .itemEnd
        (listItem (fun tokens => expression budget tokens)) () rest
      return ⟨.list items.value, items.rest, Nat.lt_succ_of_lt items.fits⟩
    | ⟨.symbol .openParen, _⟩ :: rest => do
      let inner ← expression budget rest
      match closing? .closeParen inner.rest with
      | some closed => return ⟨inner.value, closed.rest,
          Nat.lt_succ_of_lt (Nat.lt_trans closed.fits inner.fits)⟩
      | none => .error (unexpected stop .closingParenthesis inner.rest)
    | tokens => .error (unexpected stop .expression tokens)
termination_by 4 * budget

end

/-- The tokens behind a statement, which ends with its line or with the input. -/
def skipLineEnd (tokens : List Located) : Except SyntaxError (Parsed Unit (tokens.length + 1)) :=
  match tokens with
  | [] => .ok ⟨(), [], Nat.lt_succ_self _⟩
  | ⟨.newline, _⟩ :: rest => .ok ⟨(), rest, by simp only [List.length_cons]; omega⟩
  | tokens => .error (unexpected stop .endOfLine tokens)

/-- Reads the statements of a program. The ends of lines separate them. -/
def statements (tokens : List Located) : Except SyntaxError (List Expr) :=
  match h : skipNewlines tokens with
  | [] => .ok []
  | first :: others => do
    let statement ← expression stop maxNesting (first :: others)
    let next ← skipLineEnd stop statement.rest
    have : next.rest.length < tokens.length := by
      have := next.fits
      have := statement.fits
      have := length_skipNewlines_le tokens
      rw [h] at this
      omega
    let more ← statements next.rest
    return statement.value :: more
termination_by tokens.length

end

/-- The statements of a source. -/
def parse (source : String) : Except SyntaxError (List Expr) := do
  let stream ← tokens source
  statements stream.stop stream.tokens

/-- The expression that a source consists of. -/
def parseExpr (source : String) : Except SyntaxError Expr := do
  let stream ← tokens source
  let only ← expression stream.stop maxNesting (skipNewlines stream.tokens)
  match skipNewlines only.rest with
  | [] => return only.value
  | rest => .error (unexpected stream.stop .endOfInput rest)

end Storyweave.Language
