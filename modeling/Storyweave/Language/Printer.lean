import Storyweave.Language.Expr
import Storyweave.Number.Decimal

/-!
# Expressions as source text

The canonical spelling of a tree. An operand is put in parentheses if it binds less tightly
than its place asks for: the right operand of an operator has to bind tighter than the
operator itself, because operators group to the left.
-/

namespace Storyweave.Language

/-- A character of a quoted text. -/
def escape : Char → List Char
  | '"' => ['\\', '"']
  | '\\' => ['\\', '\\']
  | '\n' => ['\\', 'n']
  | '\t' => ['\\', 't']
  | c => [c]

/-- A text between quotes. -/
def quote (text : String) : String :=
  "\"" ++ String.ofList (text.toList.flatMap escape) ++ "\""

/-- A text in parentheses if it binds less tightly than `required`. -/
def parenthesize (precedence required : Nat) (text : String) : String :=
  if precedence < required then "(" ++ text ++ ")" else text

/-- The canonical spelling of an item of a sequence and of those behind it, each behind a
comma. -/
def commaList : List String → String
  | [] => ""
  | [only] => only
  | first :: rest => first ++ ", " ++ commaList rest

namespace Expr

mutual

/-- The canonical spelling of an expression. -/
def print : Expr → String
  | .call kernel positional keywords =>
    kernel ++ "(" ++ commaList (printAll positional ++ printKeywords keywords) ++ ")"
  | .binary operator left right =>
    parenthesize left.precedence operator.precedence (print left) ++
      " " ++ operator.symbol ++ " " ++
      parenthesize right.precedence (operator.precedence + 1) (print right)
  | .name word => word
  | .number value => Number.text value
  | .text value => quote value
  | .list items => "[" ++ commaList (printAll items) ++ "]"

/-- The canonical spellings of some expressions. -/
def printAll : List Expr → List String
  | [] => []
  | first :: rest => print first :: printAll rest

/-- The canonical spellings of some keyword arguments. -/
def printKeywords : List (String × Expr) → List String
  | [] => []
  | (key, value) :: rest => (key ++ "=" ++ print value) :: printKeywords rest

end

end Expr

/-- The canonical spelling of a program, one statement on a line. -/
def printProgram (statements : List Expr) : String :=
  "\n".intercalate (statements.map Expr.print)

end Storyweave.Language
