/-!
# Expressions

The trees that a source stands for. A statement is an expression, and a program is the list
of its statements.
-/

namespace Storyweave.Language

/-- The two operators. -/
inductive Operator where
  /-- `+`: both results, the left one first. -/
  | compose
  /-- `/`: the left result, its weight divided by the right one. -/
  | dilute
deriving DecidableEq, Repr

/-- How tightly an operator binds. -/
def Operator.precedence : Operator → Nat
  | .compose => 1
  | .dilute => 2

/-- The sign of an operator. -/
def Operator.symbol : Operator → String
  | .compose => "+"
  | .dilute => "/"

inductive Expr where
  /-- A call of a kernel with positional and then keyword arguments. -/
  | call (kernel : String) (positional : List Expr) (keywords : List (String × Expr))
  | binary (operator : Operator) (left right : Expr)
  | name (word : String)
  | number (value : Float)
  | text (value : String)
  | list (items : List Expr)

namespace Expr

/-- How tightly the outermost operator of an expression binds; what has none binds tightest. -/
def precedence : Expr → Nat
  | .binary operator _ _ => operator.precedence
  | _ => 3

/-- The word that best names an expression: its kernel or name, or that of its first operand
or item. -/
def headName : Expr → Option String
  | .call kernel _ _ => some kernel
  | .name word => some word
  | .binary _ left _ => left.headName
  | .list (first :: _) => first.headName
  | .list [] => none
  | .number _ => none
  | .text _ => none

mutual

/-- Whether two expressions are equal, their numbers compared by value: a zero equals the
negative zero, and what is not a number equals nothing. -/
def agrees : Expr → Expr → Bool
  | .call k₁ p₁ w₁, .call k₂ p₂ w₂ => k₁ == k₂ && allAgree p₁ p₂ && keywordsAgree w₁ w₂
  | .binary o₁ l₁ r₁, .binary o₂ l₂ r₂ => o₁ == o₂ && agrees l₁ l₂ && agrees r₁ r₂
  | .name a, .name b => a == b
  | .number x, .number y => x == y
  | .text a, .text b => a == b
  | .list xs, .list ys => allAgree xs ys
  | _, _ => false

/-- Whether two lists agree item by item. -/
def allAgree : List Expr → List Expr → Bool
  | [], [] => true
  | x :: xs, y :: ys => agrees x y && allAgree xs ys
  | _, _ => false

/-- Whether two lists of keyword arguments agree in keys and values. -/
def keywordsAgree : List (String × Expr) → List (String × Expr) → Bool
  | [], [] => true
  | (j, x) :: xs, (k, y) :: ys => j == k && agrees x y && keywordsAgree xs ys
  | _, _ => false

end

end Expr

end Storyweave.Language
