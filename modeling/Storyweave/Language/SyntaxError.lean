import Storyweave.Language.Token
import Storyweave.Number.Decimal

/-!
# Syntax errors

A syntax error is a cause and a place. The wording of every cause is fixed here.
-/

namespace Storyweave.Language

/-- What could have stood in the place of an unexpected token. -/
inductive Expectation where
  | endOfInput
  | endOfLine
  | closingParenthesis
  | expression
  /-- A comma, or the end of the arguments. -/
  | argumentEnd
  /-- A comma, or the end of a list. -/
  | itemEnd
deriving DecidableEq, Repr

/-- An expectation in words. -/
def Expectation.describe : Expectation → String
  | .endOfInput => "end of input"
  | .endOfLine => "end of line"
  | .closingParenthesis => "')'"
  | .expression => "an expression"
  | .argumentEnd => "',' or ')'"
  | .itemEnd => "',' or ']'"

/-- A token in words. -/
def Token.describe : Token → String
  | .word name => "identifier '" ++ name ++ "'"
  | .number value => "number " ++ Number.text value
  | .text _ => "string literal"
  | .symbol mark => mark.quoted
  | .newline => "end of line"

/-- How many brackets, calls and operators may be open at once in an expression. -/
def maxNesting : Nat := 256

/-- Why a source is not a program. -/
inductive SyntaxFault where
  | unterminatedText
  | unknownEscape (escape : Char)
  | unexpectedCharacter (character : Char)
  /-- A token, or the end of the input, stands where something else was expected. -/
  | expected (wanted : Expectation) (found : Option Token)
  | tooDeep
  | duplicateKeyword (key : String)
  | positionalAfterKeyword

/-- A syntax fault in words. -/
def SyntaxFault.describe : SyntaxFault → String
  | .unterminatedText => "unterminated string"
  | .unknownEscape escape => "unknown escape '\\" ++ String.singleton escape ++ "'"
  | .unexpectedCharacter c => "unexpected character '" ++ String.singleton c ++ "'"
  | .expected wanted found =>
    "expected " ++ wanted.describe ++ ", found " ++ (found.map Token.describe).getD "end of input"
  | .tooDeep => "expression nested deeper than " ++ toString maxNesting ++ " levels"
  | .duplicateKeyword key => "duplicate keyword argument '" ++ key ++ "'"
  | .positionalAfterKeyword => "positional argument follows keyword argument"

structure SyntaxError where
  position : Position
  fault : SyntaxFault

/-- A syntax error in words, with its place. -/
def SyntaxError.message (e : SyntaxError) : String :=
  "syntax error at line " ++ toString e.position.line ++ ", column " ++
    toString e.position.column ++ ": " ++ e.fault.describe

end Storyweave.Language
