import Storyweave.Language.SyntaxError
import Storyweave.Text.Blank
import Storyweave.Text.Numeric

/-!
# From characters to tokens

A source is cut into lexemes, each of which spells out a stretch of it. A layout rule then
keeps the lexemes that are tokens: a line feed is one if it stands outside all brackets and
something stands before it on its line. The lexemes of a source concatenate to the source:
`Cut.whole` says so for the first of them and what follows it.
-/

namespace Storyweave.Language

open Storyweave.Text

/-- What a stretch of a source is. -/
inductive Lexeme where
  | blank
  | lineFeed
  | comment
  | symbol (symbol : Symbol)
  | word (name : List Char)
  | number (numeral : List Char)
  /-- A quoted text, its escapes resolved. -/
  | text (value : List Char)

/-- The first lexeme of a source, how it is spelled, and what follows it. -/
structure Cut (source : List Char) where
  lexeme : Lexeme
  spelling : List Char
  rest : List Char
  nonempty : spelling ≠ []
  whole : spelling ++ rest = source

/-- What follows the first lexeme is shorter than the source. -/
theorem Cut.rest_length_lt {source : List Char} (cut : Cut source) :
    cut.rest.length < source.length := by
  have hpos := List.length_pos_iff.2 cut.nonempty
  have hlen := congrArg List.length cut.whole
  rw [List.length_append] at hlen
  omega

/-! ## Quoted texts -/

/-- A source up to a closing quote: the text it stands for, its spelling with the quote, and
what follows. -/
structure Quoted (source : List Char) where
  value : List Char
  spelling : List Char
  rest : List Char
  whole : spelling ++ rest = source

/-- Why a quoted text has no end. -/
inductive QuoteFault where
  | unterminated
  /-- A backslash, so many characters into the text, that stands before a character it does
  not escape. -/
  | unknownEscape (before : List Char) (escape : Char)

/-- The same fault with more characters before it. -/
def QuoteFault.behind (cs : List Char) : QuoteFault → QuoteFault
  | .unterminated => .unterminated
  | .unknownEscape before escape => .unknownEscape (cs ++ before) escape

/-- The character that a backslash and a character stand for. -/
def unescape? : Char → Option Char
  | 'n' => some '\n'
  | 't' => some '\t'
  | '\\' => some '\\'
  | '"' => some '"'
  | '\'' => some '\''
  | _ => none

/-- Reads a quoted text behind its opening quote. It ends at the next quote of the same kind
that is not escaped, on the same line. -/
def quoted (quote : Char) : (source : List Char) → Except QuoteFault (Quoted source)
  | [] => .error .unterminated
  | c :: cs =>
    if c = quote then .ok ⟨[], [c], cs, rfl⟩
    else if c = '\n' then .error .unterminated
    else if c = '\\' then
      match cs with
      | [] => .error .unterminated
      | escape :: cs =>
        match unescape? escape with
        | none => .error (.unknownEscape [] escape)
        | some meant =>
          match quoted quote cs with
          | .error fault => .error (fault.behind [c, escape])
          | .ok q => .ok ⟨meant :: q.value, c :: escape :: q.spelling, q.rest, by simp [q.whole]⟩
    else
      match quoted quote cs with
      | .error fault => .error (fault.behind [c])
      | .ok q => .ok ⟨c :: q.value, c :: q.spelling, q.rest, by simp [q.whole]⟩

/-! ## Numbers -/

/-- Whether a number begins with a character: a digit, or a minus sign before a digit. -/
def startsNumber (c : Char) (cs : List Char) : Bool :=
  c.isDigit || (c == '-' && (cs.head?.map Char.isDigit).getD false)

/-- How many characters of a source are the fraction of the number before it: a point that a
digit follows, and the digits behind it. -/
def fractionLength : List Char → Nat
  | '.' :: d :: cs => if d.isDigit then 2 + (cs.takeWhile Char.isDigit).length else 0
  | _ => 0

/-- The number that begins with `c`: its further digits and its fraction. -/
def cutNumber (c : Char) (cs : List Char) : Cut (c :: cs) :=
  let digits := cs.takeWhile Char.isDigit
  let behind := cs.dropWhile Char.isDigit
  let size := fractionLength behind
  let numeral := c :: (digits ++ behind.take size)
  ⟨.number numeral, numeral, behind.drop size, List.cons_ne_nil _ _, by
    simp [numeral, digits, behind, List.takeWhile_append_dropWhile]⟩

/-! ## Lexemes -/

/-- The faults of a source that are found before its tokens are read. -/
inductive LexicalFault where
  | unexpectedCharacter
  | quote (fault : QuoteFault)

/-- Where a fault of a lexeme that begins with `c` at a place is reported, and as what. -/
def LexicalFault.at (c : Char) (position : Position) : LexicalFault → SyntaxError
  | .unexpectedCharacter => ⟨position, .unexpectedCharacter c⟩
  | .quote .unterminated => ⟨position, .unterminatedText⟩
  | .quote (.unknownEscape before escape) => ⟨position.after (c :: before), .unknownEscape escape⟩

/-- Cuts the first lexeme off a source that begins with `c`. -/
def cut (c : Char) (cs : List Char) : Except LexicalFault (Cut (c :: cs)) :=
  if c = '\n' then .ok ⟨.lineFeed, [c], cs, List.cons_ne_nil _ _, rfl⟩
  else if isBlank c then .ok ⟨.blank, [c], cs, List.cons_ne_nil _ _, rfl⟩
  else if c = '#' then
    .ok ⟨.comment, c :: cs.takeWhile (· != '\n'), cs.dropWhile (· != '\n'),
      List.cons_ne_nil _ _, by simp [List.takeWhile_append_dropWhile]⟩
  else
    match Symbol.ofChar? c with
    | some symbol => .ok ⟨.symbol symbol, [c], cs, List.cons_ne_nil _ _, rfl⟩
    | none =>
      if startsName c then
        let name := c :: cs.takeWhile continuesName
        .ok ⟨.word name, name, cs.dropWhile continuesName, List.cons_ne_nil _ _, by
          simp [name, List.takeWhile_append_dropWhile]⟩
      else if startsNumber c cs then .ok (cutNumber c cs)
      else if c = '"' ∨ c = '\'' then
        match quoted c cs with
        | .error fault => .error (.quote fault)
        | .ok q => .ok ⟨.text q.value, c :: q.spelling, q.rest, List.cons_ne_nil _ _, by
            simp [q.whole]⟩
      else .error .unexpectedCharacter

/-! ## Layout -/

/-- What the tokens read so far say about a line feed. -/
structure Layout where
  /-- How many brackets are open. -/
  depth : Nat
  /-- Whether no token stands between here and the last end of a line. -/
  fresh : Bool
deriving DecidableEq, Repr

namespace Layout

/-- Before the first token. -/
def initial : Layout := ⟨0, true⟩

/-- The number of open brackets behind a symbol. A closing bracket that closes nothing is
passed over. -/
def depthAfter (depth : Nat) : Symbol → Nat
  | .openParen | .openBracket => depth + 1
  | .closeParen | .closeBracket => depth - 1
  | _ => depth

/-- The token that a lexeme is under a layout, if it is one, and the layout behind it. -/
def read (layout : Layout) : Lexeme → Option Token × Layout
  | .blank => (none, layout)
  | .comment => (none, layout)
  | .lineFeed =>
    if layout.depth = 0 ∧ layout.fresh = false then (some .newline, { layout with fresh := true })
    else (none, layout)
  | .symbol symbol => (some (.symbol symbol), ⟨depthAfter layout.depth symbol, false⟩)
  | .word name => (some (.word (String.ofList name)), { layout with fresh := false })
  | .number numeral =>
    (some (.number (Number.Decimal.ofChars numeral).toFloat), { layout with fresh := false })
  | .text value => (some (.text (String.ofList value)), { layout with fresh := false })

end Layout

/-- A stream with a token, if there is one, in front. -/
def TokenStream.prepend (token : Option Token) (position : Position) (stream : TokenStream) :
    TokenStream :=
  match token with
  | none => stream
  | some token => ⟨⟨token, position⟩ :: stream.tokens, stream.stop⟩

/-- The tokens of the rest of a source that begins at a place under a layout. -/
def tokensFrom (position : Position) (layout : Layout) :
    List Char → Except SyntaxError TokenStream
  | [] => .ok ⟨[], position⟩
  | c :: cs =>
    match cut c cs with
    | .error fault => .error (fault.at c position)
    | .ok first =>
      let (token, behind) := layout.read first.lexeme
      (tokensFrom (position.after first.spelling) behind first.rest).map
        (TokenStream.prepend token position)
termination_by cs => cs.length
decreasing_by exact first.rest_length_lt

/-- The tokens of a source. -/
def tokens (source : String) : Except SyntaxError TokenStream :=
  tokensFrom .start .initial source.toList

end Storyweave.Language
