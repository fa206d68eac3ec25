/-!
# Tokens

What a source is made of once blanks, comments and line feeds inside brackets are gone, and
the faults that can be found in it.
-/

namespace Storyweave.Language

/-- A place in a source. Lines and columns count from one, columns in characters. -/
structure Position where
  line : Nat
  column : Nat
deriving DecidableEq, Repr

namespace Position

/-- Where a source begins. -/
def start : Position := ⟨1, 1⟩

/-- The place behind a character. -/
def next (p : Position) (c : Char) : Position :=
  if c = '\n' then ⟨p.line + 1, 1⟩ else ⟨p.line, p.column + 1⟩

/-- The place behind a stretch of characters. -/
def after (p : Position) (cs : List Char) : Position := cs.foldl next p

end Position

/-- The characters that are a token each. -/
inductive Symbol where
  | openParen | closeParen | openBracket | closeBracket
  | comma | equals | plus | slash
deriving DecidableEq, Repr

namespace Symbol

/-- The symbol that a character is, if it is one. -/
def ofChar? : Char → Option Symbol
  | '(' => some .openParen
  | ')' => some .closeParen
  | '[' => some .openBracket
  | ']' => some .closeBracket
  | ',' => some .comma
  | '=' => some .equals
  | '+' => some .plus
  | '/' => some .slash
  | _ => none

/-- A symbol in quotes. -/
def quoted : Symbol → String
  | .openParen => "'('"
  | .closeParen => "')'"
  | .openBracket => "'['"
  | .closeBracket => "']'"
  | .comma => "','"
  | .equals => "'='"
  | .plus => "'+'"
  | .slash => "'/'"

end Symbol

inductive Token where
  | word (name : String)
  | number (value : Float)
  | text (value : String)
  | symbol (symbol : Symbol)
  /-- The end of a line outside all brackets. -/
  | newline

/-- A token and the place where it begins. -/
structure Located where
  token : Token
  position : Position

/-- The tokens of a source and the place where it ends. -/
structure TokenStream where
  tokens : List Located
  stop : Position

end Storyweave.Language
