import Storyweave.Text.Blank
import Storyweave.Text.Lowercase

/-!
# Inflection

Articles, verb forms and plurals of English words. The rules look at the last letters of a
word, so they read it from its end.
-/

namespace Storyweave.English

open Storyweave.Text

/-- Whether a letter is a small vowel. -/
def isVowel (c : Char) : Bool := "aeiou".toList.contains c

/-- The indefinite article for the word that follows: `an` before a vowel of either case. -/
def article (word : String) : String :=
  match word.toList.dropWhile isBlank with
  | [] => "a"
  | c :: _ => if isVowel c.toLower then "an" else "a"

/-- A word behind its indefinite article. -/
def withArticle (word : String) : String := article word ++ " " ++ word

/-- Verbs whose past tense follows no rule. -/
def irregularPast : List (String × String) :=
  [("be", "was"), ("begin", "began"), ("bring", "brought"), ("buy", "bought"), ("catch", "caught"),
    ("choose", "chose"), ("come", "came"), ("draw", "drew"), ("drink", "drank"), ("drive", "drove"),
    ("eat", "ate"), ("fall", "fell"), ("feed", "fed"), ("feel", "felt"), ("find", "found"),
    ("fly", "flew"), ("forget", "forgot"), ("freeze", "froze"), ("get", "got"), ("give", "gave"),
    ("go", "went"), ("grow", "grew"), ("have", "had"), ("hear", "heard"), ("hide", "hid"),
    ("hit", "hit"), ("hold", "held"), ("hurt", "hurt"), ("keep", "kept"), ("know", "knew"),
    ("lead", "led"), ("leave", "left"), ("let", "let"), ("lose", "lost"), ("make", "made"),
    ("meet", "met"), ("put", "put"), ("read", "read"), ("ride", "rode"), ("rise", "rose"),
    ("run", "ran"), ("say", "said"), ("see", "saw"), ("seek", "sought"), ("send", "sent"),
    ("shake", "shook"), ("shine", "shone"), ("sing", "sang"), ("sit", "sat"), ("sleep", "slept"),
    ("speak", "spoke"), ("spend", "spent"), ("stand", "stood"), ("steal", "stole"),
    ("swim", "swam"), ("take", "took"), ("teach", "taught"), ("tell", "told"), ("think", "thought"),
    ("throw", "threw"), ("understand", "understood"), ("wake", "woke"), ("wear", "wore"),
    ("win", "won"), ("write", "wrote")]

/-- A word from its letters, last letter first. -/
def ofEnd (reversed : List Char) : String := String.ofList reversed.reverse

/-- Whether the last letter is doubled before an ending, in a word read from its end: a
consonant other than `w`, `x` and `y` behind a single vowel. -/
def doublesLast : List Char → Bool
  | last :: middle :: before :: _ =>
    !isVowel last && !"wxy".toList.contains last && isVowel middle && !isVowel before
  | _ => false

/-- A word before an ending that starts with a vowel, its last letter doubled if need be. -/
def beforeVowel (word : String) : String :=
  match word.toList.reverse with
  | [] => ""
  | last :: rest => if doublesLast (last :: rest) then word.push last else word

/-- The simple past tense of a verb. -/
def pastTense (verb : String) : String :=
  let verb := lowercase verb
  match irregularPast.lookup verb with
  | some past => past
  | none =>
    match verb.toList.reverse with
    | 'e' :: _ => verb ++ "d"
    | 'y' :: before :: rest =>
      if isVowel before then verb ++ "ed" else ofEnd (before :: rest) ++ "ied"
    | _ => beforeVowel verb ++ "ed"

/-- The form of a verb that ends in `ing`. -/
def presentParticiple (verb : String) : String :=
  let verb := lowercase verb
  match verb.toList.reverse with
  | 'e' :: 'i' :: rest => ofEnd rest ++ "ying"
  | 'e' :: 'e' :: _ => verb ++ "ing"
  | 'e' :: rest => ofEnd rest ++ "ing"
  | _ => beforeVowel verb ++ "ing"

/-- The plural of a noun. -/
def pluralize (noun : String) : String :=
  match noun.toList.reverse with
  | 's' :: _ => noun ++ "es"
  | 'x' :: _ => noun ++ "es"
  | 'h' :: 's' :: _ => noun ++ "es"
  | 'h' :: 'c' :: _ => noun ++ "es"
  | 'y' :: before :: rest =>
    if isVowel before then noun ++ "s" else ofEnd (before :: rest) ++ "ies"
  | _ => noun ++ "s"

example : pastTense "stop" = "stopped" ∧ pastTense "Carry" = "carried" ∧
    pastTense "play" = "played" := by
  decide +kernel

example : presentParticiple "tie" = "tying" ∧ presentParticiple "make" = "making" := by
  decide +kernel

end Storyweave.English
