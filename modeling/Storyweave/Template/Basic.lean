import Storyweave.English.Inflection
import Storyweave.Text.Numeric

/-!
# Templates

A template is text with named slots in braces; a brace that stands for itself is written
twice. Filling a template puts a value into every slot. A slot named `article` needs no
value: it becomes the article that fits the next slot.
-/

namespace Storyweave.Template

open Storyweave.Text

/-- Why a text is not a template. -/
inductive TemplateFault where
  | nestedBraces
  | unclosedBrace
  | emptyBraces
  | invalidSlotName (name : String)
  | unmatchedBrace
deriving DecidableEq, Repr

/-- A template fault in words. -/
def TemplateFault.describe : TemplateFault → String
  | .nestedBraces => "nested braces are not allowed"
  | .unclosedBrace => "unclosed brace"
  | .emptyBraces => "empty braces"
  | .invalidSlotName name => "invalid slot name '" ++ name ++ "'"
  | .unmatchedBrace => "unmatched closing brace"

inductive TemplateError where
  | malformed (fault : TemplateFault)
  | zeroWeight (category : String)
  | weightOverflow (category : String)
  | missingSlot (category slot : String)
deriving DecidableEq, Repr

/-- The largest sum of the weights in a category. -/
def maxWeight : Nat := 4294967295

/-- A template error in words. -/
def TemplateError.message : TemplateError → String
  | .malformed fault => "template parse error: " ++ fault.describe
  | .zeroWeight category =>
    "template category '" ++ category ++ "' has an alternative with zero weight"
  | .weightOverflow category =>
    "template category '" ++ category ++ "' has weights adding up to more than " ++
      toString maxWeight
  | .missingSlot category slot =>
    "template '" ++ category ++ "' needs slot '" ++ slot ++ "' but it was not provided"

inductive Segment where
  | literal (text : String)
  | slot (name : String)
deriving DecidableEq, Repr

/-! ## Reading -/

/-- The segment of some literal characters, last one first; none if there are none. -/
def literalOf (reversed : List Char) : List Segment :=
  if reversed.isEmpty then [] else [.literal (String.ofList reversed.reverse)]

/-- The name of a slot from what stands between its braces. -/
def slotName (content : List Char) : Except TemplateFault String :=
  let name := trimChars content
  if name.isEmpty then .error .emptyBraces
  else if name.all continuesName then .ok (String.ofList name)
  else .error (.invalidSlotName (String.ofList name))

/-- What stands behind an opening brace up to the next closing one, and the rest of the text.
Another opening brace must not come first. -/
def braced (cs : List Char) :
    Except TemplateFault (List Char × { behind : List Char // behind.length < cs.length }) :=
  let content := cs.takeWhile (· != '}')
  if content.contains '{' then .error .nestedBraces
  else
    match h : cs.dropWhile (· != '}') with
    | [] => .error .unclosedBrace
    | brace :: behind => .ok (content, ⟨behind, by
        have := (List.dropWhile_sublist (l := cs) (· != '}')).length_le
        rwa [h] at this⟩)

/-- The segments of a text behind literal characters that were read last one first. -/
def segmentsFrom (literal : List Char) : List Char → Except TemplateFault (List Segment)
  | [] => .ok (literalOf literal)
  | '{' :: '{' :: rest => segmentsFrom ('{' :: literal) rest
  | '}' :: '}' :: rest => segmentsFrom ('}' :: literal) rest
  | '{' :: rest => do
    let (content, behind) ← braced rest
    let name ← slotName content
    have := behind.property
    let segments ← segmentsFrom [] behind.val
    return literalOf literal ++ .slot name :: segments
  | '}' :: _ => .error .unmatchedBrace
  | c :: rest => segmentsFrom (c :: literal) rest
termination_by cs => cs.length

/-- The segments of a template text. -/
def parse (text : String) : Except TemplateError (List Segment) :=
  (segmentsFrom [] text.toList).mapError .malformed

/-- The names of the slots, in order. -/
def slotNames (segments : List Segment) : List String :=
  segments.filterMap fun
    | .slot name => some name
    | .literal _ => none

/-! ## Filling -/

/-- Values for slots. Of two values for a slot the first counts. -/
abbrev Slots := List (String × String)

/-- The first value that is not blank of the slots of some segments. -/
def nextValue (slots : Slots) (segments : List Segment) : Option String :=
  (slotNames segments).findSome? fun name => (slots.lookup name).filter (!isBlankText ·)

/-- A template with a value in every slot. -/
def fill (category : String) (slots : Slots) : List Segment → Except TemplateError String
  | [] => .ok ""
  | .literal text :: rest => return text ++ (← fill category slots rest)
  | .slot name :: rest =>
    match slots.lookup name with
    | some value => return value ++ (← fill category slots rest)
    | none =>
      if name = "article" then
        return English.article ((nextValue slots rest).getD "") ++ (← fill category slots rest)
      else .error (.missingSlot category name)

end Storyweave.Template
