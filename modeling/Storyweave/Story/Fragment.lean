import Storyweave.Number.Binary64
import Storyweave.Text.Blank

/-!
# Fragments and compositions

A fragment is a piece of generated text with a weight. A composition is an ordered sequence
of fragments, none of them blank. Texts are joined as sentences: each is trimmed, and one
that has no end mark gets a period when another follows. `foldl_joinSentence` says that
joining texts one after the other and joining all at once come to the same.
-/

namespace Storyweave.Story

open Storyweave.Text

/-- Whether a character ends a sentence. -/
def endsSentence (c : Char) : Bool := c == '.' || c == '!' || c == '?'

/-! ## Sentences -/

/-- What stands between a sentence and the next one. -/
def separatorAfter (sentence : List Char) : List Char :=
  match sentence.getLast? with
  | none => []
  | some last => if endsSentence last then [' '] else ['.', ' ']

/-- Some characters with another sentence behind them. A blank sentence changes nothing. -/
def joinChars (buffer next : List Char) : List Char :=
  if next.all isBlank then buffer
  else
    let head := dropEnd isBlank buffer
    head ++ separatorAfter head ++ trimChars next

/-- A text with another sentence behind it. -/
def joinSentence (buffer next : String) : String :=
  String.ofList (joinChars buffer.toList next.toList)

/-- Trimmed sentences, one behind the other. -/
def proseOf : List (List Char) → List Char
  | [] => []
  | [last] => last
  | first :: rest => first ++ separatorAfter first ++ proseOf rest

/-- The sentences of texts, trimmed. Blank texts are left out. -/
def sentencesOf (texts : List String) : List (List Char) :=
  ((texts.map String.toList).filter fun cs => !cs.all isBlank).map trimChars

/-- Texts as sentences one behind the other. -/
def prose (texts : List String) : String := String.ofList (proseOf (sentencesOf texts))

theorem separatorAfter_append (xs : List Char) {ys : List Char} (h : ys ≠ []) :
    separatorAfter (xs ++ ys) = separatorAfter ys := by
  simp [separatorAfter, List.getLast?_append, List.getLast?_eq_some_getLast h]

/-- Joining trimmed sentences to what ends in one appends them all. -/
theorem foldl_append_separator {sentences : List (List Char)} (h : ∀ s ∈ sentences, s ≠ [])
    (buffer : List Char) :
    sentences.foldl (fun head s => head ++ separatorAfter head ++ s) buffer =
      if sentences = [] then buffer else buffer ++ separatorAfter buffer ++ proseOf sentences := by
  induction sentences generalizing buffer with
  | nil => rfl
  | cons first rest ih =>
    have hfirst : first ≠ [] := h first List.mem_cons_self
    rw [List.foldl_cons, ih fun s hs => h s (List.mem_cons_of_mem _ hs)]
    cases rest with
    | nil => simp [proseOf]
    | cons second rest =>
      rw [separatorAfter_append _ hfirst]
      simp [proseOf]

theorem foldl_joinChars (texts : List String) {buffer : List Char}
    (h : dropEnd isBlank buffer = buffer) :
    texts.foldl (fun head text => joinChars head text.toList) buffer =
      (sentencesOf texts).foldl (fun head s => head ++ separatorAfter head ++ s) buffer := by
  induction texts generalizing buffer with
  | nil => rfl
  | cons text rest ih =>
    rw [List.foldl_cons]
    cases hb : text.toList.all isBlank with
    | true => simpa [joinChars, sentencesOf, hb] using ih h
    | false =>
      have hjoin : joinChars buffer text.toList =
          buffer ++ separatorAfter buffer ++ trimChars text.toList := by
        simp only [joinChars, hb, h, Bool.false_eq_true, if_false]
      rw [hjoin, ih (dropEnd_append_of_last _ (exists_getLast?_trimChars hb))]
      simp [sentencesOf, hb]

theorem toList_foldl_joinSentence (texts : List String) (buffer : String) :
    (texts.foldl joinSentence buffer).toList =
      texts.foldl (fun head text => joinChars head text.toList) buffer.toList := by
  induction texts generalizing buffer with
  | nil => rfl
  | cons text rest ih => simp [ih, joinSentence]

theorem ne_nil_of_mem_sentencesOf {texts : List String} {s : List Char}
    (h : s ∈ sentencesOf texts) : s ≠ [] := by
  obtain ⟨cs, hcs, rfl⟩ := List.mem_map.1 h
  have hb : cs.all isBlank = false := by simpa using (List.mem_filter.1 hcs).2
  obtain ⟨last, hlast, -⟩ := exists_getLast?_trimChars hb
  intro hnil
  simp [hnil] at hlast

/-- Joining texts one after the other and joining all at once come to the same. -/
theorem foldl_joinSentence (texts : List String) : texts.foldl joinSentence "" = prose texts := by
  apply String.toList_injective
  rw [toList_foldl_joinSentence, prose, String.toList_ofList, foldl_joinChars texts rfl,
    foldl_append_separator fun s => ne_nil_of_mem_sentencesOf]
  split
  case isTrue h => simp [h, proseOf]
  case isFalse => simp [separatorAfter]

/-! ## Fragments -/

/-- A piece of generated text. -/
structure Fragment where
  text : String
  /-- How much it matters. -/
  weight : Float
  /-- The kernel that produced it, empty for plain words. -/
  kernel : String

/-- The weight of a fragment for which none is given. -/
def defaultWeight : Float := 1

namespace Fragment

/-- Whether a fragment shows nothing. -/
def isBlank (f : Fragment) : Bool := isBlankText f.text

/-- A fragment of plain words. -/
def plain (text : String) : Fragment := ⟨text, defaultWeight, ""⟩

/-- The same text with its weight divided. -/
def diluted (f : Fragment) (divisor : Float) : Fragment := { f with weight := f.weight / divisor }

/-- The text without its end marks, to stand inside a sentence. -/
def phrase (f : Fragment) : String :=
  String.ofList (dropEnd endsSentence (trimChars f.text.toList))

end Fragment

/-! ## Compositions -/

/-- Fragments in order, none of them blank. -/
structure Composition where
  parts : List Fragment
  none_blank : ∀ f ∈ parts, f.isBlank = false

namespace Composition

/-- The parts of two lists in order, without the blank ones. -/
def join (left right : List Fragment) : Composition :=
  ⟨(left ++ right).filter fun f => !f.isBlank, fun f hf => by
    simpa using (List.mem_filter.1 hf).2⟩

/-- The parts as consecutive sentences. -/
def text (c : Composition) : String := prose (c.parts.map Fragment.text)

/-- The largest weight of a part, at least zero. -/
def weight (c : Composition) : Float := (c.parts.map Fragment.weight).foldl Number.larger 0

/-- The same parts with their weights divided. -/
def diluted (c : Composition) (divisor : Float) : Composition :=
  ⟨c.parts.map (·.diluted divisor), fun f hf => by
    obtain ⟨g, hg, rfl⟩ := List.mem_map.1 hf
    exact c.none_blank g hg⟩

/-- A composition as one fragment. -/
def toFragment (c : Composition) : Fragment := ⟨c.text, c.weight, "+"⟩

end Composition

end Storyweave.Story
