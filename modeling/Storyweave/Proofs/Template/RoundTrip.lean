import Mathlib
import Storyweave.Proofs.Text.Spacing
import Storyweave.Proofs.Text.Uppercase
import Storyweave.Template.Basic

/-!
# Writing templates

The way back from segments to a text: a literal is written with its braces doubled, a slot as its
name in braces. Reading keeps the literal characters that no slot has ended yet, so what is read is
stated for any such characters in front. Results:
1. `segmentsFrom_escape`, `segmentsFrom_slot`: a written literal, and a written slot, are read to
   their last character and no further, whatever stands behind them.
2. `segmentsFrom_print`: regular segments are read back from what they are written as.
3. `regular_of_segmentsFrom`: only regular segments are ever read.
4. `parse_print_iff`: so of all segments exactly the regular ones are read back.
-/

namespace Storyweave.Template

open Storyweave.Text

/-! ## Writing -/

/-- Literal characters as they are written in a template. -/
def escape (cs : List Char) : List Char :=
  cs.flatMap fun c => if c = '{' ∨ c = '}' then [c, c] else [c]

/-- A segment as it is written in a template. -/
def Segment.written : Segment → List Char
  | .literal text => escape text.toList
  | .slot name => '{' :: name.toList ++ ['}']

/-- The template text of some segments. -/
def print (segments : List Segment) : String := String.ofList (segments.flatMap Segment.written)

/-! ## Regular segments -/

/-- A segment that a template text can have: a literal that says something, or a slot whose name is
made of letters, numerals and low lines. -/
def Segment.Proper : Segment → Prop
  | .literal text => text ≠ ""
  | .slot name => name ≠ "" ∧ ∀ c ∈ name.toList, continuesName c = true

def Segment.isLiteral : Segment → Bool
  | .literal _ => true
  | .slot _ => false

/-- Proper segments of which no two literals stand side by side. -/
structure Regular (segments : List Segment) : Prop where
  proper : ∀ segment ∈ segments, segment.Proper
  apart : segments.IsChain fun a b => a.isLiteral = true → b.isLiteral = false

variable {segments : List Segment} {name : String} {literal : List Char}

theorem Regular.nil : Regular [] := ⟨by simp, .nil⟩

theorem regular_cons_iff {segment : Segment} : Regular (segment :: segments) ↔ segment.Proper ∧
    (segment.isLiteral = true → ∀ next ∈ segments.head?, next.isLiteral = false) ∧
    Regular segments := by
  constructor
  · rintro ⟨hproper, hapart⟩
    obtain ⟨hfirst, hrest⟩ := List.forall_mem_cons.1 hproper
    obtain ⟨hnext, hapart⟩ := List.isChain_cons.1 hapart
    exact ⟨hfirst, fun hlit next hmem => hnext next hmem hlit, hrest, hapart⟩
  · rintro ⟨hfirst, hnext, hrest, hapart⟩
    refine ⟨List.forall_mem_cons.2 ⟨hfirst, hrest⟩, List.isChain_cons.2 ⟨?_, hapart⟩⟩
    exact fun next hmem hlit => hnext hlit next hmem

/-- What literal characters come to may stand in front of a slot and at the end. -/
theorem Regular.behind_literalOf (h : Regular segments)
    (hnext : ∀ next ∈ segments.head?, next.isLiteral = false) (literal : List Char) :
    Regular (literalOf literal ++ segments) := by
  unfold literalOf
  split
  case isTrue => exact h
  case isFalse hne =>
    refine regular_cons_iff.2 ⟨?_, fun _ => hnext, h⟩
    simpa [Segment.Proper] using hne

/-! ## Names of slots -/

theorem continuesName_brace : continuesName '{' = false ∧ continuesName '}' = false := by
  decide +kernel

theorem isBlank_eq_false_of_continuesName {c : Char} (h : continuesName c = true) :
    isBlank c = false := by
  rw [continuesName, Bool.or_eq_true, beq_iff_eq] at h
  rcases h with halpha | rfl
  · exact isBlank_eq_false_of_isAlphanumeric halpha
  · decide

theorem ne_brace_of_continuesName {c : Char} (h : continuesName c = true) : c ≠ '{' ∧ c ≠ '}' := by
  constructor <;> rintro rfl
  · rw [continuesName_brace.1] at h; cases h
  · rw [continuesName_brace.2] at h; cases h

/-- A name between braces is that name. -/
theorem slotName_toList (h : (Segment.slot name).Proper) : slotName name.toList = .ok name := by
  have hvisible : ∀ c ∈ name.toList, isBlank c = false := fun c hc =>
    isBlank_eq_false_of_continuesName (h.2 c hc)
  have htrim : trimChars name.toList = name.toList :=
    trimChars_of_ends (fun c hc => hvisible c (List.mem_of_mem_head? hc))
      (fun c hc => hvisible c (List.mem_of_mem_getLast? hc))
  have hne : name.toList.isEmpty = false := by simpa using h.1
  have hall : name.toList.all continuesName = true := List.all_eq_true.2 h.2
  simp only [slotName, htrim, hne, hall, Bool.false_eq_true, if_false, if_true, String.ofList_toList]

/-- What is read as a name is one. -/
theorem proper_of_slotName {content : List Char} (h : slotName content = .ok name) :
    (Segment.slot name).Proper := by
  simp only [slotName] at h
  split at h
  · cases h
  · split at h
    case isTrue hne hall =>
      obtain rfl := Except.ok.inj h
      exact ⟨by simpa using hne, by simpa using hall⟩
    case isFalse => cases h

theorem braced_append {content : List Char} (h : ∀ c ∈ content, c ≠ '{' ∧ c ≠ '}')
    (behind : List Char) : ∃ hlt, braced (content ++ '}' :: behind) =
      .ok (content, ⟨behind, hlt⟩) := by
  have hinside : ∀ c ∈ content, (c != '}') = true := fun c hc => by simpa using (h c hc).2
  have htake : (content ++ '}' :: behind).takeWhile (· != '}') = content := by
    rw [List.takeWhile_append_of_pos hinside]
    simp
  have hdrop : (content ++ '}' :: behind).dropWhile (· != '}') = '}' :: behind := by
    rw [List.dropWhile_append_of_pos hinside]
    simp
  have hopen : content.contains '{' = false := by
    simpa using fun hmem => (h _ hmem).1 rfl
  refine ⟨by rw [List.length_append, List.length_cons]; omega, ?_⟩
  simp only [braced, htake, hopen, Bool.false_eq_true, if_false]
  split
  case h_1 hnil => rw [hdrop] at hnil; cases hnil
  case h_2 brace rest hcons =>
    rw [hdrop] at hcons
    cases hcons
    rfl

/-! ## Reading what is written -/

/-- A written literal adds its characters to those that no slot has ended yet. -/
theorem segmentsFrom_escape (cs literal rest : List Char) :
    segmentsFrom literal (escape cs ++ rest) = segmentsFrom (cs.reverse ++ literal) rest := by
  induction cs generalizing literal with
  | nil => rfl
  | cons c cs ih =>
    rw [escape, List.flatMap_cons, List.append_assoc, ← escape]
    have hnext : segmentsFrom literal ((if c = '{' ∨ c = '}' then [c, c] else [c]) ++
        (escape cs ++ rest)) = segmentsFrom (c :: literal) (escape cs ++ rest) := by
      by_cases hbrace : c = '{' ∨ c = '}'
      · rw [if_pos hbrace]
        rcases hbrace with rfl | rfl
        · exact segmentsFrom.eq_2 ..
        · exact segmentsFrom.eq_3 ..
      · rw [if_neg hbrace]
        rw [not_or] at hbrace
        refine segmentsFrom.eq_6 _ _ _ ?_ ?_ hbrace.1 hbrace.2
        · exact fun _ h => absurd h hbrace.1
        · exact fun _ h => absurd h hbrace.2
    rw [hnext, ih, List.reverse_cons, List.append_assoc, List.singleton_append]

/-- A written slot ends the literal in front of it, and what follows is read on its own. -/
theorem segmentsFrom_slot (h : (Segment.slot name).Proper) (literal rest : List Char) :
    segmentsFrom literal ((Segment.slot name).written ++ rest) =
      (segmentsFrom [] rest).map fun segments => literalOf literal ++ .slot name :: segments := by
  have hbraces : ∀ c ∈ name.toList, c ≠ '{' ∧ c ≠ '}' := fun c hc =>
    ne_brace_of_continuesName (h.2 c hc)
  have hwritten : (Segment.slot name).written ++ rest = '{' :: (name.toList ++ '}' :: rest) := by
    simp [Segment.written]
  -- the name begins with something else than a brace, so the brace in front is not a doubled one
  have hsingle : ∀ more, name.toList ++ '}' :: rest = '{' :: more → False := by
    intro more heq
    cases hname : name.toList with
    | nil => exact h.1 (by simpa using hname)
    | cons c cs =>
      rw [hname, List.cons_append] at heq
      exact (hbraces c (by simp [hname])).1 (List.cons.inj heq).1
  obtain ⟨hlt, hbraced⟩ := braced_append hbraces rest
  rw [hwritten, segmentsFrom.eq_4 _ _ hsingle, hbraced]
  simp only [bind, Except.bind, slotName_toList h]
  cases segmentsFrom [] rest <;> rfl

/-- Regular segments are read back from what they are written as. -/
theorem segmentsFrom_print (h : Regular segments)
    (hliteral : literal ≠ [] → ∀ first ∈ segments.head?, first.isLiteral = false) :
    segmentsFrom literal (segments.flatMap Segment.written) =
      .ok (literalOf literal ++ segments) := by
  induction segments generalizing literal with
  | nil => simp [segmentsFrom]
  | cons segment segments ih =>
    obtain ⟨hproper, hnext, hrest⟩ := regular_cons_iff.1 h
    rw [List.flatMap_cons]
    cases segment with
    | literal text =>
      have hnil : literal = [] := by
        by_contra hne
        exact absurd (hliteral hne _ rfl) (by simp [Segment.isLiteral])
      have htext : text.toList.isEmpty = false := by simpa [Segment.Proper] using hproper
      rw [hnil, Segment.written, segmentsFrom_escape, List.append_nil,
        ih hrest fun _ => hnext rfl]
      simp [literalOf, htext]
    | slot name =>
      rw [segmentsFrom_slot hproper, ih hrest fun hne => absurd rfl hne]
      rfl

/-! ## Reading makes regular segments -/

/-- Only regular segments are read, whatever literal characters stand in front. -/
theorem regular_of_segmentsFrom {cs : List Char} (h : segmentsFrom literal cs = .ok segments) :
    Regular segments := by
  induction literal, cs using segmentsFrom.induct generalizing segments with
  | case1 literal =>
    rw [segmentsFrom] at h
    obtain rfl := Except.ok.inj h
    simpa using Regular.nil.behind_literalOf (by simp) literal
  | case2 literal rest ih => exact ih (by rwa [segmentsFrom] at h)
  | case3 literal rest ih => exact ih (by rwa [segmentsFrom] at h)
  | case4 literal rest hsingle ih =>
    rw [segmentsFrom.eq_4 _ _ hsingle] at h
    cases hbraced : braced rest with
    | error fault => rw [hbraced] at h; cases h
    | ok found =>
      obtain ⟨content, behind⟩ := found
      cases hname : slotName content with
      | error fault => simp [hbraced, hname, bind, Except.bind] at h
      | ok name =>
        cases hlater : segmentsFrom [] behind.val with
        | error fault => simp [hbraced, hname, hlater, bind, Except.bind] at h
        | ok later =>
          simp only [hbraced, hname, hlater, bind, Except.bind, pure, Except.pure,
            Except.ok.injEq] at h
          subst h
          refine Regular.behind_literalOf ?_ (by simp [Segment.isLiteral]) literal
          exact regular_cons_iff.2
            ⟨proper_of_slotName hname, by simp [Segment.isLiteral], ih behind hlater⟩
  | case5 literal tail hsingle =>
    rw [segmentsFrom.eq_5 _ _ hsingle] at h
    cases h
  | case6 literal c rest hopening hclosing hopen hclose ih =>
    exact ih (by rwa [segmentsFrom.eq_6 _ _ _ hopening hclosing hopen hclose] at h)

/-! ## Templates -/

theorem parse_eq_ok_iff {text : String} :
    parse text = .ok segments ↔ segmentsFrom [] text.toList = .ok segments := by
  rw [parse]
  cases segmentsFrom [] text.toList <;> simp [Except.mapError]

theorem parse_print (h : Regular segments) : parse (print segments) = .ok segments := by
  rw [parse_eq_ok_iff, print, String.toList_ofList]
  exact segmentsFrom_print h fun hne => absurd rfl hne

/-- Of all segments exactly the regular ones are read back from what they are written as. Whatever
is read from a text is regular, so it is read back from what it is written as. A text whose braces
are doubled is read as that text. -/
theorem parse_print_iff :
    (∀ segments, parse (print segments) = .ok segments ↔ Regular segments) ∧
    (∀ text segments, parse text = .ok segments →
      Regular segments ∧ parse (print segments) = .ok segments) ∧
    (∀ text : String, parse (String.ofList (escape text.toList)) =
      .ok (if text = "" then [] else [.literal text])) := by
  have hregular (text : String) {segments : List Segment} (h : parse text = .ok segments) :
      Regular segments := regular_of_segmentsFrom (parse_eq_ok_iff.1 h)
  refine ⟨fun segments => ⟨hregular _, parse_print⟩, fun text segments h => ?_, fun text => ?_⟩
  · exact ⟨hregular text h, parse_print (hregular text h)⟩
  · rw [parse_eq_ok_iff, String.toList_ofList]
    have hread := segmentsFrom_escape text.toList [] []
    rw [List.append_nil, List.append_nil, segmentsFrom] at hread
    rw [hread, literalOf]
    by_cases htext : text = ""
    · simp [htext]
    · simp [htext]

/-- Braces beside slots, and blanks inside the braces of a slot. -/
theorem parse_print_braces_beside_slots :
    let segments : List Segment :=
      [.literal "\x7b", .slot "a", .literal "\x7d ran ", .slot "b_1", .slot "c"]
    let text := "\x7b\x7b\x7b a \x7d\x7d\x7d ran \x7b b_1\x7d\x7bc\x7d"
    parse text = .ok segments ∧ Regular segments ∧
      print segments = "\x7b\x7b\x7ba\x7d\x7d\x7d ran \x7bb_1\x7d\x7bc\x7d" ∧
      parse (print segments) = .ok segments := by
  intro segments text
  have hread : parse text = .ok segments := by cbv
  obtain ⟨hregular, hagain⟩ := parse_print_iff.2.1 text segments hread
  exact ⟨hread, hregular, by decide, hagain⟩

end Storyweave.Template
