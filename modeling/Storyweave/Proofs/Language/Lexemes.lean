import Storyweave.Proofs.Language.Reading
import Storyweave.Proofs.Number.Numeral
import Storyweave.Proofs.Text.Uppercase
import Storyweave.Language.Printer

/-!
# Lexemes and their tokens

The tokens of a source without their places, one lexeme after the other. Results:
1. `tokens_eq_ok_iff`: the tokens of a source do not depend on the place where it begins.
2. `lexed_word`, `lexed_number`, `lexed_text`: a name, a numeral and a quoted text are one token
   each, if nothing that would continue them follows.
3. `isName_of_lexed`: every word among the tokens of a source is a name.
-/

namespace Storyweave.Language

open Storyweave.Text

/-- A letter or a low line, and letters, numerals and low lines behind it. -/
def IsName (word : String) : Prop :=
  ∃ c cs, word.toList = c :: cs ∧ startsName c = true ∧ ∀ d ∈ cs, continuesName d = true

/-- What continues neither a name nor a number stands in front. -/
def Delimited (rest : List Char) : Prop := ∀ c ∈ rest.head?, continuesName c = false ∧ c ≠ '.'

/-- What stands behind a number with a fraction, or without one, that does not continue it. -/
structure EndsNumber (fraction rest : List Char) : Prop where
  no_digit : ∀ c ∈ rest.head?, c.isDigit = false
  no_fraction : fraction = [] → fractionLength rest = 0

/-- The tokens of the rest of a source under a layout, if no fault is found. -/
def lexed (layout : Layout) : List Char → Option (List Token)
  | [] => some []
  | c :: cs =>
    match cut c cs with
    | .error _ => none
    | .ok first =>
      (lexed (layout.read first.lexeme).2 first.rest).map
        ((layout.read first.lexeme).1.toList ++ ·)
termination_by cs => cs.length
decreasing_by exact first.rest_length_lt

theorem kinds_prepend (token : Option Token) (position : Position) (stream : TokenStream) :
    kinds (TokenStream.prepend token position stream).tokens =
      token.toList ++ kinds stream.tokens := by
  cases token <;> rfl

theorem lexed_eq (position : Position) (layout : Layout) (cs : List Char) :
    (tokensFrom position layout cs).toOption.map (fun stream => kinds stream.tokens) =
      lexed layout cs := by
  induction hn : cs.length using Nat.strongRecOn generalizing position layout cs with
  | _ n ih =>
    cases cs with
    | nil => rw [tokensFrom, lexed]; rfl
    | cons c cs =>
      rw [tokensFrom, lexed]
      cases hcut : cut c cs with
      | error fault => rfl
      | ok first =>
        have hlt : first.rest.length < n := hn ▸ first.rest_length_lt
        have hrest := ih _ hlt (position.after first.spelling) (layout.read first.lexeme).2 _ rfl
        dsimp only
        rw [← hrest]
        cases tokensFrom (position.after first.spelling) (layout.read first.lexeme).2
          first.rest with
        | error fault => rfl
        | ok stream => exact congrArg some (kinds_prepend _ _ _)

/-- The tokens of a source, without their places. -/
theorem tokens_eq_ok_iff {source : String} {ts : List Token} :
    lexed .initial source.toList = some ts ↔
      ∃ stream, tokens source = .ok stream ∧ kinds stream.tokens = ts := by
  rw [← lexed_eq .start, tokens]
  cases tokensFrom .start .initial source.toList with
  | error fault => simp [Except.toOption]
  | ok stream => simp [Except.toOption]

/-- The first lexeme gives the first token, if it is one, and the layout for what follows. -/
theorem lexed_of_cut {c : Char} {cs : List Char} {lexeme : Lexeme} {rest : List Char}
    (h : ∃ first, cut c cs = .ok first ∧ first.lexeme = lexeme ∧ first.rest = rest)
    (layout : Layout) :
    lexed layout (c :: cs) =
      (lexed (layout.read lexeme).2 rest).map ((layout.read lexeme).1.toList ++ ·) := by
  obtain ⟨first, hcut, rfl, rfl⟩ := h
  rw [lexed, hcut]

/-! ## Characters -/

theorem mem_digits {c : Char} (h : c.isDigit = true) :
    c ∈ ['0', '1', '2', '3', '4', '5', '6', '7', '8', '9'] := by
  have hrange : 48 ≤ c.toNat ∧ c.toNat ≤ 57 := by
    simpa [Char.isDigit, UInt32.le_iff_toNat_le] using h
  rw [← Char.ofNat_toNat c]
  have hcode : c.toNat ∈ List.range' 48 10 := by
    rw [List.mem_range'_1]
    omega
  generalize c.toNat = code at hcode
  revert code
  decide

/-- No blank stands in a name. -/
theorem continuesName_eq_false_of_isBlank {c : Char} (h : isBlank c = true) :
    continuesName c = false := by
  rw [continuesName, Bool.or_eq_false_iff]
  constructor
  · rw [Bool.eq_false_iff]
    intro hletter
    rw [isBlank_eq_false_of_isAlphanumeric hletter] at h
    cases h
  · rw [beq_eq_false_iff_ne]
    rintro rfl
    exact absurd h (by decide)

/-- No blank begins a name. -/
theorem startsName_eq_false_of_isBlank {c : Char} (h : isBlank c = true) :
    startsName c = false := by
  rw [Bool.eq_false_iff]
  intro hstart
  have hcontinues := continuesName_eq_false_of_isBlank h
  rw [continuesName_of_startsName hstart] at hcontinues
  cases hcontinues

/-- No symbol begins a name. -/
theorem ofChar?_eq_none_of_startsName {c : Char} (h : startsName c = true) :
    Symbol.ofChar? c = none := by
  unfold Symbol.ofChar?
  split
  all_goals first | rfl | exact absurd h (by decide)

theorem fractionLength_eq_zero {rest : List Char} (h : ∀ c ∈ rest.head?, c ≠ '.') :
    fractionLength rest = 0 := by
  unfold fractionLength
  split
  · exact absurd rfl (h _ rfl)
  · rfl

theorem continuesName_of_isDigit {c : Char} (h : c.isDigit = true) : continuesName c = true := by
  have hall : ['0', '1', '2', '3', '4', '5', '6', '7', '8', '9'].all continuesName = true := by
    decide +kernel
  exact List.all_eq_true.1 hall c (mem_digits h)

theorem Delimited.endsNumber {rest : List Char} (h : Delimited rest) (fraction : List Char) :
    EndsNumber fraction rest where
  no_digit := by
    intro c hc
    cases hdigit : c.isDigit with
    | false => rfl
    | true =>
      have hends := (h c hc).1
      rw [continuesName_of_isDigit hdigit] at hends
      cases hends
  no_fraction _ := fractionLength_eq_zero fun c hc => (h c hc).2

/-! ## Single lexemes -/

theorem lexed_space (layout : Layout) (rest : List Char) :
    lexed layout (' ' :: rest) = lexed layout rest := by
  rw [lexed_of_cut ⟨_, rfl, rfl, rfl⟩]
  simp [Layout.read]

theorem lexed_lineFeed (rest : List Char) :
    lexed ⟨0, false⟩ ('\n' :: rest) = (lexed ⟨0, true⟩ rest).map (.newline :: ·) := by
  rw [lexed_of_cut ⟨_, rfl, rfl, rfl⟩]
  rfl

theorem lexed_symbol {c : Char} {mark : Symbol} (h : Symbol.ofChar? c = some mark)
    (depth : Nat) (fresh : Bool) (rest : List Char) :
    lexed ⟨depth, fresh⟩ (c :: rest) =
      (lexed ⟨Layout.depthAfter depth mark, false⟩ rest).map (.symbol mark :: ·) := by
  have hcut : ∃ first, cut c rest = .ok first ∧ first.lexeme = .symbol mark ∧
      first.rest = rest := by
    unfold Symbol.ofChar? at h
    split at h
    all_goals first | cases h; exact ⟨_, rfl, rfl, rfl⟩ | cases h
  rw [lexed_of_cut hcut]
  rfl

/-- A name is one token. -/
theorem lexed_word {word : String} (h : IsName word) (depth : Nat) (fresh : Bool)
    {rest : List Char} (hrest : Delimited rest) :
    lexed ⟨depth, fresh⟩ (word.toList ++ rest) =
      (lexed ⟨depth, false⟩ rest).map (.word word :: ·) := by
  obtain ⟨c, cs, hword, hstart, hcontinue⟩ := h
  obtain ⟨htake, hdrop⟩ := Number.takeWhile_dropWhile_append hcontinue fun d hd => (hrest d hd).1
  have hline : c ≠ '\n' := by
    rintro rfl
    exact absurd hstart (by decide)
  have hblank : ¬isBlank c = true := by
    intro hblank
    rw [startsName_eq_false_of_isBlank hblank] at hstart
    cases hstart
  have hcomment : c ≠ '#' := by
    rintro rfl
    exact absurd hstart (by decide)
  have hcut : ∃ first, cut c (cs ++ rest) = .ok first ∧ first.lexeme = .word (c :: cs) ∧
      first.rest = rest := by
    refine ⟨⟨.word (c :: (cs ++ rest).takeWhile continuesName),
      c :: (cs ++ rest).takeWhile continuesName, (cs ++ rest).dropWhile continuesName,
      List.cons_ne_nil _ _, by simp [List.takeWhile_append_dropWhile]⟩, ?_, ?_, hdrop⟩
    · unfold cut
      rw [if_neg hline, if_neg hblank, if_neg hcomment, ofChar?_eq_none_of_startsName hstart]
      exact if_pos hstart
    · exact congrArg (fun name => Lexeme.word (c :: name)) htake
  rw [hword, List.cons_append, lexed_of_cut hcut]
  simp only [Layout.read, ← hword, String.ofList_toList]
  rfl

/-- The fraction of a number ends where no digit follows. -/
theorem fractionLength_append {fraction rest : List Char} (h : Number.Fraction fraction)
    (hrest : EndsNumber fraction rest) :
    fractionLength (fraction ++ rest) = fraction.length := by
  rcases h with rfl | ⟨digits, rfl, hne, hall⟩
  · exact hrest.no_fraction rfl
  · cases digits with
    | nil => exact absurd rfl hne
    | cons d more =>
      obtain ⟨hd, hmore⟩ := List.forall_mem_cons.1 hall
      obtain ⟨htake, -⟩ := Number.takeWhile_dropWhile_append hmore hrest.no_digit
      simp only [List.cons_append, fractionLength, hd, if_true, htake, List.length_cons]
      omega

/-- No digit stands behind the digits of a number. -/
theorem EndsNumber.head_not_digit {fraction rest : List Char} (h : EndsNumber fraction rest)
    (hfraction : Number.Fraction fraction) : ∀ d ∈ (fraction ++ rest).head?, d.isDigit = false := by
  cases fraction with
  | nil => exact h.no_digit
  | cons d more => exact hfraction.head_not_digit

/-- A numeral is cut off up to what does not continue it. -/
theorem cutNumber_append {c : Char} {digits fraction rest : List Char}
    (hdigits : ∀ d ∈ digits, d.isDigit = true) (hfraction : Number.Fraction fraction)
    (hrest : EndsNumber fraction rest) :
    (cutNumber c (digits ++ (fraction ++ rest))).lexeme = .number (c :: (digits ++ fraction)) ∧
      (cutNumber c (digits ++ (fraction ++ rest))).rest = rest := by
  obtain ⟨htake, hdrop⟩ :=
    Number.takeWhile_dropWhile_append hdigits (hrest.head_not_digit hfraction)
  simp only [cutNumber, htake, hdrop, fractionLength_append hfraction hrest, List.take_left,
    List.drop_left, and_self]

/-- What stands behind the digits of a number is its fraction and what does not continue it. -/
theorem fraction_take (behind : List Char) (h : ∀ c ∈ behind.head?, c.isDigit = false) :
    Number.Fraction (behind.take (fractionLength behind)) ∧
      EndsNumber (behind.take (fractionLength behind)) (behind.drop (fractionLength behind)) := by
  by_cases hzero : fractionLength behind = 0
  · rw [hzero]
    exact ⟨.inl List.take_zero, h, fun _ => hzero⟩
  revert hzero
  fun_cases fractionLength behind with
  | case1 d more hd =>
    have hdigits : ∀ c ∈ d :: more.takeWhile Char.isDigit, c.isDigit = true := by
      simpa [hd] using List.all_eq_true.1 (List.all_takeWhile (p := Char.isDigit) (l := more))
    have hbehind : ('.' :: d :: more) =
        '.' :: d :: more.takeWhile Char.isDigit ++ more.dropWhile Char.isDigit := by
      simp [List.takeWhile_append_dropWhile]
    have hlength : 2 + (more.takeWhile Char.isDigit).length =
        ('.' :: d :: more.takeWhile Char.isDigit).length := Nat.add_comm 2 _
    intro _
    rw [hlength, hbehind, List.take_left, List.drop_left]
    refine ⟨.inr ⟨_, rfl, List.cons_ne_nil _ _, hdigits⟩, fun c hc => ?_, nofun⟩
    have hnot := List.head?_dropWhile_not Char.isDigit more
    rwa [Option.mem_def.1 hc] at hnot
  | case2 => exact fun hzero => absurd rfl hzero
  | case3 => exact fun hzero => absurd rfl hzero

/-- A number is spelled with digits and a fraction, and ends where nothing continues it. -/
theorem exists_cutNumber (c : Char) (cs : List Char) :
    ∃ digits fraction, (∀ d ∈ digits, d.isDigit = true) ∧ Number.Fraction fraction ∧
      (cutNumber c cs).spelling = c :: (digits ++ fraction) ∧
      (cutNumber c cs).lexeme = .number (c :: (digits ++ fraction)) ∧
      EndsNumber fraction (cutNumber c cs).rest := by
  have hbehind : ∀ d ∈ (cs.dropWhile Char.isDigit).head?, d.isDigit = false := by
    intro d hd
    have hnot := List.head?_dropWhile_not Char.isDigit cs
    rwa [Option.mem_def.1 hd] at hnot
  obtain ⟨hfraction, hends⟩ := fraction_take _ hbehind
  exact ⟨_, _, List.all_eq_true.1 List.all_takeWhile, hfraction, rfl, rfl, hends⟩

theorem cut_number {c : Char} {cs : List Char} (h : startsNumber c cs = true) :
    cut c cs = .ok (cutNumber c cs) := by
  have hstart : c ∈ '-' :: ['0', '1', '2', '3', '4', '5', '6', '7', '8', '9'] := by
    simp only [startsNumber, Bool.or_eq_true, Bool.and_eq_true, beq_iff_eq] at h
    rcases h with hdigit | ⟨rfl, -⟩
    · exact List.mem_cons_of_mem _ (mem_digits hdigit)
    · exact List.mem_cons_self
  have hother : ('-' :: ['0', '1', '2', '3', '4', '5', '6', '7', '8', '9']).all (fun c =>
      decide (c ≠ '\n' ∧ isBlank c = false ∧ c ≠ '#' ∧ Symbol.ofChar? c = none ∧
        startsName c = false)) = true := by
    decide
  obtain ⟨hline, hblank, hcomment, hsymbol, hname⟩ :=
    of_decide_eq_true (List.all_eq_true.1 hother c hstart)
  unfold cut
  rw [if_neg hline, if_neg (by rw [hblank]; decide), if_neg hcomment, hsymbol]
  dsimp only
  rw [if_neg (by rw [hname]; decide), if_pos h]

/-- A numeral is one token. -/
theorem lexed_number {numeral : List Char} (h : Number.Numeral numeral) (depth : Nat) (fresh : Bool)
    {rest : List Char} (hrest : Delimited rest) :
    lexed ⟨depth, fresh⟩ (numeral ++ rest) =
      (lexed ⟨depth, false⟩ rest).map
        (.number (Number.Decimal.ofChars numeral).toFloat :: ·) := by
  obtain ⟨negative, whole, fraction, rfl, ⟨hne, hwhole⟩, hfraction⟩ := h
  cases whole with
  | nil => exact absurd rfl hne
  | cons d more =>
    obtain ⟨hd, hmore⟩ := List.forall_mem_cons.1 hwhole
    cases negative with
    | true =>
      have hstart : startsNumber '-' (d :: more ++ (fraction ++ rest)) = true := by
        simp [startsNumber, hd]
      obtain ⟨hlexeme, hbehind⟩ := @cutNumber_append '-' _ _ _ hwhole hfraction (hrest.endsNumber _)
      show lexed _ ('-' :: (d :: more ++ fraction ++ rest)) = _
      rw [List.append_assoc, lexed_of_cut ⟨_, cut_number hstart, hlexeme, hbehind⟩]
      rfl
    | false =>
      have hstart : startsNumber d (more ++ (fraction ++ rest)) = true := by
        simp [startsNumber, hd]
      obtain ⟨hlexeme, hbehind⟩ := @cutNumber_append d _ _ _ hmore hfraction (hrest.endsNumber _)
      show lexed _ (d :: (more ++ fraction ++ rest)) = _
      rw [List.append_assoc, lexed_of_cut ⟨_, cut_number hstart, hlexeme, hbehind⟩]
      rfl

/-- A character is written behind a backslash and read back, or stands for itself. -/
theorem escape_cases (c : Char) :
    (∃ e, escape c = ['\\', e] ∧ unescape? e = some c) ∨
      escape c = [c] ∧ c ≠ '"' ∧ c ≠ '\n' ∧ c ≠ '\\' := by
  unfold escape
  split
  · exact .inl ⟨_, rfl, rfl⟩
  · exact .inl ⟨_, rfl, rfl⟩
  · exact .inl ⟨_, rfl, rfl⟩
  · exact .inl ⟨_, rfl, rfl⟩
  · next hquote hbackslash hline _ => exact .inr ⟨rfl, hquote, hline, hbackslash⟩

/-- A text between quotes is read back, whatever its characters are. -/
theorem quoted_escape (value rest : List Char) :
    ∃ q, quoted '"' (value.flatMap escape ++ '"' :: rest) = .ok q ∧ q.value = value ∧
      q.rest = rest := by
  induction value with
  | nil =>
    rw [List.flatMap_nil, List.nil_append, quoted.eq_def]
    exact ⟨⟨[], ['"'], rest, rfl⟩, rfl, rfl, rfl⟩
  | cons c more ih =>
    obtain ⟨q, hq, hvalue, hrest⟩ := ih
    rw [List.flatMap_cons, List.append_assoc]
    rcases escape_cases c with ⟨e, hescape, hmeant⟩ | ⟨hescape, hquote, hline, hbackslash⟩
    · rw [hescape, List.cons_append, List.singleton_append, quoted.eq_def]
      simp only [hmeant, hq]
      exact ⟨_, rfl, congrArg (c :: ·) hvalue, hrest⟩
    · rw [hescape, List.singleton_append, quoted.eq_def]
      dsimp only
      rw [if_neg hquote, if_neg hline, if_neg hbackslash, hq]
      exact ⟨_, rfl, congrArg (c :: ·) hvalue, hrest⟩

theorem cut_quote {cs : List Char} {q : Quoted cs} (h : quoted '"' cs = .ok q) :
    cut '"' cs = .ok ⟨.text q.value, '"' :: q.spelling, q.rest, List.cons_ne_nil _ _,
      congrArg ('"' :: ·) q.whole⟩ := by
  have hblank : isBlank '"' = false := by decide
  have hname : startsName '"' = false := by decide
  have hnumber : startsNumber '"' cs = false := by rfl
  unfold cut
  rw [if_neg (by decide), if_neg (by rw [hblank]; decide), if_neg (by decide)]
  show (if startsName '"' = true then _ else _) = _
  rw [if_neg (by rw [hname]; decide), if_neg (by rw [hnumber]; decide), if_pos (by decide), h]

/-- A quoted text is one token. -/
theorem lexed_text (value : String) (depth : Nat) (fresh : Bool) (rest : List Char) :
    lexed ⟨depth, fresh⟩ ((quote value).toList ++ rest) =
      (lexed ⟨depth, false⟩ rest).map (.text value :: ·) := by
  obtain ⟨q, hq, hvalue, hrest⟩ := quoted_escape value.toList rest
  have hspelling : (quote value).toList ++ rest =
      '"' :: (value.toList.flatMap escape ++ '"' :: rest) := by
    simp [quote, String.toList_append]
  have hcut : ∃ first, cut '"' (value.toList.flatMap escape ++ '"' :: rest) = .ok first ∧
      first.lexeme = .text value.toList ∧ first.rest = rest :=
    ⟨_, cut_quote hq, congrArg Lexeme.text hvalue, hrest⟩
  rw [hspelling, lexed_of_cut hcut]
  simp only [Layout.read, String.ofList_toList]
  rfl

/-! ## Lexemes in front of something else -/

/-- A source is the spelling of its first lexeme and what follows. -/
theorem Cut.exists_append {c : Char} {cs : List Char} (first : Cut (c :: cs)) :
    ∃ w rest, first.spelling = c :: w ∧ first.rest = rest ∧ cs = w ++ rest := by
  obtain ⟨d, w, hspelling⟩ := List.exists_cons_of_ne_nil first.nonempty
  have hwhole := first.whole
  rw [hspelling, List.cons_append, List.cons.injEq] at hwhole
  exact ⟨w, first.rest, hwhole.1 ▸ hspelling, rfl, hwhole.2.symm⟩

/-- A quoted text ends at its quote, whatever follows. -/
theorem quoted_spelling_append {mark : Char} {cs : List Char} {q : Quoted cs}
    (h : quoted mark cs = .ok q) (rest : List Char) :
    ∃ q', quoted mark (q.spelling ++ rest) = .ok q' ∧ q'.value = q.value ∧ q'.rest = rest := by
  fun_induction quoted mark cs with
  | case1 => cases h
  | case2 cs =>
    cases h
    rw [List.cons_append, quoted.eq_def]
    simp only [if_true]
    exact ⟨_, rfl, rfl, rfl⟩
  | case3 => cases h
  | case4 => cases h
  | case5 => cases h
  | case6 => cases h
  | case7 escape cs meant hmeant more hmore hmark hline ih =>
    cases h
    obtain ⟨more', hmore', hvalue, hrest⟩ := ih hmore
    rw [List.cons_append, quoted.eq_def]
    simp only [hmark, hline, if_false, if_true, List.cons_append, hmeant, hmore']
    exact ⟨_, rfl, congrArg (meant :: ·) hvalue, hrest⟩
  | case8 => cases h
  | case9 c cs hmark hline hescape more hmore ih =>
    cases h
    obtain ⟨more', hmore', hvalue, hrest⟩ := ih hmore
    rw [List.cons_append, quoted.eq_def]
    simp only [hmark, hline, hescape, if_false, hmore']
    exact ⟨_, rfl, congrArg (c :: ·) hvalue, hrest⟩

/-- A number begins in front of everything that continues it no more than what it was cut off
from. -/
theorem startsNumber_append {c : Char} {w rest : List Char} (h : startsNumber c (w ++ rest) = true)
    (hrest : ∀ d ∈ rest.head?, d.isDigit = false) (rest' : List Char) :
    startsNumber c (w ++ rest') = true := by
  cases w with
  | cons d w => exact h
  | nil =>
    have hnone : (rest.head?.map Char.isDigit).getD false = false := by
      cases hd : rest.head? with
      | none => rfl
      | some d => exact hrest d hd
    simp only [List.nil_append, startsNumber, hnone, Bool.and_false, Bool.or_false] at h ⊢
    rw [h, Bool.true_or]

/-- A run of characters ends in front of everything that continues it no more than what it ended
at. -/
theorem takeWhile_dropWhile_replace {p : Char → Bool} {w rest rest' : List Char}
    (hw : (w ++ rest).takeWhile p = w)
    (hhead : ∀ d ∈ rest'.head?, p d = true → rest.head? = some d) :
    (w ++ rest').takeWhile p = w ∧ (w ++ rest').dropWhile p = rest' := by
  have hall : ∀ d ∈ w, p d = true := by
    rw [← hw]
    exact List.all_eq_true.1 List.all_takeWhile
  have hrun : w ++ rest.takeWhile p = w := by rw [← List.takeWhile_append_of_pos hall, hw]
  have hends : ∀ d ∈ rest.head?, p d = false := by
    intro d hd
    obtain ⟨more, rfl⟩ := List.head?_eq_some_iff.1 hd
    cases hp : p d with
    | false => rfl
    | true => simp [hp] at hrun
  refine Number.takeWhile_dropWhile_append hall fun d hd => ?_
  cases hp : p d with
  | false => rfl
  | true => rw [← hp, hends d (hhead d hd hp)]

/-- The same for a number. -/
theorem cutNumber_replace {c : Char} {w rest rest' : List Char}
    (h : startsNumber c (w ++ rest) = true) (hspelling : (cutNumber c (w ++ rest)).spelling = c :: w)
    (hhead : ∀ d ∈ rest'.head?, d.isDigit = true → rest.head? = some d)
    (hpoint : fractionLength rest = 0 → fractionLength rest' = 0) :
    startsNumber c (w ++ rest') = true ∧
      (cutNumber c (w ++ rest')).lexeme = (cutNumber c (w ++ rest)).lexeme ∧
      (cutNumber c (w ++ rest')).rest = rest' := by
  obtain ⟨digits, fraction, hdigits, hfraction, hspelled, hlexeme, hends⟩ :=
    exists_cutNumber c (w ++ rest)
  have hbehind : (cutNumber c (w ++ rest)).rest = rest := by
    have hwhole := (cutNumber c (w ++ rest)).whole
    rw [hspelling] at hwhole
    simpa using hwhole
  rw [hbehind] at hends
  obtain rfl : w = digits ++ fraction := List.tail_eq_of_cons_eq (hspelling.symm.trans hspelled)
  have hends' : EndsNumber fraction rest' := by
    refine ⟨fun d hd => ?_, fun hnil => hpoint (hends.no_fraction hnil)⟩
    cases hdigit : d.isDigit with
    | false => rfl
    | true => rw [← hdigit, hends.no_digit d (hhead d hd hdigit)]
  refine ⟨startsNumber_append h hends.no_digit rest', ?_⟩
  rw [hlexeme, List.append_assoc]
  exact cutNumber_append hdigits hfraction hends'

/-- A lexeme that is no comment is cut off as it is spelled, in front of everything that continues it
no more than what it was cut off from. -/
theorem cut_append {c : Char} {w rest rest' : List Char} {first : Cut (c :: (w ++ rest))}
    (h : cut c (w ++ rest) = .ok first) (hspelling : first.spelling = c :: w) (hcomment : c ≠ '#')
    (hhead : ∀ d ∈ rest'.head?, continuesName d = true → rest.head? = some d)
    (hpoint : fractionLength rest = 0 → fractionLength rest' = 0) :
    ∃ first', cut c (w ++ rest') = .ok first' ∧ first'.lexeme = first.lexeme ∧
      first'.rest = rest' := by
  unfold cut at h ⊢
  by_cases hline : c = '\n'
  · rw [if_pos hline] at h ⊢
    cases h
    obtain rfl : w = [] := by simpa using hspelling.symm
    exact ⟨_, rfl, rfl, rfl⟩
  rw [if_neg hline] at h ⊢
  by_cases hblank : isBlank c = true
  · rw [if_pos hblank] at h ⊢
    cases h
    obtain rfl : w = [] := by simpa using hspelling.symm
    exact ⟨_, rfl, rfl, rfl⟩
  rw [if_neg hblank, if_neg hcomment] at h ⊢
  cases hsymbol : Symbol.ofChar? c with
  | some mark =>
    simp only [hsymbol] at h ⊢
    cases h
    obtain rfl : w = [] := by simpa using hspelling.symm
    exact ⟨_, rfl, rfl, rfl⟩
  | none =>
    simp only [hsymbol] at h ⊢
    by_cases hname : startsName c = true
    · rw [if_pos hname] at h ⊢
      cases h
      obtain ⟨htake, hdrop⟩ :=
        takeWhile_dropWhile_replace (List.tail_eq_of_cons_eq hspelling) hhead
      refine ⟨_, rfl, congrArg Lexeme.word ?_, hdrop⟩
      exact (congrArg (c :: ·) htake).trans hspelling.symm
    rw [if_neg hname] at h ⊢
    by_cases hnumber : startsNumber c (w ++ rest) = true
    · rw [if_pos hnumber] at h
      cases h
      obtain ⟨hstarts, hlexeme, hrest⟩ := cutNumber_replace hnumber hspelling
        (fun d hd hdigit => hhead d hd (continuesName_of_isDigit hdigit)) hpoint
      rw [if_pos hstarts]
      exact ⟨_, rfl, hlexeme, hrest⟩
    rw [if_neg hnumber] at h
    by_cases hquote : c = '"' ∨ c = '\''
    · have hno : startsNumber c (w ++ rest') = false := by
        rcases hquote with rfl | rfl <;> rfl
      rw [if_pos hquote] at h ⊢
      rw [if_neg (by rw [hno]; decide)]
      cases hq : quoted c (w ++ rest) with
      | error fault => rw [hq] at h; cases h
      | ok q =>
        rw [hq] at h
        cases h
        have hw : q.spelling = w := List.tail_eq_of_cons_eq hspelling
        obtain ⟨q', hq', hvalue, hrest⟩ := hw ▸ quoted_spelling_append hq rest'
        rw [hq']
        exact ⟨_, rfl, congrArg Lexeme.text hvalue, hrest⟩
    · rw [if_neg hquote] at h
      cases h

/-! ## The words of a source -/

theorem isName_of_cut {c : Char} {cs : List Char} {first : Cut (c :: cs)} {name : List Char}
    (h : cut c cs = .ok first) (hname : first.lexeme = .word name) :
    IsName (String.ofList name) := by
  unfold cut at h
  split at h
  · cases h; cases hname
  split at h
  · cases h; cases hname
  split at h
  · cases h; cases hname
  split at h
  · cases h; cases hname
  split at h
  · next hstart =>
    cases h
    cases hname
    exact ⟨c, _, String.toList_ofList, hstart, fun d hd =>
      List.all_eq_true.1 List.all_takeWhile d hd⟩
  split at h
  · cases h; cases hname
  split at h
  · split at h
    · cases h
    · cases h; cases hname
  · cases h

/-- Every word among the tokens of a source is a name. -/
theorem isName_of_lexed {layout : Layout} {cs : List Char} {ts : List Token} {word : String}
    (h : lexed layout cs = some ts) (hword : .word word ∈ ts) : IsName word := by
  induction hn : cs.length using Nat.strongRecOn generalizing layout cs ts with
  | _ n ih =>
    cases cs with
    | nil =>
      rw [lexed] at h
      cases h
      cases hword
    | cons c cs =>
      rw [lexed] at h
      cases hcut : cut c cs with
      | error fault => rw [hcut] at h; cases h
      | ok first =>
        rw [hcut] at h
        obtain ⟨more, hmore, rfl⟩ := Option.map_eq_some_iff.1 h
        -- the word is the first lexeme, or it is read under the layout behind it
        rcases List.mem_append.1 hword with hfirst | hrest
        · cases hlexeme : first.lexeme with
          | word name =>
            rw [hlexeme] at hfirst
            obtain rfl : word = String.ofList name := by simpa [Layout.read] using hfirst
            exact isName_of_cut hcut hlexeme
          | lineFeed =>
            rw [hlexeme] at hfirst
            simp only [Layout.read] at hfirst
            split at hfirst <;> simp at hfirst
          | _ =>
            rw [hlexeme] at hfirst
            simp [Layout.read] at hfirst
        · exact ih _ (hn ▸ first.rest_length_lt) hmore hrest rfl

end Storyweave.Language
