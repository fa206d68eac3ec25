import Storyweave.Text.Blank
import Storyweave.Text.Numeric
import Storyweave.Text.Uppercase

/-!
# Capital forms

What the tables say about the capital form of a letter or a numeral. Every table is read once, one
stretch after the other, so that no code point is looked at twice. Results:
1. `exists_upperChar_eq_cons`: a capital form begins with a letter or a numeral that is its own
   capital form.
2. `visible_of_mem_upperChar`: it holds no blank, and of the ASCII characters only letters and
   digits.
3. `isBlank_eq_false_of_isAlphanumeric`: no letter and no numeral is blank.
-/

namespace Storyweave.Text

/-! ## Stretches -/

namespace Stretch

/-- The code points of a stretch. -/
def codes (s : Stretch) : List Nat :=
  (List.range ((s.last - s.first) / s.step + 1)).map fun i => s.first + s.step * i

/-- The stretch of one code point. -/
def single (code : Nat) : Stretch := ⟨code, code, 1⟩

/-- Whether all that lies between the ends of a stretch is covered by another one. -/
def within (s t : Stretch) : Bool :=
  t.step.beq 1 && t.first.ble s.first && s.last.ble t.last

/-- Whether a stretch and another one have nothing in common: one of them ends before the other
begins, or the other leaves out every second code point and all those of the first. -/
def apart (s t : Stretch) : Bool :=
  s.last.blt t.first || t.last.blt s.first ||
    (t.step.beq 2 && (s.step.beq 2 || s.first.beq s.last) && !(s.first % 2).beq (t.first % 2))

/-- Whether a stretch lies within one of an ascending table. -/
def withinAny : List Stretch → Stretch → Bool
  | [], _ => false
  | t :: rest, s => !s.first.blt t.first && (s.within t || withinAny rest s)

/-- Whether a stretch holds code points of characters only. -/
def valid (s : Stretch) : Bool :=
  s.last.blt 0xd800 || (Nat.blt 0xdfff s.first && s.last.blt 0x110000)

variable {s t : Stretch} {code : Nat}

theorem covers_iff : s.covers code = true ↔
    s.first ≤ code ∧ code ≤ s.last ∧ (code - s.first) % s.step = 0 := by
  simp [covers, and_assoc]

theorem covers_single : (single code).covers code = true :=
  covers_iff.2 ⟨Nat.le_refl _, Nat.le_refl _, Nat.mod_one _⟩

theorem mem_codes (h : s.covers code = true) : code ∈ s.codes := by
  obtain ⟨hfirst, hlast, hstep⟩ := covers_iff.1 h
  have hdiv : s.step * ((code - s.first) / s.step) = code - s.first :=
    Nat.mul_div_cancel' (Nat.dvd_of_mod_eq_zero hstep)
  have hle : (code - s.first) / s.step ≤ (s.last - s.first) / s.step :=
    Nat.div_le_div_right (Nat.sub_le_sub_right hlast _)
  refine List.mem_map.2 ⟨(code - s.first) / s.step, List.mem_range.2 (Nat.lt_succ_of_le hle), ?_⟩
  rw [hdiv]
  omega

theorem covers_of_within (h : s.within t = true) (hcode : s.covers code = true) :
    t.covers code = true := by
  simp only [within, Bool.and_eq_true, Nat.beq_eq, Nat.ble_eq] at h
  obtain ⟨⟨hstep, hfirst⟩, hlast⟩ := h
  obtain ⟨hcode, hcode', -⟩ := covers_iff.1 hcode
  exact covers_iff.2
    ⟨Nat.le_trans hfirst hcode, Nat.le_trans hcode' hlast, by rw [hstep, Nat.mod_one]⟩

theorem not_covers_of_apart (h : s.apart t = true) (hcode : s.covers code = true) :
    t.covers code = false := by
  rw [Bool.eq_false_iff]
  intro hother
  obtain ⟨hfirst, hlast, hstep⟩ := covers_iff.1 hcode
  obtain ⟨hfirst', hlast', hstep'⟩ := covers_iff.1 hother
  simp only [apart, Bool.or_eq_true, Bool.and_eq_true, Bool.not_eq_true', ← Bool.not_eq_true,
    Nat.blt_eq, Nat.beq_eq] at h
  rcases h with (hbefore | hbehind) | ⟨⟨htwo, hother | hone⟩, hparity⟩
  · omega
  · omega
  · rw [htwo] at hstep'
    rw [hother] at hstep
    omega
  · rw [htwo] at hstep'
    omega

theorem anyCovers_of_withinAny {table : List Stretch} (h : withinAny table s = true)
    (hcode : s.covers code = true) : anyCovers table code = true := by
  induction table with
  | nil => cases h
  | cons t rest ih =>
    simp only [withinAny, Bool.and_eq_true, Bool.not_eq_true', Bool.or_eq_true] at h
    obtain ⟨hfirst, h⟩ := h
    have hnot : ¬ code < t.first := by
      have hle := (covers_iff.1 hcode).1
      rw [Bool.eq_false_iff, Ne, Nat.blt_eq] at hfirst
      omega
    rw [anyCovers, if_neg hnot, Bool.or_eq_true]
    exact h.imp (covers_of_within · hcode) ih

theorem exists_of_anyCovers {table : List Stretch} (h : anyCovers table code = true) :
    ∃ s ∈ table, s.covers code = true := by
  induction table with
  | nil => cases h
  | cons s rest ih =>
    rw [anyCovers] at h
    split at h
    case isTrue => cases h
    case isFalse =>
      rcases Bool.or_eq_true_iff.1 h with hs | hrest
      · exact ⟨s, List.mem_cons_self, hs⟩
      · obtain ⟨t, ht, hcovers⟩ := ih hrest
        exact ⟨t, List.mem_cons_of_mem _ ht, hcovers⟩

end Stretch

/-! ## Shifts -/

namespace CaseShift

/-- Where the code points of a stretch are shifted to. -/
def target (s : CaseShift) : Stretch :=
  ⟨(s.stretch.first + s.offset).toNat, (s.stretch.last + s.offset).toNat, s.stretch.step⟩

/-- Whether an ascending table leaves a stretch where it is. -/
def fixes : List CaseShift → Stretch → Bool
  | [], _ => true
  | t :: rest, s => s.last.blt t.stretch.first || (s.apart t.stretch && fixes rest s)

theorem covers_target {s : CaseShift} {code : Nat} (h : 0 ≤ s.stretch.first + s.offset)
    (hcode : s.stretch.covers code = true) : s.target.covers (code + s.offset).toNat = true := by
  obtain ⟨hfirst, hlast, hstep⟩ := Stretch.covers_iff.1 hcode
  refine Stretch.covers_iff.2 ⟨?_, ?_, ?_⟩
  · simp only [target]; omega
  · simp only [target]; omega
  · have hdistance : (code + s.offset).toNat - (s.stretch.first + s.offset).toNat =
        code - s.stretch.first := by omega
    rw [target, hdistance, hstep]

theorem apply_of_fixes {table : List CaseShift} {s : Stretch} {c : Char}
    (h : fixes table s = true) (hc : s.covers c.toNat = true) : apply table c = c := by
  induction table with
  | nil => rfl
  | cons t rest ih =>
    rw [apply]
    split
    case isTrue => rfl
    case isFalse hfirst =>
      have hlast := (Stretch.covers_iff.1 hc).2.1
      simp only [fixes, Bool.or_eq_true, Bool.and_eq_true, Nat.blt_eq] at h
      obtain ⟨hapart, hrest⟩ := h.resolve_left (by omega)
      rw [Stretch.not_covers_of_apart hapart hc]
      exact ih hrest

/-- A shift moves a character or leaves it where it is. -/
theorem apply_cases (table : List CaseShift) (c : Char) :
    apply table c = c ∨ ∃ s ∈ table, s.stretch.covers c.toNat = true ∧
      apply table c = Char.ofNat (c.toNat + s.offset).toNat := by
  induction table with
  | nil => exact .inl rfl
  | cons s rest ih =>
    rw [apply]
    split
    case isTrue => exact .inl rfl
    case isFalse =>
      split
      case isTrue hcovers => exact .inr ⟨s, List.mem_cons_self, hcovers, rfl⟩
      case isFalse =>
        rcases ih with hself | ⟨t, ht, hcovers, happly⟩
        · exact .inl hself
        · exact .inr ⟨t, List.mem_cons_of_mem _ ht, hcovers, happly⟩

end CaseShift

/-! ## The tables of capital forms -/

/-- Whether a stretch holds nothing but letters that are their own capital forms. -/
def holdsCapitals (s : Stretch) : Bool :=
  s.valid && (Stretch.withinAny alphabetic s || s.codes.all (Stretch.anyCovers alphabetic ·)) &&
    CaseShift.fixes upperShifts s && upperSequences.all fun entry => s.apart (.single entry.1)

theorem toNat_ofNat {code : Nat} {s : Stretch} (hs : s.valid = true) (h : s.covers code = true) :
    (Char.ofNat code).toNat = code := by
  obtain ⟨hfirst, hlast, -⟩ := Stretch.covers_iff.1 h
  simp only [Stretch.valid, Bool.or_eq_true, Bool.and_eq_true, Nat.blt_eq] at hs
  have hvalid : code.isValidChar := by
    unfold Nat.isValidChar
    omega
  rw [Char.ofNat, dif_pos hvalid]
  rfl

theorem lookup_eq_none_of_apart {α : Type} {table : List (Nat × α)} {s : Stretch} {code : Nat}
    (h : table.all (fun entry => s.apart (.single entry.1)) = true) (hcode : s.covers code = true) :
    table.lookup code = none := by
  rw [List.lookup_eq_none_iff]
  intro entry hentry
  rw [bne_iff_ne]
  rintro rfl
  have hother := Stretch.not_covers_of_apart (List.all_eq_true.1 h entry hentry) hcode
  rw [Stretch.covers_single] at hother
  cases hother

theorem capital_of_holdsCapitals {s : Stretch} {code : Nat} (h : holdsCapitals s = true)
    (hcode : s.covers code = true) :
    isAlphanumeric (Char.ofNat code) = true ∧ upperChar (Char.ofNat code) = [Char.ofNat code] := by
  simp only [holdsCapitals, Bool.and_eq_true, Bool.or_eq_true] at h
  obtain ⟨⟨⟨hvalid, hletters⟩, hfixes⟩, hsequences⟩ := h
  have hnat := toNat_ofNat hvalid hcode
  have hletter : Stretch.anyCovers alphabetic code = true := by
    rcases hletters with hwithin | hall
    · exact Stretch.anyCovers_of_withinAny hwithin hcode
    · exact List.all_eq_true.1 hall code (Stretch.mem_codes hcode)
  constructor
  · rw [isAlphanumeric, isAlphabetic, hnat, hletter, Bool.true_or]
  · rw [upperChar, hnat, lookup_eq_none_of_apart hsequences hcode]
    rw [← hnat] at hcode
    rw [CaseShift.apply_of_fixes hfixes hcode]

/-- Every letter that another one is shifted to is its own capital form. -/
theorem holdsCapitals_target : upperShifts.all (fun s =>
    decide (0 ≤ s.stretch.first + s.offset) && holdsCapitals s.target) = true := by
  decide +kernel

/-- Every capital form of more than one character begins with a letter that is its own capital
form. What stands behind it may be a mark above it, but no blank and nothing of ASCII but letters
and digits. -/
theorem holdsCapitals_head : upperSequences.all (fun entry =>
    (entry.2.head?.map fun code => holdsCapitals (.single code)).getD false &&
      entry.2.all fun code => !isBlank (Char.ofNat code) &&
        (isAlphanumeric (Char.ofNat code) || decide (128 ≤ (Char.ofNat code).toNat))) = true := by
  decide +kernel

/-- No blank is a letter or a numeral. -/
theorem not_isAlphanumeric_blanks : blanks.all (fun s =>
    s.valid && s.codes.all fun code => !isAlphanumeric (Char.ofNat code)) = true := by
  decide +kernel

theorem isBlank_eq_false_of_isAlphanumeric {c : Char} (h : isAlphanumeric c = true) :
    isBlank c = false := by
  rw [Bool.eq_false_iff]
  intro hblank
  obtain ⟨s, hs, hcovers⟩ := Stretch.exists_of_anyCovers hblank
  have hall := List.all_eq_true.1 not_isAlphanumeric_blanks s hs
  rw [Bool.and_eq_true] at hall
  have hnot := List.all_eq_true.1 hall.2 c.toNat (Stretch.mem_codes hcovers)
  rw [Char.ofNat_toNat, h] at hnot
  cases hnot

/-! ## Capital forms of letters and numerals -/

variable {c x : Char}

/-- A capital form is one of more than one character, a shifted character, or the character
itself. -/
theorem upperChar_cases (c : Char) :
    (∃ codes, (c.toNat, codes) ∈ upperSequences ∧ upperChar c = codes.map Char.ofNat) ∨
      (∃ s ∈ upperShifts, s.stretch.covers c.toNat = true ∧
        upperChar c = [Char.ofNat (c.toNat + s.offset).toNat]) ∨ upperChar c = [c] := by
  unfold upperChar
  cases hlookup : upperSequences.lookup c.toNat with
  | some codes =>
    obtain ⟨before, behind, heq, -⟩ := List.lookup_eq_some_iff.1 hlookup
    exact .inl ⟨codes, by rw [heq]; simp, rfl⟩
  | none =>
    rcases CaseShift.apply_cases upperShifts c with hself | ⟨s, hs, hcovers, happly⟩
    · exact .inr (.inr (by rw [hself]))
    · exact .inr (.inl ⟨s, hs, hcovers, by rw [happly]⟩)

theorem capital_of_shift {s : CaseShift} (hs : s ∈ upperShifts)
    (hcovers : s.stretch.covers c.toNat = true) :
    let u := Char.ofNat (c.toNat + s.offset).toNat
    isAlphanumeric u = true ∧ upperChar u = [u] := by
  have htarget := List.all_eq_true.1 holdsCapitals_target s hs
  rw [Bool.and_eq_true, decide_eq_true_eq] at htarget
  exact capital_of_holdsCapitals htarget.2 (CaseShift.covers_target htarget.1 hcovers)

/-- A capital form begins with a letter or a numeral that is its own capital form. -/
theorem exists_upperChar_eq_cons (h : isAlphanumeric c = true) :
    ∃ u rest, upperChar c = u :: rest ∧ isAlphanumeric u = true ∧ upperChar u = [u] := by
  rcases upperChar_cases c with ⟨codes, hcodes, hc⟩ | ⟨s, hs, hcovers, hc⟩ | hc
  · have hhead := List.all_eq_true.1 holdsCapitals_head _ hcodes
    rw [Bool.and_eq_true] at hhead
    cases codes with
    | nil => cases hhead.1
    | cons code rest =>
      obtain ⟨hletter, hown⟩ := capital_of_holdsCapitals hhead.1 Stretch.covers_single
      exact ⟨_, _, hc, hletter, hown⟩
  · obtain ⟨hletter, hown⟩ := capital_of_shift hs hcovers
    exact ⟨_, _, hc, hletter, hown⟩
  · exact ⟨c, [], hc, h, hc⟩

/-- A capital form holds no blank, and of the ASCII characters only letters and digits. -/
theorem visible_of_mem_upperChar (h : isAlphanumeric c = true) (hx : x ∈ upperChar c) :
    isBlank x = false ∧ (isAlphanumeric x = true ∨ 128 ≤ x.toNat) := by
  have hletter (hx : isAlphanumeric x = true) :
      isBlank x = false ∧ (isAlphanumeric x = true ∨ 128 ≤ x.toNat) :=
    ⟨isBlank_eq_false_of_isAlphanumeric hx, .inl hx⟩
  rcases upperChar_cases c with ⟨codes, hcodes, hc⟩ | ⟨s, hs, hcovers, hc⟩ | hc
  · have hall := List.all_eq_true.1 holdsCapitals_head _ hcodes
    rw [Bool.and_eq_true] at hall
    rw [hc] at hx
    obtain ⟨code, hcode, rfl⟩ := List.mem_map.1 hx
    simpa using List.all_eq_true.1 hall.2 code hcode
  · rw [hc, List.mem_singleton] at hx
    exact hletter (hx ▸ (capital_of_shift hs hcovers).1)
  · rw [hc, List.mem_singleton] at hx
    exact hletter (hx ▸ h)

end Storyweave.Text
