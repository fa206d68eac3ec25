import Storyweave.Proofs.Story.Tidying
import Storyweave.Proofs.Text.Uppercase

/-!
# Sentences

What capitals and the end mark do to a tidied text. `capitalizeSentences` is a machine with one bit
of memory, so each fact is an induction on the text for any state of it. Results:
1. `startAfter_iff`: the machine is about to begin a sentence where nothing but marks and blanks
   stands between it and the last end mark.
2. `capitalizeSentences_eq_flatMap`: it exchanges single characters for their capital forms.
3. `neat_capitalizeSentences`, `neat_close`: both steps keep a tidied text tidy.
4. `capitals_capitalizeSentences`, `capitalizeSentences_eq_self`: afterwards every sentence begins
   with a capital, and where that is so nothing changes.
5. `close_capitalizeSentences`: capitals and the end of a story do not depend on each other.
-/

namespace Storyweave.Story

open Storyweave.Text

variable {c : Char} {cs : List Char} {start : Bool}

/-! ## Plain characters -/

/-- A character that is neither a blank nor a mark. -/
def Plain (c : Char) : Prop := isBlank c = false ∧ c ∉ marks

theorem ascii_of_mem_marks (m : Char) (h : m ∈ marks) :
    isAlphanumeric m = false ∧ m.toNat < 128 := by
  have hall : marks.all (fun m => !isAlphanumeric m && decide (m.toNat < 128)) = true := by
    decide +kernel
  simpa using List.all_eq_true.1 hall m h

theorem plain_of_isAlphanumeric (h : isAlphanumeric c = true) : Plain c := by
  refine ⟨isBlank_eq_false_of_isAlphanumeric h, fun hmark => ?_⟩
  exact absurd h (by simp [(ascii_of_mem_marks c hmark).1])

/-- A capital form holds plain characters only. -/
theorem plain_of_mem_upperChar {x : Char} (h : isAlphanumeric c = true) (hx : x ∈ upperChar c) :
    Plain x := by
  obtain ⟨hblank, halpha | hcode⟩ := visible_of_mem_upperChar h hx
  · exact plain_of_isAlphanumeric halpha
  · exact ⟨hblank, fun hmark => absurd hcode (not_le.2 (ascii_of_mem_marks x hmark).2)⟩

theorem mem_marks_of_endsSentence (h : endsSentence c = true) : c ∈ marks := by
  simp only [endsSentence, Bool.or_eq_true, beq_iff_eq] at h
  rcases h with (rfl | rfl) | rfl <;> decide

theorem mem_marks_of_isOpenMark (h : isOpenMark c = true) : c ∈ marks := by
  simp only [isOpenMark, Bool.or_eq_true, beq_iff_eq] at h
  rcases h with (rfl | rfl) | rfl <;> decide

theorem Plain.endsSentence_eq_false (h : Plain c) : endsSentence c = false :=
  Bool.eq_false_iff.2 fun hend => h.2 (mem_marks_of_endsSentence hend)

theorem Plain.isOpenMark_eq_false (h : Plain c) : isOpenMark c = false :=
  Bool.eq_false_iff.2 fun hopen => h.2 (mem_marks_of_isOpenMark hopen)

theorem Plain.beside_right {b : Char} (h : Plain c) : Beside c b := by
  refine ⟨?_, fun hpair => h.2 (mem_marks_of_mem_markPairs hpair).1⟩
  rintro rfl
  exact absurd h.1 (by decide)

theorem Plain.beside_left {a : Char} (h : Plain c) : Beside a c :=
  ⟨fun _ => h, fun hpair => h.2 (mem_marks_of_mem_markPairs hpair).2⟩

/-! ## Where sentences begin -/

/-- Whether a sentence is about to begin behind a character. -/
def startNext (start : Bool) (c : Char) : Bool :=
  !isAlphanumeric c && (start || endsSentence c)

/-- Whether a sentence is about to begin behind some characters. -/
def startAfter (start : Bool) (cs : List Char) : Bool := cs.foldl startNext start

@[simp] theorem startAfter_nil : startAfter start [] = start := rfl

@[simp] theorem startAfter_cons :
    startAfter start (c :: cs) = startAfter (startNext start c) cs := rfl

@[simp] theorem startAfter_append (xs ys : List Char) :
    startAfter start (xs ++ ys) = startAfter (startAfter start xs) ys := List.foldl_append

theorem startNext_iff : startNext start c = true ↔
    isAlphanumeric c = false ∧ (start = true ∨ endsSentence c = true) := by
  simp [startNext]

theorem startNext_eq_false (h : isAlphanumeric c = true) : startNext start c = false := by
  simp [startNext, h]

/-- Some characters at whose end a sentence is about to begin: no letter and no digit stands behind
the last end mark in them, or none stands in them at all. -/
def OpensSentence (before : List Char) : Prop :=
  ∃ between, (∀ c ∈ between, isAlphanumeric c = false) ∧
    (before = between ∨ ∃ earlier mark, endsSentence mark = true ∧
      before = earlier ++ mark :: between)

theorem startAfter_iff (cs : List Char) : startAfter start cs = true ↔
    start = true ∧ (∀ c ∈ cs, isAlphanumeric c = false) ∨
      ∃ earlier mark between, endsSentence mark = true ∧
        (∀ c ∈ between, isAlphanumeric c = false) ∧ cs = earlier ++ mark :: between := by
  induction cs generalizing start with
  | nil => simp
  | cons c cs ih =>
    rw [startAfter_cons, ih, startNext_iff]
    constructor
    · rintro (⟨⟨hc, hstart | hend⟩, hcs⟩ | ⟨earlier, mark, between, hend, hbetween, rfl⟩)
      · exact .inl ⟨hstart, List.forall_mem_cons.2 ⟨hc, hcs⟩⟩
      · exact .inr ⟨[], c, cs, hend, hcs, rfl⟩
      · exact .inr ⟨c :: earlier, mark, between, hend, hbetween, rfl⟩
    · rintro (⟨hstart, hcs⟩ | ⟨earlier, mark, between, hend, hbetween, heq⟩)
      · exact .inl ⟨⟨hcs c (by simp), .inl hstart⟩, fun d hd => hcs d (.tail _ hd)⟩
      · cases earlier with
        | nil =>
          obtain ⟨rfl, rfl⟩ := List.cons.inj heq
          have hc := (ascii_of_mem_marks _ (mem_marks_of_endsSentence hend)).1
          exact .inl ⟨⟨hc, .inr hend⟩, hbetween⟩
        | cons d earlier =>
          exact .inr ⟨earlier, mark, between, hend, hbetween, (List.cons.inj heq).2⟩

theorem startAfter_true_iff (cs : List Char) : startAfter true cs = true ↔ OpensSentence cs := by
  rw [startAfter_iff]
  constructor
  · rintro (⟨-, hcs⟩ | ⟨earlier, mark, between, hend, hbetween, rfl⟩)
    · exact ⟨cs, hcs, .inl rfl⟩
    · exact ⟨between, hbetween, .inr ⟨earlier, mark, hend, rfl⟩⟩
  · rintro ⟨between, hbetween, rfl | ⟨earlier, mark, hend, rfl⟩⟩
    · exact .inl ⟨rfl, hbetween⟩
    · exact .inr ⟨earlier, mark, between, hend, hbetween, rfl⟩

/-- Inside a sentence without end marks none begins. -/
theorem startAfter_false (h : ∀ c ∈ cs, endsSentence c = false) : startAfter false cs = false := by
  rw [Bool.eq_false_iff, Ne, startAfter_iff]
  rintro (⟨hstart, -⟩ | ⟨earlier, mark, between, hend, -, rfl⟩)
  · exact Bool.false_ne_true hstart
  · exact absurd hend (by simp [h mark (by simp)])

/-! ## Capitals -/

/-- A character as it is, or its capital form. -/
def cased (p : Char × Bool) : List Char := if p.2 then upperChar p.1 else [p.1]

/-- The characters of a text, each with the answer to whether it gets a capital. -/
def raises (start : Bool) : List Char → List (Char × Bool)
  | [] => []
  | c :: cs => (c, start && isAlphanumeric c) :: raises (startNext start c) cs

theorem capitalizeSentences_cons : capitalizeSentences start (c :: cs) =
    cased (c, start && isAlphanumeric c) ++ capitalizeSentences (startNext start c) cs := by
  cases hc : isAlphanumeric c <;> cases start <;> simp [capitalizeSentences, cased, startNext, hc]

theorem capitalizeSentences_eq_flatMap (start : Bool) (cs : List Char) :
    capitalizeSentences start cs = (raises start cs).flatMap cased := by
  induction cs generalizing start with
  | nil => rfl
  | cons c cs ih => rw [capitalizeSentences_cons, raises, List.flatMap_cons, ih]

theorem map_fst_raises (start : Bool) (cs : List Char) :
    (raises start cs).map Prod.fst = cs := by
  induction cs generalizing start with
  | nil => rfl
  | cons c cs ih => rw [raises, List.map_cons, ih]

theorem raises_append (start : Bool) (xs ys : List Char) :
    raises start (xs ++ ys) = raises start xs ++ raises (startAfter start xs) ys := by
  induction xs generalizing start with
  | nil => rfl
  | cons c xs ih => simp [raises, ih]

theorem capitalizeSentences_append (start : Bool) (xs ys : List Char) :
    capitalizeSentences start (xs ++ ys) =
      capitalizeSentences start xs ++ capitalizeSentences (startAfter start xs) ys := by
  simp only [capitalizeSentences_eq_flatMap, raises_append, List.flatMap_append]

/-- A character that is neither a letter nor a digit stays as it is. -/
theorem capitalizeSentences_singleton (h : isAlphanumeric c = false) :
    capitalizeSentences start [c] = [c] := by
  simp [capitalizeSentences, h]

theorem mem_cased {x : Char} (h : x ∈ cased (c, start && isAlphanumeric c)) : x = c ∨ Plain x := by
  unfold cased at h
  split at h
  case isTrue hraised =>
    exact .inr (plain_of_mem_upperChar (Bool.and_eq_true_iff.1 hraised).2 h)
  case isFalse => exact .inl (List.mem_singleton.1 h)

theorem cased_ne_nil : cased (c, start && isAlphanumeric c) ≠ [] := by
  unfold cased
  split
  case isTrue hraised =>
    obtain ⟨u, rest, hupper, -⟩ := exists_upperChar_eq_cons (Bool.and_eq_true_iff.1 hraised).2
    simp [hupper]
  case isFalse => exact List.cons_ne_nil _ _

/-- What is behind a character does not change with its capital form. -/
theorem startAfter_cased : startAfter start (cased (c, start && isAlphanumeric c)) =
    startNext start c := by
  cases hc : isAlphanumeric c with
  | false => simp [cased]
  | true =>
    cases start with
    | false => simp [cased]
    | true =>
      obtain ⟨u, rest, hupper, hu, -⟩ := exists_upperChar_eq_cons hc
      have hrest : ∀ x ∈ rest, endsSentence x = false := fun x hx =>
        (plain_of_mem_upperChar hc (by simp [hupper, hx])).endsSentence_eq_false
      simp [cased, hupper, startNext_eq_false hu, startNext_eq_false hc, startAfter_false hrest]

theorem startAfter_capitalizeSentences (start : Bool) (cs : List Char) :
    startAfter start (capitalizeSentences start cs) = startAfter start cs := by
  induction cs generalizing start with
  | nil => rfl
  | cons c cs ih =>
    rw [capitalizeSentences_cons, startAfter_append, startAfter_cased, ih, startAfter_cons]

/-! ## Capitals and neighbours -/

theorem mem_capitalizeSentences {x : Char} (h : x ∈ capitalizeSentences start cs) :
    x ∈ cs ∨ Plain x := by
  induction cs generalizing start with
  | nil => exact .inl h
  | cons c cs ih =>
    rw [capitalizeSentences_cons] at h
    rcases List.mem_append.1 h with h | h
    · exact (mem_cased h).imp_left fun hx => by simp [hx]
    · exact (ih h).imp_left (.tail _)

theorem head?_capitalizeSentences {x : Char} (h : x ∈ (capitalizeSentences start cs).head?) :
    x ∈ cs.head? ∨ Plain x := by
  cases cs with
  | nil => exact .inl h
  | cons c cs =>
    rw [capitalizeSentences_cons, List.head?_append_of_ne_nil _ cased_ne_nil] at h
    exact (mem_cased (List.mem_of_mem_head? h)).imp_left fun hx => by simp [hx]

theorem getLast?_capitalizeSentences {x : Char}
    (h : x ∈ (capitalizeSentences start cs).getLast?) : x ∈ cs.getLast? ∨ Plain x := by
  cases cs using List.reverseRecOn with
  | nil => exact .inl h
  | append_singleton cs c =>
    rw [capitalizeSentences_append, capitalizeSentences_cons, capitalizeSentences,
      List.append_nil, List.getLast?_append_of_ne_nil _ cased_ne_nil] at h
    exact (mem_cased (List.mem_of_mem_getLast? h)).imp_left fun hx => by simp [hx]

/-- Capitals keep a tidied text tidy. -/
theorem neat_capitalizeSentences (h : Neat Beside cs) :
    Neat Beside (capitalizeSentences start cs) where
  blank_eq c hc := by
    rcases mem_capitalizeSentences hc with hc | hc
    · exact h.blank_eq c hc
    · simp [hc.1]
  head_visible c hc := (head?_capitalizeSentences hc).elim (h.head_visible c) And.left
  last_visible c hc := (getLast?_capitalizeSentences hc).elim (h.last_visible c) And.left
  neighbours := by
    replace h := h.neighbours
    induction cs generalizing start with
    | nil => exact .nil
    | cons c cs ih =>
      obtain ⟨hc, h⟩ := List.isChain_cons.1 h
      have hform : (cased (c, start && isAlphanumeric c)).IsChain Beside := by
        unfold cased
        split
        case isTrue hraised =>
          refine (List.pairwise_of_forall_mem_list fun x hx _ _ => ?_).isChain
          exact (plain_of_mem_upperChar (Bool.and_eq_true_iff.1 hraised).2 hx).beside_right
        case isFalse => exact .singleton _
      rw [capitalizeSentences_cons]
      refine hform.append (ih h) fun x hx y hy => ?_
      rcases mem_cased (List.mem_of_mem_getLast? hx) with rfl | hx
      · exact (head?_capitalizeSentences hy).elim (hc y) Plain.beside_left
      · exact hx.beside_right

/-- Whether every sentence of a text begins with a capital. -/
def Capitals (start : Bool) : List Char → Prop
  | [] => True
  | c :: cs => (start = true → isAlphanumeric c = true → upperChar c = [c]) ∧
      Capitals (startNext start c) cs

theorem capitals_append (xs ys : List Char) : Capitals start (xs ++ ys) ↔
    Capitals start xs ∧ Capitals (startAfter start xs) ys := by
  induction xs generalizing start with
  | nil => simp [Capitals]
  | cons x xs ih => simp [Capitals, ih, and_assoc]

theorem capitals_false (h : ∀ c ∈ cs, endsSentence c = false) : Capitals false cs := by
  induction cs with
  | nil => trivial
  | cons c cs ih =>
    have hnext : startNext false c = false := by simp [startNext, h c (by simp)]
    refine ⟨by simp, ?_⟩
    rw [hnext]
    exact ih fun d hd => h d (.tail _ hd)

theorem capitals_capitalizeSentences (start : Bool) (cs : List Char) :
    Capitals start (capitalizeSentences start cs) := by
  induction cs generalizing start with
  | nil => trivial
  | cons c cs ih =>
    rw [capitalizeSentences_cons, capitals_append, startAfter_cased]
    refine ⟨?_, ih _⟩
    cases hc : isAlphanumeric c with
    | false => simp [cased, Capitals, hc]
    | true =>
      cases start with
      | false => simp [cased, Capitals]
      | true =>
        obtain ⟨u, rest, hupper, hu, hself⟩ := exists_upperChar_eq_cons hc
        have hrest : ∀ x ∈ rest, endsSentence x = false := fun x hx =>
          (plain_of_mem_upperChar hc (by simp [hupper, hx])).endsSentence_eq_false
        simp [cased, hupper, Capitals, hself, startNext_eq_false hu, capitals_false hrest]

/-- Where every sentence begins with a capital nothing changes. -/
theorem capitalizeSentences_eq_self (h : Capitals start cs) :
    capitalizeSentences start cs = cs := by
  induction cs generalizing start with
  | nil => rfl
  | cons c cs ih =>
    obtain ⟨hc, h⟩ := h
    have hcased : cased (c, start && isAlphanumeric c) = [c] := by
      unfold cased
      split
      case isTrue hraised =>
        obtain ⟨hstart, halpha⟩ := Bool.and_eq_true_iff.1 hraised
        exact hc hstart halpha
      case isFalse => rfl
    rw [capitalizeSentences_cons, hcased, ih h, List.singleton_append]

/-! ## The end of a story -/

theorem close_eq (cs : List Char) : close cs =
    if (dropEnd isOpenMark cs).getLast?.any endsSentence then dropEnd isOpenMark cs
    else dropEnd isOpenMark cs ++ ['.'] := by
  cases h : (dropEnd isOpenMark cs).getLast? with
  | none => simp [close, List.getLast?_eq_none_iff.1 h]
  | some last => simp [close, h]

/-- A text whose last character is an end mark is closed as it is. -/
theorem close_eq_self (h : ∃ last ∈ cs.getLast?, endsSentence last = true) : close cs = cs := by
  obtain ⟨last, hlast, hend⟩ := h
  have hbody : dropEnd isOpenMark cs = cs := dropEnd_eq_self fun x hx => by
    obtain rfl : last = x := Option.mem_unique hlast hx
    revert hend
    simp only [endsSentence, isOpenMark]
    grind
  rw [close_eq, hbody, Option.mem_def.1 hlast]
  simp [hend]

/-- A closed text ends with an end mark. -/
theorem exists_getLast?_close (cs : List Char) :
    ∃ last ∈ (close cs).getLast?, endsSentence last = true := by
  rw [close_eq]
  split
  case isTrue h => simpa [Option.any_eq_true] using h
  case isFalse => exact ⟨'.', by simp, rfl⟩

theorem filter_close {p : Char → Bool} (hp : ∀ m ∈ marks, p m = false) (cs : List Char) :
    (close cs).filter p = cs.filter p := by
  have hbody : (dropEnd isOpenMark cs).filter p = cs.filter p :=
    filter_dropEnd (fun c hc => hp c (mem_marks_of_isOpenMark hc)) cs
  rw [close_eq]
  split <;> simp [hbody, hp '.' (by decide)]

/-- A tidied text without its open marks at the end is tidied, as no space stands before a mark. -/
theorem neat_dropEnd (h : Neat Beside cs) : Neat Beside (dropEnd isOpenMark cs) := by
  induction cs using List.reverseRecOn with
  | nil => exact h
  | append_singleton cs c ih =>
    rw [dropEnd_concat]
    split
    case isTrue hopen =>
      obtain ⟨hchain, -, hbeside⟩ := List.isChain_append.1 h.neighbours
      refine ih ⟨fun d hd => h.blank_eq d (by simp [hd]), fun d hd => h.head_visible d ?_,
        fun d hd => ?_, hchain⟩
      · simp [List.head?_append, Option.mem_def.1 hd]
      · rw [Bool.eq_false_iff]
        intro hblank
        obtain rfl := h.blank_eq d (by simp [List.mem_of_mem_getLast? hd]) hblank
        exact ((hbeside ' ' hd c rfl).1 rfl).2 (mem_marks_of_isOpenMark hopen)
    case isFalse => exact h

theorem isOpenMark_eq_false_of_mem_getLast? (h : c ∈ (dropEnd isOpenMark cs).getLast?) :
    isOpenMark c = false := by
  induction cs using List.reverseRecOn with
  | nil => simp [dropEnd_nil] at h
  | append_singleton cs d ih =>
    rw [dropEnd_concat] at h
    split at h
    case isTrue => exact ih h
    case isFalse hopen => simp_all

/-- The end mark keeps a tidied text tidy. -/
theorem neat_close (h : Neat Beside cs) : Neat Beside (close cs) := by
  have hbody := neat_dropEnd h
  rw [close_eq]
  split
  case isTrue => exact hbody
  case isFalse hend =>
    refine ⟨?_, ?_, by simp; decide, hbody.neighbours.append (.singleton _) ?_⟩
    · intro c hc
      rcases List.mem_append.1 hc with hc | hc
      · exact hbody.blank_eq c hc
      · obtain rfl := List.mem_singleton.1 hc
        decide
    · intro c hc
      cases hd : dropEnd isOpenMark cs with
      | nil => simp_all; subst hc; decide
      | cons d ds => exact hbody.head_visible c (by simpa [hd] using hc)
    · -- the character before the period is no space, no end mark and no comma
      intro x hx y hy
      obtain rfl : '.' = y := by simpa using hy
      have hopen := isOpenMark_eq_false_of_mem_getLast? hx
      have hvisible := hbody.last_visible x hx
      rw [Option.mem_def.1 hx] at hend
      refine ⟨?_, fun hpair => ?_⟩
      · rintro rfl
        exact absurd hvisible (by decide)
      · obtain rfl | rfl : x = '.' ∨ x = ',' := by simpa [markPairs] using hpair
        · exact hend rfl
        · exact absurd hopen (by decide)

/-- Capitals do not change whether a text ends with a character that is not plain. -/
theorem any_getLast?_capitalizeSentences {p : Char → Bool} (hp : ∀ c, Plain c → p c = false)
    (cs : List Char) :
    (capitalizeSentences start cs).getLast?.any p = cs.getLast?.any p := by
  cases cs using List.reverseRecOn with
  | nil => rfl
  | append_singleton cs c =>
    cases hc : isAlphanumeric c with
    | false => simp [capitalizeSentences_append, capitalizeSentences_singleton hc]
    | true =>
      have hplain : p c = false := hp c (plain_of_isAlphanumeric hc)
      cases hx : (capitalizeSentences start (cs ++ [c])).getLast? with
      | none => simp [hplain]
      | some x =>
        have hpx : p x = false := by
          obtain hmem | hmem := getLast?_capitalizeSentences hx
          · obtain rfl : c = x := by simpa using hmem
            exact hplain
          · exact hp x hmem
        simp [hplain, hpx]

/-- Capitals and the end of a story do not depend on each other. -/
theorem close_capitalizeSentences (cs : List Char) :
    close (capitalizeSentences start cs) = capitalizeSentences start (close cs) := by
  have hbody : dropEnd isOpenMark (capitalizeSentences start cs) =
      capitalizeSentences start (dropEnd isOpenMark cs) := by
    induction cs using List.reverseRecOn with
    | nil => rfl
    | append_singleton cs c ih =>
      rw [dropEnd_concat]
      split
      case isTrue hopen =>
        have hc := (ascii_of_mem_marks c (mem_marks_of_isOpenMark hopen)).1
        rw [capitalizeSentences_append, capitalizeSentences_singleton hc, dropEnd_concat,
          if_pos hopen, ih]
      case isFalse hopen =>
        refine dropEnd_eq_self fun x hx => ?_
        obtain hx | hx := getLast?_capitalizeSentences hx
        · obtain rfl : c = x := by simpa using hx
          exact Bool.eq_false_iff.2 hopen
        · exact hx.isOpenMark_eq_false
  rw [close_eq, close_eq, hbody,
    any_getLast?_capitalizeSentences fun c => Plain.endsSentence_eq_false]
  split
  case isTrue => rfl
  case isFalse =>
    rw [capitalizeSentences_append, capitalizeSentences_singleton (c := '.') (by decide +kernel)]

end Storyweave.Story
