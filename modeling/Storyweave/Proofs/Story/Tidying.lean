import Storyweave.Proofs.Text.Spacing
import Storyweave.Story.Render

/-!
# Tidying

What `tidy` makes of a text. Every step reads pairs of characters as their second one, so one
lemma about a single pass (`Neat.absorb`) gives what all passes establish and what none of them
destroys. Results:
1. `neat_tidy`: a tidied text is neat, no space in it stands before a mark, and no two marks in it
   read as one. The loop over the pairs of marks stops by itself: a pass that does not shorten the
   text has found no pair (`notMem_markPairs_of_absorbMarks`).
2. `tidy_eq_self`: such a text is left as it is.
3. `filter_tidy`: nothing but blanks and marks is lost, and the order stays.
-/

namespace Storyweave.Story

open Storyweave.Text

/-! ## One pass -/

section Pass

variable {f s : Char} {cs : List Char}

/-- Whether two neighbours are not the pair that a pass looks for. -/
def NotPair (f s a b : Char) : Prop := ¬(a = f ∧ b = s)

theorem absorb_sublist (f s : Char) (cs : List Char) : (absorb f s cs).Sublist cs := by
  fun_induction absorb f s cs with
  | case1 a b rest h ih => exact (ih.cons_cons b).cons a
  | case2 a b rest h ih => exact ih.cons_cons a
  | case3 cs h => exact .refl _

theorem getLast?_absorb (f s : Char) (cs : List Char) :
    (absorb f s cs).getLast? = cs.getLast? := by
  fun_induction absorb f s cs with
  | case1 a b rest h ih => simp [List.getLast?_cons, ih]
  | case2 a b rest h ih => simp [List.getLast?_cons, ih]
  | case3 cs h => rfl

/-- A pass leaves the first character, or the second one of a pair at the beginning. -/
theorem head?_absorb {x : Char} (h : x ∈ (absorb f s cs).head?) :
    x ∈ cs.head? ∨ x = s ∧ f ∈ cs.head? := by
  unfold absorb at h
  split at h
  case h_1 a b rest =>
    split at h
    case isTrue hpair => exact .inr ⟨by simp_all, by simp [hpair.1]⟩
    case isFalse => exact .inl h
  case h_2 => exact .inl h

/-- A pass does not count where the first character of its pair does not. -/
theorem filter_absorb {p : Char → Bool} (h : p f = false) (cs : List Char) :
    (absorb f s cs).filter p = cs.filter p := by
  fun_induction absorb f s cs with
  | case1 a b rest hpair ih =>
    obtain ⟨rfl, rfl⟩ := hpair
    simp [List.filter_cons, h, ih]
  | case2 a b rest hpair ih => simp only [List.filter_cons, ih]
  | case3 cs hcs => rfl

/-- A pass that leaves a text alone has found no pair in it. -/
theorem isChain_of_absorb_eq_self (h : absorb f s cs = cs) : cs.IsChain (NotPair f s) := by
  fun_induction absorb f s cs with
  | case1 a b rest hpair ih =>
    -- such a pass is shorter than the text
    have hlength := (absorb_sublist f s rest).length_le
    have := congrArg List.length h
    simp only [List.length_cons] at this
    omega
  | case2 a b rest hpair ih =>
    exact List.isChain_cons_cons.2 ⟨hpair, ih (List.cons.inj h).2⟩
  | case3 cs hcs =>
    match cs with
    | [] => exact .nil
    | [_] => exact .singleton _
    | a :: b :: rest => exact absurd rfl (hcs a b rest)

theorem absorb_eq_self (h : cs.IsChain (NotPair f s)) : absorb f s cs = cs := by
  fun_induction absorb f s cs with
  | case1 a b rest hpair ih => exact absurd hpair (List.isChain_cons_cons.1 h).1
  | case2 a b rest hpair ih => rw [ih (List.isChain_cons_cons.1 h).2]
  | case3 cs hcs => rfl

/-- What stands before a text that a pass goes over is related to its new first character. A pair
there can only be one character twice. -/
theorem related_head?_absorb {R S : Char → Char → Prop} (hsecond : ∀ x, R x f → S x s)
    (hother : ∀ x y, R x y → NotPair f s x y → S x y) {a : Char} {rest : List Char}
    (ha : ∀ y ∈ rest.head?, R a y) (hpair : ∀ y ∈ rest.head?, NotPair f s a y ∨ y = f) :
    ∀ y ∈ (absorb f s rest).head?, S a y := by
  intro y hy
  rcases head?_absorb hy with hmem | ⟨rfl, hf⟩
  · by_cases hnot : NotPair f s a y
    · exact hother a y (ha y hmem) hnot
    · obtain ⟨-, rfl⟩ := not_not.1 hnot
      obtain rfl := (hpair y hmem).resolve_left hnot
      exact hsecond a (ha y hmem)
  · exact hsecond a (ha f hf)

/-- The neighbours after a pass are the neighbours before it that are not the pair, and those
before a first character with the second one instead of it. -/
theorem isChain_absorb {R S : Char → Char → Prop} (hsecond : ∀ x, R x f → S x s)
    (hother : ∀ x y, R x y → NotPair f s x y → S x y) (h : cs.IsChain R) :
    (absorb f s cs).IsChain S := by
  fun_induction absorb f s cs with
  | case1 a b rest hpair ih =>
    obtain ⟨-, h⟩ := List.isChain_cons_cons.1 h
    obtain ⟨hb, h⟩ := List.isChain_cons.1 h
    refine (ih h).cons (related_head?_absorb hsecond hother hb fun y _ => ?_)
    by_cases hys : y = f
    · exact .inr hys
    · exact .inl fun hnot => hys (by rw [hnot.2, ← hpair.2, hnot.1])
  | case2 a b rest hpair ih =>
    obtain ⟨hab, h⟩ := List.isChain_cons_cons.1 h
    refine (ih h).cons (related_head?_absorb hsecond hother ?_ ?_)
    · simpa using hab
    · simpa using .inl hpair
  | case3 cs hcs =>
    match cs with
    | [] => exact .nil
    | [_] => exact .singleton _
    | a :: b :: rest => exact absurd rfl (hcs a b rest)

/-- A pass whose second character shows keeps a text neat. -/
theorem neat_absorb {R S : Char → Char → Prop} (hs : isBlank s = false)
    (hsecond : ∀ x, R x f → S x s) (hother : ∀ x y, R x y → NotPair f s x y → S x y)
    (h : Neat R cs) : Neat S (absorb f s cs) where
  blank_eq c hc := h.blank_eq c ((absorb_sublist f s cs).subset hc)
  head_visible c hc := by
    rcases head?_absorb hc with hc | ⟨rfl, -⟩
    · exact h.head_visible c hc
    · exact hs
  last_visible c hc := h.last_visible c (by rwa [getLast?_absorb] at hc)
  neighbours := isChain_absorb hsecond hother h.neighbours

end Pass

/-! ## Passes in a row -/

/-- The passes for some pairs, one after the other. -/
def passes (pairs : List (Char × Char)) (cs : List Char) : List Char :=
  pairs.foldl (fun cs pair => absorb pair.1 pair.2 cs) cs

section Passes

variable {pairs : List (Char × Char)} {cs : List Char}

theorem passes_cons (pair : Char × Char) (pairs : List (Char × Char)) (cs : List Char) :
    passes (pair :: pairs) cs = passes pairs (absorb pair.1 pair.2 cs) := rfl

theorem passes_sublist (pairs : List (Char × Char)) (cs : List Char) :
    (passes pairs cs).Sublist cs := by
  induction pairs generalizing cs with
  | nil => exact .refl _
  | cons pair pairs ih => exact (ih _).trans (absorb_sublist _ _ cs)

/-- Passes that do not shorten a text have all left it alone. -/
theorem absorb_eq_self_of_length_passes (h : (passes pairs cs).length = cs.length) :
    ∀ pair ∈ pairs, absorb pair.1 pair.2 cs = cs := by
  induction pairs with
  | nil => simp
  | cons first pairs ih =>
    rw [passes_cons] at h
    have hfirst : absorb first.1 first.2 cs = cs := by
      have hrest := (passes_sublist pairs (absorb first.1 first.2 cs)).length_le
      exact (absorb_sublist first.1 first.2 cs).eq_of_length_le (h ▸ hrest)
    rw [hfirst] at h
    exact List.forall_mem_cons.2 ⟨hfirst, ih h⟩

theorem passes_eq_self (h : ∀ pair ∈ pairs, cs.IsChain (NotPair pair.1 pair.2)) :
    passes pairs cs = cs := by
  induction pairs with
  | nil => rfl
  | cons first pairs ih =>
    rw [passes_cons, absorb_eq_self (h first (by simp))]
    exact ih fun pair hpair => h pair (.tail _ hpair)

theorem filter_passes {p : Char → Bool} (hp : ∀ pair ∈ pairs, p pair.1 = false)
    (cs : List Char) : (passes pairs cs).filter p = cs.filter p := by
  induction pairs generalizing cs with
  | nil => rfl
  | cons pair pairs ih =>
    rw [passes_cons, ih fun q hq => hp q (.tail _ hq), filter_absorb (hp pair (by simp))]

end Passes

/-! ## No space before a mark -/

/-- No blank and none of some marks follows a space. -/
def Tight (before : List Char) (a b : Char) : Prop := a = ' ' → isBlank b = false ∧ b ∉ before

/-- The pairs of a space and a mark. -/
def spacePairs (ms : List Char) : List (Char × Char) := ms.map fun m => (' ', m)

theorem isBlank_of_mem_marks {c : Char} (h : c ∈ marks) : isBlank c = false := by
  have hall : marks.all (fun m => !isBlank m) = true := by decide +kernel
  simpa using List.all_eq_true.1 hall c h

/-- One pass for every mark leaves no space before any of them. -/
theorem neat_passes_spacePairs {ms : List Char} (hms : ∀ m ∈ ms, isBlank m = false)
    {done cs : List Char} (h : Neat (Tight done) cs) :
    Neat (Tight (done ++ ms)) (passes (spacePairs ms) cs) := by
  induction ms generalizing done cs with
  | nil => simpa [spacePairs, passes] using h
  | cons m ms ih =>
    have hstep : Neat (Tight (done ++ [m])) (absorb ' ' m cs) := by
      refine neat_absorb (hms m (by simp)) (fun x hx hspace => ?_) (fun x y hxy hnot hspace => ?_) h
      · -- no space follows a space, so none gets the mark as its neighbour
        exact absurd (hx hspace).1 (by decide)
      · obtain ⟨hy, hdone⟩ := hxy hspace
        exact ⟨hy, by simpa [hdone] using fun hm => hnot ⟨hspace, hm⟩⟩
    rw [spacePairs, List.map_cons, passes_cons, List.append_cons]
    exact ih (fun x hx => hms x (.tail _ hx)) hstep

/-! ## Pairs of marks -/

/-- How two neighbours of a tidied text are related: no blank and no mark follows a space, and two
marks are not a pair that reads as one. -/
def Beside (a b : Char) : Prop := Tight marks a b ∧ (a, b) ∉ markPairs

theorem mem_marks_of_mem_markPairs {pair : Char × Char} (h : pair ∈ markPairs) :
    pair.1 ∈ marks ∧ pair.2 ∈ marks := by
  have hall : markPairs.all (fun pair => marks.contains pair.1 && marks.contains pair.2) = true := by
    decide
  simpa using List.all_eq_true.1 hall pair h

/-- Reading pairs of marks as one puts no space before a mark. -/
theorem neat_passes {pairs : List (Char × Char)} {cs : List Char}
    (hpairs : ∀ pair ∈ pairs, pair ∈ markPairs) (h : Neat (Tight marks) cs) :
    Neat (Tight marks) (passes pairs cs) := by
  induction pairs generalizing cs with
  | nil => exact h
  | cons pair pairs ih =>
    obtain ⟨hfirst, hsecond⟩ := mem_marks_of_mem_markPairs (hpairs pair (by simp))
    refine ih (fun p hp => hpairs p (.tail _ hp)) (neat_absorb (isBlank_of_mem_marks hsecond)
      (fun x hx hspace => ?_) (fun _ _ hxy _ => hxy) h)
    exact absurd hfirst (hx hspace).2

/-- Where reading all pairs once changes nothing, there is none. -/
theorem notMem_markPairs_of_absorbMarks {cs : List Char}
    (h : (absorbMarks cs).length = cs.length) (i : Nat) (hi : i + 1 < cs.length) :
    (cs[i], cs[i + 1]) ∉ markPairs := by
  intro hmem
  have hnone : cs.IsChain (NotPair cs[i] cs[i + 1]) :=
    isChain_of_absorb_eq_self (absorb_eq_self_of_length_passes h _ hmem)
  exact List.isChain_iff_getElem.1 hnone i hi ⟨rfl, rfl⟩

/-- The loop over the pairs of marks ends with none left, and puts no space before a mark. -/
theorem neat_settleMarks {cs : List Char} (h : Neat (Tight marks) cs) :
    Neat Beside (settleMarks cs) := by
  fun_induction settleMarks cs with
  | case1 cs next hshorter ih => exact ih (neat_passes (fun _ hp => hp) h)
  | case2 cs next hsame =>
    have hle : next.Sublist cs := passes_sublist markPairs cs
    have hlength : next.length = cs.length := le_antisymm hle.length_le (not_lt.1 hsame)
    rw [hle.eq_of_length hlength]
    exact { h with neighbours := List.isChain_iff_getElem.2 fun i hi =>
      ⟨List.isChain_iff_getElem.1 h.neighbours i hi, notMem_markPairs_of_absorbMarks hlength i hi⟩ }

theorem settleMarks_eq_self {cs : List Char} (h : cs.IsChain Beside) : settleMarks cs = cs := by
  have hself : absorbMarks cs = cs := passes_eq_self fun pair hpair =>
    h.imp fun a b hab hnot => hab.2 (by rwa [hnot.1, hnot.2])
  rw [settleMarks, hself, if_neg (lt_irrefl _)]

theorem filter_settleMarks {p : Char → Bool} (hp : ∀ m ∈ marks, p m = false) (cs : List Char) :
    (settleMarks cs).filter p = cs.filter p := by
  have hpass (cs : List Char) : (absorbMarks cs).filter p = cs.filter p :=
    filter_passes (fun pair hpair => hp _ (mem_marks_of_mem_markPairs hpair).1) cs
  fun_induction settleMarks cs with
  | case1 cs next hshorter ih => rw [ih, hpass]
  | case2 cs next hsame => exact hpass cs

/-! ## Tidied texts -/

theorem tidy_eq (cs : List Char) :
    tidy cs = settleMarks (passes (spacePairs marks) (spaced cs)) := by
  simp only [tidy, passes, spacePairs, List.foldl_map, spaced]

/-- In a tidied text every blank is a space between characters that show, no space stands before
a mark, and no two marks read as one. -/
theorem neat_tidy (cs : List Char) : Neat Beside (tidy cs) := by
  have hspaced : Neat (Tight []) (spaced cs) :=
    (neat_spaced cs).imp fun a b hab hspace => ⟨hab hspace, List.not_mem_nil⟩
  rw [tidy_eq]
  exact neat_settleMarks (neat_passes_spacePairs (fun m => isBlank_of_mem_marks) hspaced)

/-- Tidying leaves a text of that form alone. -/
theorem tidy_eq_self {cs : List Char} (h : Neat Beside cs) : tidy cs = cs := by
  have hspaced : spaced cs = cs := spaced_eq_self (h.imp fun a b hab hspace => (hab.1 hspace).1)
  have hspaces : passes (spacePairs marks) cs = cs := passes_eq_self fun pair hpair => by
    obtain ⟨m, hm, rfl⟩ := List.mem_map.1 hpair
    exact h.neighbours.imp fun a b hab hnot => (hab.1 hnot.1).2 (hnot.2 ▸ hm)
  rw [tidy_eq, hspaced, hspaces, settleMarks_eq_self h.neighbours]

/-- Tidying loses and adds nothing but blanks and marks. -/
theorem filter_tidy {p : Char → Bool} (hblank : ∀ c, isBlank c = true → p c = false)
    (hmark : ∀ m ∈ marks, p m = false) (cs : List Char) : (tidy cs).filter p = cs.filter p := by
  have hspaces : ∀ pair ∈ spacePairs marks, p pair.1 = false := fun pair hpair => by
    obtain ⟨m, -, rfl⟩ := List.mem_map.1 hpair
    exact hblank ' ' (by decide)
  rw [tidy_eq, filter_settleMarks hmark, filter_passes hspaces, filter_spaced hblank]

example : tidy "so ,  he said ... !".toList = "so, he said!".toList := by decide +kernel

end Storyweave.Story
