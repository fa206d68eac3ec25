import Storyweave.Proofs.Text.Lowercase
import Storyweave.Starter.Pack

/-!
# The subject of a sentence

A generated sentence begins with the one it is about. As an action it loses that name, as a state it
is set in small letters first. Results:
1. `charsAfterLast_eq_none_iff`: a mark has a last place exactly if it stands in the text.
2. `withoutLeadingName_lowercase`: in small letters a sentence keeps its subject, unless its capital
   has no small form.
3. `statePhrase_of_sentence`: so a sentence without "was" that loses its subject as an action keeps it
   as a state.
4. `statePhrase_keeps_someone`: someone who helped is told to be someone who helped.
-/

namespace Storyweave.Text

variable {mark cs : List Char}

/-- A mark has a last place exactly if it stands somewhere. -/
theorem charsAfterLast_eq_none_iff (hmark : mark ≠ []) :
    charsAfterLast mark cs = none ↔ ¬mark <:+: cs := by
  induction cs with
  | nil => simp [charsAfterLast, hmark]
  | cons c cs ih =>
    rw [charsAfterLast, List.infix_cons_iff, not_or]
    cases hbehind : charsAfterLast mark cs with
    | some behind =>
      have hstands : mark <:+: cs := by
        by_contra hnot
        rw [ih.2 hnot] at hbehind
        cases hbehind
      simp [hstands]
    | none =>
      have hnot : ¬mark <:+: cs := ih.1 hbehind
      cases hstart : mark.isPrefixOf (c :: cs) <;>
        simp [hnot, ← List.isPrefixOf_iff_prefix, hstart]

theorem afterLast_eq_none_iff {mark text : String} (hmark : mark.toList ≠ []) :
    afterLast mark text = none ↔ ¬mark.toList <:+: text.toList := by
  rw [afterLast, Option.map_eq_none_iff, charsAfterLast_eq_none_iff hmark]

/-! ## Words of a text -/

variable {text : String}

theorem lowercase_ofList (cs : List Char) :
    lowercase (String.ofList cs) = String.ofList (lowerFrom [] cs) := by
  rw [lowercase, String.toList_ofList]

theorem words_lowercase (text : String) : words (lowercase text) = (words text).map lowercase := by
  rw [words, lowercase, String.toList_ofList, wordsOf_lowerFrom, words, List.map_map, List.map_map]
  exact List.map_congr_left fun word _ => (lowercase_ofList word).symm

theorem lowercase_intercalate (pieces : List String) :
    lowercase (" ".intercalate pieces) = " ".intercalate (pieces.map lowercase) := by
  have hmap : (pieces.map String.toList).map (lowerFrom []) =
      (pieces.map lowercase).map String.toList := by simp [lowercase]
  rw [← String.toList_inj, lowercase, String.toList_ofList, String.toList_intercalate,
    String.toList_intercalate, ← hmap]
  exact lowerFrom_intercalate _

/-- In small letters a text begins with the small form of its first character. -/
theorem exists_toList_lowercase {c : Char} (h : text.toList.head? = some c) :
    ∃ rest, (lowercase text).toList = lowerChar c ++ rest := by
  obtain ⟨cs, hcs⟩ := List.head?_eq_some_iff.1 h
  exact ⟨_, by rw [lowercase, String.toList_ofList, hcs, lowerFrom, lowerAmong_nil]⟩

/-- Some words of a text with one space between them are read as those words. -/
theorem words_intercalate {pieces : List String} (h : pieces ⊆ words text) :
    words (" ".intercalate pieces) = pieces := by
  have hvisible : ∀ word ∈ pieces.map String.toList,
      word ≠ [] ∧ ∀ x ∈ word, isBlank x = false := by
    intro word hword
    obtain ⟨piece, hpiece, rfl⟩ := List.mem_map.1 hword
    obtain ⟨chars, hchars, rfl⟩ := List.mem_map.1 (h hpiece)
    simpa using visible_of_mem_wordsOf hchars
  rw [words, String.toList_intercalate]
  exact (congrArg _ (wordsOf_intercalate hvisible)).trans (by simp)

/-- A text that begins with a capital has a first word that begins with it. -/
theorem head?_of_mem_head?_words {c : Char} {word : String} (hhead : text.toList.head? = some c)
    (hcapital : isUppercase c = true) (hword : (words text).head? = some word) :
    word.toList.head? = some c := by
  have hvisible : isBlank c = false := by
    rw [Bool.eq_false_iff]
    intro hblank
    have hcaseless := (caseless_of_isBlank hblank).1
    simp [isCased, hcapital] at hcaseless
  obtain ⟨cs, hcs⟩ := List.head?_eq_some_iff.1 hhead
  rw [words, hcs, wordsOf_cons_of_visible hvisible] at hword
  split at hword
  · simp at hword
    simp [← hword]
  · obtain ⟨chars, hchars, rfl⟩ : ∃ chars ∈ (wordsOf cs).head?, String.ofList (c :: chars) = word := by
      cases hw : wordsOf cs <;> simp_all
    simp

end Storyweave.Text

namespace Storyweave.Starter

open Storyweave.Story Storyweave.Kernel Storyweave.Text

variable {scene : Scene} {value : Value} {text : String} {first : Char}

/-! ## Sentences that begin with a capital -/

theorem withoutLeadingName_of_isUppercase (hhead : text.toList.head? = some first)
    (hcapital : isUppercase first = true) (hwords : 2 ≤ (words text).length) :
    withoutLeadingName text = " ".intercalate (words text).tail := by
  match hsplit : words text with
  | [] => simp [hsplit] at hwords
  | [_] => simp [hsplit] at hwords
  | word :: second :: rest =>
    have hword := head?_of_mem_head?_words hhead hcapital (congrArg List.head? hsplit)
    simp [withoutLeadingName, hsplit, hword, hcapital]

theorem withoutLeadingName_of_not_isUppercase
    (h : ∀ word ∈ (words text).head?, ∀ c ∈ word.toList.head?, isUppercase c = false) :
    withoutLeadingName text = text := by
  rw [withoutLeadingName]
  split
  case h_1 word second rest hsplit =>
    have hno : (word.toList.head?.map isUppercase).getD false = false := by
      cases hc : word.toList.head? with
      | none => rfl
      | some c => exact h word (by simp [hsplit]) c hc
    simp [hno]
  case h_2 => rfl

/-- In small letters a sentence keeps its subject, unless its capital has no small form. -/
theorem withoutLeadingName_lowercase (hhead : text.toList.head? = some first)
    (hcapital : isUppercase first = true) (hwords : 2 ≤ (words text).length) :
    withoutLeadingName (lowercase text) =
      if lowerChar first = [first] then lowercase (withoutLeadingName text) else lowercase text := by
  have hlength : 2 ≤ (words (lowercase text)).length := by
    rwa [words_lowercase, List.length_map]
  split
  case isTrue hown =>
    obtain ⟨rest, hrest⟩ := exists_toList_lowercase hhead
    have hhead' : (lowercase text).toList.head? = some first := by rw [hrest, hown]; rfl
    rw [withoutLeadingName_of_isUppercase hhead' hcapital hlength,
      withoutLeadingName_of_isUppercase hhead hcapital hwords, words_lowercase, ← List.map_tail,
      lowercase_intercalate]
  case isFalse hother =>
    obtain ⟨small, more, hsmall, hno⟩ := (lowerChar_eq_self_or first).resolve_left hother
    refine withoutLeadingName_of_not_isUppercase fun word hword c hc => ?_
    rw [words_lowercase, List.head?_map, Option.mem_def, Option.map_eq_some_iff] at hword
    obtain ⟨name, hname, rfl⟩ := hword
    obtain ⟨rest, hrest⟩ := exists_toList_lowercase (head?_of_mem_head?_words hhead hcapital hname)
    rw [hrest, hsmall] at hc
    obtain rfl : small = c := Option.some.inj hc
    exact hno

/-- A sentence has one word more than what is left without its subject. -/
theorem lowercase_ne_withoutLeadingName (hhead : text.toList.head? = some first)
    (hcapital : isUppercase first = true) (hwords : 2 ≤ (words text).length) :
    lowercase text ≠ lowercase (withoutLeadingName text) := by
  intro heq
  have hcount := congrArg (fun t => (words t).length) heq
  simp only [words_lowercase, List.length_map] at hcount
  rw [withoutLeadingName_of_isUppercase hhead hcapital hwords,
    words_intercalate (List.tail_sublist _).subset, List.length_tail] at hcount
  omega

/-! ## States and actions -/

theorem actionPhrase_of_asFragment (h : value.asFragment.isSome = true) :
    actionPhrase scene value = withoutLeadingName (scene.phrase value) := by
  cases value with
  | fragment => rfl
  | composition => rfl
  | _ => cases h

theorem statePhrase_of_asFragment (h : value.asFragment.isSome = true)
    (hwas : ¬" was ".toList <:+: (lowercase (scene.phrase value)).toList) :
    statePhrase scene value = withoutLeadingName (lowercase (scene.phrase value)) := by
  have hmark : " was ".toList ≠ [] := by simp
  have hnone := (afterLast_eq_none_iff hmark).2 hwas
  have hstate : statePhrase scene value = stateOfSentence (scene.phrase value) := by
    cases value with
    | fragment => rfl
    | composition => rfl
    | _ => cases h
  rw [hstate, stateOfSentence, hnone, Option.getD_none]

/-- A generated sentence without "was" loses its subject as an action. As a state it loses it exactly
if its first letter, a capital, has no small form; with every other capital the state is the whole
sentence in small letters. -/
theorem statePhrase_of_sentence (hvalue : value.asFragment.isSome = true)
    (hwords : 2 ≤ (words (scene.phrase value)).length)
    (hhead : (scene.phrase value).toList.head? = some first) (hcapital : isUppercase first = true)
    (hwas : ¬" was ".toList <:+: (lowercase (scene.phrase value)).toList) :
    actionPhrase scene value = " ".intercalate (words (scene.phrase value)).tail ∧
      (statePhrase scene value = lowercase (actionPhrase scene value) ↔ lowerChar first = [first]) ∧
      (lowerChar first ≠ [first] → statePhrase scene value = lowercase (scene.phrase value)) := by
  rw [actionPhrase_of_asFragment hvalue, statePhrase_of_asFragment hvalue hwas,
    withoutLeadingName_lowercase hhead hcapital hwords]
  refine ⟨withoutLeadingName_of_isUppercase hhead hcapital hwords, ?_, fun hother => if_neg hother⟩
  split
  case isTrue hown => exact iff_of_true rfl hown
  case isFalse hother =>
    exact iff_of_false (lowercase_ne_withoutLeadingName hhead hcapital hwords) hother

/-- Ann, who helped Bo, is told to be one who helped Bo, name and all. -/
theorem statePhrase_of_ann_helped_bo :
    let scene : Scene := ⟨[], none, none, false⟩
    let helped : Value := .fragment ⟨"Ann helped Bo.", 1, "Help"⟩
    2 ≤ (words (scene.phrase helped)).length ∧
      (scene.phrase helped).toList.head? = some 'A' ∧ isUppercase 'A' = true ∧
      ¬" was ".toList <:+: (lowercase (scene.phrase helped)).toList ∧
      actionPhrase scene helped = " ".intercalate (words (scene.phrase helped)).tail ∧
      statePhrase scene helped = lowercase (scene.phrase helped) := by
  intro scene helped
  have hphrase : scene.phrase helped = "Ann helped Bo" := by decide +kernel +zetaReduce
  have hwords : 2 ≤ (words (scene.phrase helped)).length := by rw [hphrase]; decide +kernel
  have hhead : (scene.phrase helped).toList.head? = some 'A' := by rw [hphrase]; decide +kernel
  have hwas : ¬" was ".toList <:+: (lowercase (scene.phrase helped)).toList := by
    rw [hphrase]; decide +kernel
  have hcapital : isUppercase 'A' = true := by decide +kernel
  obtain ⟨haction, -, hstate⟩ := statePhrase_of_sentence rfl hwords hhead hcapital hwas
  exact ⟨hwords, hhead, hcapital, hwas, haction, hstate (by decide +kernel)⟩

/-- "Someone helped." loses its subject as an action, not as a state. -/
theorem statePhrase_keeps_someone :
    let scene : Scene := ⟨[], none, none, false⟩
    let helped : Value := .fragment ⟨"Someone helped.", 1, "Help"⟩
    words (scene.phrase helped) = ["Someone", "helped"] ∧
      isUppercase 'S' = true ∧
      ¬" was ".toList <:+: (lowercase (scene.phrase helped)).toList ∧
      lowercase (actionPhrase scene helped) = "helped" ∧
      statePhrase scene helped = "someone helped" := by
  refine ⟨?_, ?_, ?_, ?_, ?_⟩ <;> decide +kernel

end Storyweave.Starter
