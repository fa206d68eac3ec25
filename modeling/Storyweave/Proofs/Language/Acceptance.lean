import Storyweave.Proofs.Language.Reading

/-!
# The parser accepts its grammar

Results:
1. `operand_sound_of_expressions`, `readChain_sound`: what the parser reads is a phrase of the
   grammar, from the first token up to the tokens it leaves.
2. `Chain.reads`: every phrase is read, if no operator follows that would continue it.
3. `statements_accepts_grammar`: a list of tokens is a program of the grammar exactly if the
   parser returns that program. So no list of tokens is two programs.
-/

namespace Storyweave.Language

namespace Grammar

/-- The entries that may stand behind arguments with the keys `keys`: in a list anything
without a key; in a call no positional argument behind a key, and no key twice. -/
def Fits (k : Bracket) : List String → List Argument → Prop
  | _, [] => True
  | keys, .positional _ :: others => (k = .call → keys = []) ∧ Fits k keys others
  | keys, .keyword key _ :: others => k = .call ∧ key ∉ keys ∧ Fits k (key :: keys) others

theorem fits_items (keys : List String) (items : List Expr) :
    Fits .list keys (items.map .positional) := by
  induction items with
  | nil => trivial
  | cons item others ih => exact ⟨(nomatch ·), ih⟩

theorem eq_items_of_fits {keys : List String} {entries : List Argument}
    (h : Fits .list keys entries) :
    entries = (entries.filterMap Argument.positional?).map .positional := by
  induction entries with
  | nil => rfl
  | cons a others ih =>
    cases a with
    | positional value => exact congrArg (Argument.positional value :: ·) (ih h.2)
    | keyword key value => cases h.1

theorem fits_keywords {keys : List String} {keywords : List (String × Expr)} :
    Fits .call keys (keywords.map fun k => .keyword k.1 k.2) ↔
      (∀ key ∈ keywords.map Prod.fst, key ∉ keys) ∧ (keywords.map Prod.fst).Nodup := by
  induction keywords generalizing keys with
  | nil => simp [Fits]
  | cons k others ih =>
    simp only [List.map_cons, Fits, ih, List.mem_cons, List.nodup_cons, true_and, not_or]
    constructor
    · rintro ⟨hk, hothers, hnodup⟩
      refine ⟨?_, fun h => (hothers _ h).1 rfl, hnodup⟩
      rintro key (rfl | hkey)
      · exact hk
      · exact (hothers key hkey).2
    · rintro ⟨hall, hk, hnodup⟩
      refine ⟨hall _ (.inl rfl), fun key hkey => ⟨?_, hall key (.inr hkey)⟩, hnodup⟩
      rintro rfl
      exact hk hkey

/-- Behind a key only keyword arguments fit. -/
theorem eq_keywords_of_fits {keys : List String} {entries : List Argument}
    (h : Fits .call keys entries) (hkeys : keys ≠ []) :
    entries = (entries.filterMap Argument.keyword?).map fun k => .keyword k.1 k.2 := by
  induction entries generalizing keys with
  | nil => rfl
  | cons a others ih =>
    cases a with
    | positional value => exact absurd (h.1 rfl) hkeys
    | keyword key value =>
      exact congrArg (Argument.keyword key value :: ·) (ih h.2.2 (List.cons_ne_nil _ _))

theorem fits_callArguments {positional : List Expr} {keywords : List (String × Expr)} :
    Fits .call [] (callArguments positional keywords) ↔ (keywords.map Prod.fst).Nodup := by
  induction positional with
  | nil => simpa [callArguments] using @fits_keywords [] keywords
  | cons value others ih => simpa [callArguments, Fits] using ih

theorem eq_callArguments_of_fits {entries : List Argument} (h : Fits .call [] entries) :
    entries = callArguments (entries.filterMap Argument.positional?)
      (entries.filterMap Argument.keyword?) := by
  induction entries with
  | nil => rfl
  | cons a others ih =>
    cases a with
    | positional value => exact congrArg (Argument.positional value :: ·) (ih h.2)
    | keyword key value =>
      -- no positional argument is left, so the first part of the arguments is empty
      have hkeywords := eq_keywords_of_fits h.2.2 (List.cons_ne_nil _ _)
      have hnone : others.filterMap Argument.positional? = [] := by
        rw [hkeywords, List.filterMap_map]
        exact List.filterMap_eq_nil_iff.2 fun _ _ => rfl
      simp only [List.filterMap_cons, Argument.positional?, Argument.keyword?, hnone]
      exact congrArg (Argument.keyword key value :: ·) hkeywords

theorem filterMap_positional?_callArguments (positional : List Expr)
    (keywords : List (String × Expr)) :
    (callArguments positional keywords).filterMap Argument.positional? = positional := by
  simp [callArguments, List.filterMap_append, List.filterMap_map, Function.comp_def,
    Argument.positional?]

theorem filterMap_keyword?_callArguments (positional : List Expr)
    (keywords : List (String × Expr)) :
    (callArguments positional keywords).filterMap Argument.keyword? = keywords := by
  simp [callArguments, List.filterMap_append, List.filterMap_map, Function.comp_def,
    Argument.keyword?]

/-! ## Soundness -/

theorem lineBreaks_skipNewlines (ts : List Located) :
    LineBreaks (kinds ts) (kinds (skipNewlines ts)) := by
  fun_induction skipNewlines ts with
  | case1 place rest ih => exact .skip ih
  | case2 ts _ => exact .done

section

variable {stop : Position}

/-- Links of at most `b` levels are read as the grammar has them. -/
def LinksSound (stop : Position) (op : Operator) (b : Nat) : Prop :=
  ∀ c ≤ b, ∀ ts e rest, readLink stop op c ts = .ok (e, rest) → Link op c (kinds ts) (kinds rest) e

/-- Reading on behind a chain extends the chain. The induction is on the levels that are left. -/
theorem readTail_sound {op : Operator} {b : Nat} (hlinks : LinksSound stop op b) {s : List Token}
    {c : Nat} (hc : c ≤ b) {left e : Expr} {ts rest : List Located}
    (hleft : Chain op b c s (kinds ts) left) (h : readTail stop op c left ts = .ok (e, rest)) :
    ∃ d, Chain op b d s (kinds rest) e := by
  induction c generalizing left ts with
  | zero =>
    by_cases hsign : (kinds ts).head? = some (.symbol op.sign)
    · obtain ⟨place, more, rfl⟩ := eq_cons_of_head hsign
      rw [readTail_sign_zero] at h
      cases h
    · rw [readTail_end stop op 0 left hsign] at h
      cases h
      exact ⟨0, hleft⟩
  | succ c ih =>
    by_cases hsign : (kinds ts).head? = some (.symbol op.sign)
    · obtain ⟨place, more, rfl⟩ := eq_cons_of_head hsign
      rw [readTail_sign] at h
      obtain ⟨⟨right, behind⟩, hright, htail⟩ := bind_eq_ok_iff.1 h
      have hlink := hlinks c (by omega) _ _ _ hright
      exact ih (by omega) (.next hleft (lineBreaks_skipNewlines more) hlink) htail
    · rw [readTail_end stop op (c + 1) left hsign] at h
      cases h
      exact ⟨c + 1, hleft⟩

theorem readChain_sound_of_links {op : Operator} {b : Nat} (hlinks : LinksSound stop op b)
    {ts rest : List Located} {e : Expr} (h : readChain stop op b ts = .ok (e, rest)) :
    ∃ c, Chain op b c (kinds ts) (kinds rest) e := by
  rw [readChain_eq] at h
  obtain ⟨⟨left, behind⟩, hleft, htail⟩ := bind_eq_ok_iff.1 h
  exact readTail_sound hlinks (Nat.le_refl b) (.first (hlinks b (Nat.le_refl b) _ _ _ hleft)) htail

/-- Links of `+` are chains of `/`. -/
theorem LinksSound.compose {b : Nat} (h : LinksSound stop .dilute b) :
    LinksSound stop .compose b := by
  intro c hc ts e rest hread
  have hsmaller : LinksSound stop .dilute c := fun d hd => h d (Nat.le_trans hd hc)
  obtain ⟨d, hchain⟩ := readChain_sound_of_links hsmaller hread
  exact .term hchain

/-- Expressions that begin with `b` levels are read as the grammar has them. -/
def ExpressionsSound (stop : Position) (b : Nat) : Prop :=
  ∀ ts e rest, readChain stop .compose b ts = .ok (e, rest) →
    ∃ c, Chain .compose b c (kinds ts) (kinds rest) e

theorem readEntry_sound {b : Nat} (hexpr : ExpressionsSound stop b) {k : Bracket}
    {keys keys' : List String} {a : Argument} {ts rest : List Located}
    (h : readEntry stop k keys b ts = .ok ((a, keys'), rest)) :
    Entry k b (kinds ts) (kinds rest) a ∧
      ∀ others, Fits k keys' others → Fits k keys (a :: others) := by
  cases k with
  | list =>
    rw [readEntry_list] at h
    obtain ⟨⟨item, behind⟩, hitem, hdone⟩ := bind_eq_ok_iff.1 h
    cases hdone
    obtain ⟨c, hchain⟩ := hexpr _ _ _ hitem
    exact ⟨.item hchain, fun others hothers => ⟨(nomatch ·), hothers⟩⟩
  | call =>
    by_cases hstart : StartsKeyword (kinds ts)
    · obtain ⟨key, s', hs'⟩ := hstart
      obtain ⟨place, ts', rfl, hts'⟩ := kinds_eq_cons hs'
      obtain ⟨place', more, rfl, -⟩ := kinds_eq_cons hts'
      rw [readEntry_keyword] at h
      split at h
      · cases h
      · next hkey =>
        obtain ⟨⟨value, behind⟩, hvalue, hdone⟩ := bind_eq_ok_iff.1 h
        cases hdone
        obtain ⟨c, hchain⟩ := hexpr _ _ _ hvalue
        exact ⟨.keyword hchain, fun others hothers => ⟨rfl, hkey, hothers⟩⟩
    · rw [readEntry_positional stop keys b hstart] at h
      split at h
      · next hkeys =>
        obtain ⟨⟨value, behind⟩, hvalue, hdone⟩ := bind_eq_ok_iff.1 h
        cases hdone
        obtain ⟨c, hchain⟩ := hexpr _ _ _ hvalue
        exact ⟨.positional hstart hchain,
          fun others hothers => ⟨fun _ => List.isEmpty_iff.1 hkeys, hothers⟩⟩
      · cases h

theorem length_lt_of_readEntry {k : Bracket} {keys : List String} {b : Nat}
    {a : Argument × List String} {ts rest : List Located}
    (h : readEntry stop k keys b ts = .ok (a, rest)) : rest.length < ts.length := by
  cases k with
  | call => exact length_lt_of_plain h
  | list =>
    obtain ⟨⟨item, behind⟩, hitem, hdone⟩ := bind_eq_ok_iff.1 h
    cases hdone
    exact length_lt_of_plain hitem

theorem readEntries_sound {b : Nat} (hexpr : ExpressionsSound stop b) {k : Bracket}
    {keys : List String} {entries : List Argument} {ts rest : List Located}
    (h : readEntries stop k keys b ts = .ok (entries, rest)) :
    Entries k b (kinds ts) (kinds rest) entries ∧ Fits k keys entries := by
  induction hn : ts.length using Nat.strongRecOn generalizing ts keys entries with
  | _ n ih =>
    by_cases hclose : (kinds ts).head? = some (.symbol k.closing)
    · obtain ⟨place, more, rfl⟩ := eq_cons_of_head hclose
      rw [readEntries_close] at h
      cases h
      exact ⟨.close, trivial⟩
    · rw [readEntries_item stop k keys b hclose] at h
      obtain ⟨⟨⟨a, keys'⟩, behind⟩, hentry, hbehind⟩ := bind_eq_ok_iff.1 h
      obtain ⟨⟨_, next⟩, hcomma, hnext⟩ := bind_eq_ok_iff.1 hbehind
      obtain ⟨⟨others, last⟩, hothers, hdone⟩ := bind_eq_ok_iff.1 hnext
      cases hdone
      -- an entry takes a token, so the other entries begin in a shorter list
      have hshort := length_lt_of_readEntry hentry
      obtain ⟨hfirst, hfits⟩ := readEntry_sound hexpr hentry
      rcases skipComma_eq_ok stop hcomma with ⟨place, rfl⟩ | ⟨rfl, place, more, rfl⟩
      · have hlt : next.length < n := by
          simp only [List.length_cons] at hshort
          omega
        obtain ⟨hmore, hrest⟩ := ih _ hlt hothers rfl
        exact ⟨.more hfirst hmore, hfits _ hrest⟩
      · rw [readEntries_close] at hothers
        cases hothers
        exact ⟨.last hfirst, hfits _ trivial⟩

/-- Operands are read as the grammar has them, if the expressions inside them are. -/
theorem operand_sound_of_expressions {b : Nat} (hexpr : ExpressionsSound stop b)
    {ts rest : List Located} {e : Expr} (h : plain (operand stop (b + 1) ts) = .ok (e, rest)) :
    Operand (b + 1) (kinds ts) (kinds rest) e := by
  cases ts with
  | nil =>
    rw [operand_unexpected stop b (by simp [kinds])] at h
    cases h
  | cons first ts =>
    obtain ⟨x, place⟩ := first
    cases x with
    | number value => rw [operand_number] at h; cases h; exact .number
    | text value => rw [operand_text] at h; cases h; exact .text
    | newline =>
      rw [operand_unexpected stop b (by simp [Token.opensOperand])] at h
      cases h
    | word word =>
      by_cases hcall : (kinds ts).head? = some (.symbol .openParen)
      · obtain ⟨place', more, rfl⟩ := eq_cons_of_head hcall
        rw [operand_call] at h
        obtain ⟨⟨entries, behind⟩, hentries, hdone⟩ := bind_eq_ok_iff.1 h
        cases hdone
        obtain ⟨hentries, hfits⟩ := readEntries_sound hexpr hentries
        rw [eq_callArguments_of_fits hfits] at hentries hfits
        exact .call hentries (fits_callArguments.1 hfits)
      · rw [operand_name stop b word place hcall] at h
        cases h
        exact .name hcall
    | symbol mark =>
      cases mark with
      | openBracket =>
        rw [operand_list] at h
        obtain ⟨⟨entries, behind⟩, hentries, hdone⟩ := bind_eq_ok_iff.1 h
        cases hdone
        obtain ⟨hentries, hfits⟩ := readEntries_sound hexpr hentries
        rw [eq_items_of_fits hfits] at hentries
        exact .list hentries
      | openParen =>
        rw [operand_group] at h
        obtain ⟨⟨inner, behind⟩, hinner, hdone⟩ := bind_eq_ok_iff.1 h
        obtain ⟨c, hchain⟩ := hexpr _ _ _ hinner
        dsimp only at hdone
        split at hdone
        · next closed hclosed =>
          obtain ⟨place', hbehind⟩ := closing?_eq_some hclosed
          cases hdone
          rw [hbehind] at hchain
          exact .group hchain
        · cases hdone
      | _ =>
        rw [operand_unexpected stop b (by simp [Token.opensOperand])] at h
        cases h

theorem linksSound_dilute (stop : Position) (b : Nat) : LinksSound stop .dilute b := by
  induction b with
  | zero =>
    intro c hc ts e rest h
    obtain rfl : c = 0 := by omega
    rw [readLink, operand_zero] at h
    cases h
  | succ b ih =>
    intro c hc ts e rest h
    -- an operand with all the levels gives what is inside it one level fewer
    by_cases hlast : c = b + 1
    · subst hlast
      have hexpr : ExpressionsSound stop b :=
        fun ts e rest hread => readChain_sound_of_links ih.compose hread
      exact .operand (operand_sound_of_expressions hexpr h)
    · exact ih c (by omega) ts e rest h

/-- What the parser reads as an expression is one. -/
theorem readChain_sound {op : Operator} {b : Nat} {ts rest : List Located} {e : Expr}
    (h : readChain stop op b ts = .ok (e, rest)) :
    ∃ c, Chain op b c (kinds ts) (kinds rest) e := by
  cases op with
  | dilute => exact readChain_sound_of_links (linksSound_dilute stop b) h
  | compose => exact readChain_sound_of_links (linksSound_dilute stop b).compose h

end

/-! ## Completeness -/

theorem Operand.opens {b : Nat} {s t : List Token} {e : Expr} (h : Operand b s t e) :
    Opens s := by
  cases h with
  | name _ => exact ⟨_, _, rfl, rfl⟩
  | number => exact ⟨_, _, rfl, rfl⟩
  | text => exact ⟨_, _, rfl, rfl⟩
  | call _ _ => exact ⟨_, _, rfl, rfl⟩
  | list _ => exact ⟨_, _, rfl, rfl⟩
  | group _ => exact ⟨_, _, rfl, rfl⟩

mutual

theorem Link.opens {op : Operator} {b : Nat} {s t : List Token} {e : Expr} :
    Link op b s t e → Opens s
  | .operand h => h.opens
  | .term h => h.opens

theorem Chain.opens {op : Operator} {b c : Nat} {s t : List Token} {e : Expr} :
    Chain op b c s t e → Opens s
  | .first h => h.opens
  | .next h _ _ => h.opens

end

theorem Entry.head_ne_closing {k : Bracket} {b : Nat} {s t : List Token} {a : Argument}
    (h : Entry k b s t a) : s.head? ≠ some (.symbol k.closing) := by
  cases h with
  | item h => exact h.opens.head_ne rfl
  | positional _ h => exact h.opens.head_ne rfl
  | keyword _ => rintro ⟨⟩

/-- Skipping the ends of lines stops at the first token that is none. -/
theorem kinds_skipNewlines {ts : List Located} {n : List Token} (h : LineBreaks (kinds ts) n)
    (hn : n.head? ≠ some .newline) : kinds (skipNewlines ts) = n := by
  generalize hs : kinds ts = s at h
  induction h generalizing ts with
  | done =>
    unfold skipNewlines
    split
    · subst hs; exact absurd rfl hn
    · exact hs
  | skip _ ih =>
    obtain ⟨place, rest, rfl, hrest⟩ := kinds_eq_cons hs
    rw [skipNewlines]
    exact ih hn hrest

/-- A chain of `op` is not continued by what stands behind it: the links of `+` are chains of
`/` and end before a `/` only if none follows. -/
def Closed (op : Operator) (t : List Token) : Prop :=
  op = .compose → t.head? ≠ some (.symbol Operator.dilute.sign)

theorem closed_sign (op : Operator) (t : List Token) : Closed op (.symbol op.sign :: t) := by
  rintro rfl ⟨⟩

section

variable (stop : Position)

/-- Where its operator does not follow, a chain is read to its end. -/
theorem readChain_end {op : Operator} {b c : Nat} {e : Expr} {ts : List Located} {t : List Token}
    (ht : t.head? ≠ some (.symbol op.sign))
    (h : ∃ rest, kinds rest = t ∧ readChain stop op b ts = readTail stop op c e rest) :
    ∃ rest, kinds rest = t ∧ readChain stop op b ts = .ok (e, rest) := by
  obtain ⟨rest, rfl, hread⟩ := h
  refine ⟨rest, rfl, ?_⟩
  rw [hread]
  exact readTail_end stop op c e ht

mutual

theorem Operand.reads {b : Nat} {s t : List Token} {e : Expr} :
    Operand b s t e → ∀ ts, kinds ts = s →
      ∃ rest, kinds rest = t ∧ plain (operand stop b ts) = .ok (e, rest)
  | .name hnext, ts, hts => by
    obtain ⟨place, rest, rfl, rfl⟩ := kinds_eq_cons hts
    exact ⟨rest, rfl, operand_name stop _ _ place hnext⟩
  | .number, ts, hts => by
    obtain ⟨place, rest, rfl, rfl⟩ := kinds_eq_cons hts
    exact ⟨rest, rfl, operand_number stop _ _ place rest⟩
  | .text, ts, hts => by
    obtain ⟨place, rest, rfl, rfl⟩ := kinds_eq_cons hts
    exact ⟨rest, rfl, operand_text stop _ _ place rest⟩
  | .call hentries hnodup, ts, hts => by
    obtain ⟨place, ts', rfl, hts'⟩ := kinds_eq_cons hts
    obtain ⟨place', inside, rfl, hinside⟩ := kinds_eq_cons hts'
    obtain ⟨rest, hrest, hread⟩ := hentries.reads [] (fits_callArguments.2 hnodup) inside hinside
    refine ⟨rest, hrest, ?_⟩
    rw [operand_call, hread]
    simp only [bind, Except.bind, filterMap_positional?_callArguments,
      filterMap_keyword?_callArguments]
  | .list hentries, ts, hts => by
    obtain ⟨place, inside, rfl, hinside⟩ := kinds_eq_cons hts
    obtain ⟨rest, hrest, hread⟩ := hentries.reads [] (fits_items [] _) inside hinside
    refine ⟨rest, hrest, ?_⟩
    rw [operand_list, hread]
    simp only [bind, Except.bind, filterMap_positional?]
  | .group hchain, ts, hts => by
    obtain ⟨place, inside, rfl, hinside⟩ := kinds_eq_cons hts
    obtain ⟨behind, hbehind, hread⟩ :=
      readChain_end stop (by rintro ⟨⟩) (hchain.reads (by rintro _ ⟨⟩) inside hinside)
    obtain ⟨place', rest, rfl, hrest⟩ := kinds_eq_cons hbehind
    refine ⟨rest, hrest, ?_⟩
    rw [operand_group, hread]
    simp only [bind, Except.bind, closing?_symbol]

theorem Link.reads {op : Operator} {b : Nat} {s t : List Token} {e : Expr} :
    Link op b s t e → Closed op t → ∀ ts, kinds ts = s →
      ∃ rest, kinds rest = t ∧ readLink stop op b ts = .ok (e, rest)
  | .operand h, _, ts, hts => h.reads ts hts
  | .term h, hclosed, ts, hts => by
    obtain ⟨rest, hrest, hread⟩ :=
      readChain_end stop (hclosed rfl) (h.reads (by rintro ⟨⟩) ts hts)
    refine ⟨rest, hrest, ?_⟩
    rw [readLink_compose]
    exact hread

theorem Chain.reads {op : Operator} {b c : Nat} {s t : List Token} {e : Expr} :
    Chain op b c s t e → Closed op t → ∀ ts, kinds ts = s →
      ∃ rest, kinds rest = t ∧ readChain stop op b ts = readTail stop op c e rest
  | .first h, hclosed, ts, hts => by
    obtain ⟨rest, hrest, hread⟩ := h.reads hclosed ts hts
    refine ⟨rest, hrest, ?_⟩
    rw [readChain_eq, hread]
    rfl
  | .next hleft hbreaks hright, hclosed, ts, hts => by
    obtain ⟨behind, hbehind, hread⟩ := hleft.reads (closed_sign _ _) ts hts
    obtain ⟨place, more, rfl, rfl⟩ := kinds_eq_cons hbehind
    have hskip := kinds_skipNewlines hbreaks (hright.opens.head_ne rfl)
    obtain ⟨rest, hrest, hlink⟩ := hright.reads hclosed _ hskip
    refine ⟨rest, hrest, ?_⟩
    rw [hread, readTail_sign, hlink]
    rfl

theorem Entry.reads {k : Bracket} {b : Nat} {s t : List Token} {a : Argument} :
    Entry k b s t a → (∀ op : Operator, t.head? ≠ some (.symbol op.sign)) →
      ∀ keys others, Fits k keys (a :: others) → ∀ ts, kinds ts = s →
        ∃ rest keys', kinds rest = t ∧ readEntry stop k keys b ts = .ok ((a, keys'), rest) ∧
          Fits k keys' others
  | .item h, hend, keys, others, hfits, ts, hts => by
    obtain ⟨rest, hrest, hread⟩ :=
      readChain_end stop (hend _) (h.reads (fun _ => hend _) ts hts)
    refine ⟨rest, keys, hrest, ?_, hfits.2⟩
    rw [readEntry_list, hread]
    rfl
  | .positional hstart h, hend, keys, others, hfits, ts, hts => by
    obtain ⟨rest, hrest, hread⟩ :=
      readChain_end stop (hend _) (h.reads (fun _ => hend _) ts hts)
    refine ⟨rest, keys, hrest, ?_, hfits.2⟩
    rw [readEntry_positional stop keys _ (by rw [hts]; exact hstart), hread,
      if_pos (List.isEmpty_iff.2 (hfits.1 rfl))]
    rfl
  | .keyword h, hend, keys, others, hfits, ts, hts => by
    obtain ⟨place, ts', rfl, hts'⟩ := kinds_eq_cons hts
    obtain ⟨place', inside, rfl, hinside⟩ := kinds_eq_cons hts'
    obtain ⟨rest, hrest, hread⟩ :=
      readChain_end stop (hend _) (h.reads (fun _ => hend _) inside hinside)
    obtain ⟨-, hkey, hothers⟩ := hfits
    refine ⟨rest, _ :: keys, hrest, ?_, hothers⟩
    rw [readEntry_keyword, hread, if_neg hkey]
    rfl

theorem Entries.reads {k : Bracket} {b : Nat} {s t : List Token} {entries : List Argument} :
    Entries k b s t entries → ∀ keys, Fits k keys entries → ∀ ts, kinds ts = s →
      ∃ rest, kinds rest = t ∧ readEntries stop k keys b ts = .ok (entries, rest)
  | .close, keys, _, ts, hts => by
    obtain ⟨place, rest, rfl, rfl⟩ := kinds_eq_cons hts
    exact ⟨rest, rfl, readEntries_close stop k keys b place rest⟩
  | .last h, keys, hfits, ts, hts => by
    have hhead := h.head_ne_closing
    obtain ⟨behind, keys', hbehind, hread, -⟩ :=
      h.reads (by intro op heq; cases k <;> cases op <;> cases heq) keys [] hfits ts hts
    obtain ⟨place, rest, rfl, rfl⟩ := kinds_eq_cons hbehind
    refine ⟨rest, rfl, ?_⟩
    rw [readEntries_item stop k keys b (by rw [hts]; exact hhead), hread]
    simp only [bind, Except.bind, plain_skipComma_close, readEntries_close]
  | .more h hothers, keys, hfits, ts, hts => by
    have hhead := h.head_ne_closing
    obtain ⟨behind, keys', hbehind, hread, hfits'⟩ :=
      h.reads (by intro op heq; cases op <;> cases heq) keys _ hfits ts hts
    obtain ⟨place, next, rfl, hnext⟩ := kinds_eq_cons hbehind
    obtain ⟨rest, hrest, hmore⟩ := hothers.reads keys' hfits' next hnext
    refine ⟨rest, hrest, ?_⟩
    rw [readEntries_item stop k keys b (by rw [hts]; exact hhead), hread]
    simp only [bind, Except.bind, plain_skipComma_comma, hmore]

end

/-- A chain that no operator follows is read to its end. -/
theorem Chain.reads_end {op : Operator} {b c : Nat} {s t : List Token} {e : Expr}
    (h : Chain op b c s t e) (ht : ∀ op : Operator, t.head? ≠ some (.symbol op.sign))
    {ts : List Located} (hts : kinds ts = s) :
    ∃ rest, kinds rest = t ∧ readChain stop op b ts = .ok (e, rest) :=
  readChain_end stop (ht op) (h.reads stop (fun _ => ht _) ts hts)

end

/-- A phrase that no operator follows is the only one where it begins. -/
theorem Chain.unique {b c c' : Nat} {s t t' : List Token} {e e' : Expr}
    (h : Chain .compose b c s t e) (ht : ∀ op : Operator, t.head? ≠ some (.symbol op.sign))
    (h' : Chain .compose b c' s t' e') (ht' : ∀ op : Operator, t'.head? ≠ some (.symbol op.sign)) :
    t = t' ∧ e = e' := by
  obtain ⟨ts, rfl⟩ := exists_kinds s
  obtain ⟨rest, rfl, hread⟩ := h.reads_end .start ht rfl
  obtain ⟨rest', rfl, hread'⟩ := h'.reads_end .start ht' rfl
  rw [hread] at hread'
  cases hread'
  exact ⟨rfl, rfl⟩

/-! ## Programs -/

theorem statements_sound {stop : Position} {ts : List Located} {program : List Expr}
    (h : statements stop ts = .ok program) : Program (kinds ts) program := by
  induction hn : ts.length using Nat.strongRecOn generalizing ts program with
  | _ n ih =>
    have hbreaks := lineBreaks_skipNewlines ts
    by_cases hnil : skipNewlines ts = []
    · rw [statements_nil stop hnil] at h
      rw [hnil] at hbreaks
      cases h
      exact .blank hbreaks
    · rw [statements_cons stop hnil] at h
      obtain ⟨⟨statement, behind⟩, hstatement, hbehind⟩ := bind_eq_ok_iff.1 h
      obtain ⟨⟨_, next⟩, hnext, hmore⟩ := bind_eq_ok_iff.1 hbehind
      obtain ⟨more, hothers, hdone⟩ := bind_eq_ok_iff.1 hmore
      cases hdone
      obtain ⟨c, hchain⟩ := readChain_sound hstatement
      rcases skipLineEnd_eq_ok stop hnext with ⟨rfl, rfl⟩ | ⟨place, rfl⟩
      · have hnil : statements stop [] = .ok [] := statements_nil stop rfl
        rw [hnil] at hothers
        cases hothers
        exact .last hbreaks hchain
      · have hlt : next.length < n := by
          have hfits := length_lt_of_plain hstatement
          have hskip := length_skipNewlines_le ts
          simp only [List.length_cons] at hfits
          omega
        exact .more hbreaks hchain (ih _ hlt hothers rfl)

/-- A statement is read up to the end of its line. -/
theorem readChain_statement (stop : Position) {s m t : List Token} {c : Nat} {e : Expr}
    (hbreaks : LineBreaks s m) (h : Chain .compose maxNesting c m t e)
    (ht : ∀ op : Operator, t.head? ≠ some (.symbol op.sign)) {ts : List Located}
    (hts : kinds ts = s) :
    skipNewlines ts ≠ [] ∧ ∃ rest, kinds rest = t ∧
      readChain stop .compose maxNesting (skipNewlines ts) = .ok (e, rest) := by
  have hskip : kinds (skipNewlines ts) = m :=
    kinds_skipNewlines (by rw [hts]; exact hbreaks) (h.opens.head_ne rfl)
  refine ⟨fun hnil => ?_, ?_⟩
  · obtain ⟨x, s', hopens, -⟩ := h.opens
    rw [hnil, hopens] at hskip
    cases hskip
  · exact h.reads_end stop ht hskip

theorem Program.reads (stop : Position) {s : List Token} {program : List Expr}
    (h : Program s program) : ∀ ts, kinds ts = s → statements stop ts = .ok program := by
  induction h with
  | blank hbreaks =>
    intro ts hts
    have hskip := kinds_skipNewlines (by rw [hts]; exact hbreaks) (by rintro ⟨⟩)
    exact statements_nil stop (kinds_eq_nil hskip)
  | last hbreaks hchain =>
    intro ts hts
    obtain ⟨hne, rest, hrest, hread⟩ :=
      readChain_statement stop hbreaks hchain (by intro op; rintro ⟨⟩) hts
    obtain rfl := kinds_eq_nil hrest
    have hnil : statements stop [] = .ok [] := statements_nil stop rfl
    rw [statements_cons stop hne, hread]
    simp only [bind, Except.bind, skipLineEnd, plain, Except.map, hnil]
  | more hbreaks hchain _ ih =>
    intro ts hts
    obtain ⟨hne, rest, hrest, hread⟩ :=
      readChain_statement stop hbreaks hchain (by intro op; rintro ⟨⟩) hts
    obtain ⟨place, next, rfl, hnext⟩ := kinds_eq_cons hrest
    rw [statements_cons stop hne, hread]
    simp only [bind, Except.bind, skipLineEnd, plain, Except.map, ih next hnext]

end Grammar

/-- The parser returns a program exactly if the grammar derives it from the tokens, within
`maxNesting` levels for each statement. So no list of tokens is two programs. -/
theorem statements_accepts_grammar (stop : Position) (ts : List Located) :
    (∀ program, statements stop ts = .ok program ↔ Grammar.Program (kinds ts) program) ∧
      ∀ program program', Grammar.Program (kinds ts) program →
        Grammar.Program (kinds ts) program' → program = program' := by
  refine ⟨fun program => ⟨Grammar.statements_sound, fun h => h.reads stop ts rfl⟩, ?_⟩
  intro program program' h h'
  have hread := h.reads stop ts rfl
  rw [h'.reads stop ts rfl] at hread
  cases hread
  rfl

end Storyweave.Language
