import Storyweave.Language.Parser

/-!
# Places of tokens

Results:
1. `Position.before_after`: every character moves the place forward.
2. `tokensFrom_cons_eq_ok`, `tokensFrom_cons_eq_error`: what one step of reading a source does.
3. `pairwise_places`: the tokens of a source stand at different places, one behind the other, and
   in front of its end.
4. `eq_of_placeOf`: so a place tells which tokens stand before it.
-/

namespace Storyweave.Language

/-- A place on an earlier line, or further to the left on the same one. -/
def Position.Before (p q : Position) : Prop :=
  p.line < q.line ∨ p.line = q.line ∧ p.column < q.column

namespace Position

theorem Before.trans {p q r : Position} (hpq : p.Before q) (hqr : q.Before r) : p.Before r := by
  unfold Before at *
  omega

theorem Before.ne {p q : Position} (h : p.Before q) : p ≠ q := by
  rintro rfl
  unfold Before at h
  omega

theorem before_next (p : Position) (c : Char) : p.Before (p.next c) := by
  unfold next
  split
  · exact .inl (Nat.lt_succ_self _)
  · exact .inr ⟨rfl, Nat.lt_succ_self _⟩

theorem before_after (p : Position) {cs : List Char} (h : cs ≠ []) : p.Before (p.after cs) := by
  induction cs generalizing p with
  | nil => exact absurd rfl h
  | cons c cs ih =>
    by_cases hcs : cs = []
    · subst hcs
      exact p.before_next c
    · exact (p.before_next c).trans (ih (p.next c) hcs)

end Position

section Reading

variable {p : Position} {layout : Layout} {c : Char} {cs : List Char}

/-- Where a source is read without a fault, a lexeme is cut off it and the rest is read behind
that. -/
theorem tokensFrom_cons_eq_ok {stream : TokenStream}
    (h : tokensFrom p layout (c :: cs) = .ok stream) :
    ∃ first others, cut c cs = .ok first ∧
      tokensFrom (p.after first.spelling) (layout.read first.lexeme).2 first.rest = .ok others ∧
      stream = TokenStream.prepend (layout.read first.lexeme).1 p others := by
  rw [tokensFrom] at h
  cases hcut : cut c cs with
  | error fault =>
    rw [hcut] at h
    cases h
  | ok first =>
    rw [hcut] at h
    dsimp only at h
    cases hbehind : tokensFrom (p.after first.spelling) (layout.read first.lexeme).2
        first.rest with
    | error fault =>
      rw [hbehind] at h
      cases h
    | ok others =>
      rw [hbehind] at h
      exact ⟨first, others, rfl, hbehind, (Except.ok.inj h).symm⟩

/-- A fault is that of the first lexeme, or stands behind it. -/
theorem tokensFrom_cons_eq_error {e : SyntaxError}
    (h : tokensFrom p layout (c :: cs) = .error e) :
    (∃ fault, cut c cs = .error fault ∧ e = fault.at c p) ∨
      ∃ first, cut c cs = .ok first ∧
        tokensFrom (p.after first.spelling) (layout.read first.lexeme).2 first.rest = .error e := by
  rw [tokensFrom] at h
  cases hcut : cut c cs with
  | error fault =>
    rw [hcut] at h
    exact .inl ⟨fault, rfl, (Except.error.inj h).symm⟩
  | ok first =>
    rw [hcut] at h
    dsimp only at h
    cases hbehind : tokensFrom (p.after first.spelling) (layout.read first.lexeme).2
        first.rest with
    | error fault =>
      rw [hbehind] at h
      exact .inr ⟨first, rfl, hbehind.trans (congrArg _ (Except.error.inj h))⟩
    | ok others =>
      rw [hbehind] at h
      cases h

end Reading

/-- The places of the tokens and of the end. -/
def TokenStream.places (stream : TokenStream) : List Position :=
  stream.tokens.map Located.position ++ [stream.stop]

theorem places_prepend (token : Option Token) (p : Position) (stream : TokenStream) :
    (TokenStream.prepend token p stream).places =
      (token.map fun _ => p).toList ++ stream.places := by
  cases token <;> rfl

/-- The tokens stand one behind the other, and none before the place where the reading began. -/
theorem pairwise_places {p : Position} {layout : Layout} {cs : List Char} {stream : TokenStream}
    (h : tokensFrom p layout cs = .ok stream) :
    stream.places.Pairwise Position.Before ∧ ∀ q ∈ stream.places, q = p ∨ p.Before q := by
  induction hn : cs.length using Nat.strongRecOn generalizing p layout cs stream with
  | _ n ih =>
    cases cs with
    | nil =>
      rw [tokensFrom] at h
      cases h
      exact ⟨List.pairwise_singleton _ _, fun q hq => .inl (List.mem_singleton.1 hq)⟩
    | cons c cs =>
      obtain ⟨first, others, -, hbehind, rfl⟩ := tokensFrom_cons_eq_ok h
      obtain ⟨hsorted, hfrom⟩ := ih _ (hn ▸ first.rest_length_lt) hbehind rfl
      -- what follows the first lexeme stands behind it, as no lexeme is empty
      have hmoved := p.before_after first.nonempty
      have hlater : ∀ q ∈ others.places, p.Before q := by
        intro q hq
        rcases hfrom q hq with rfl | hbefore
        · exact hmoved
        · exact hmoved.trans hbefore
      rw [places_prepend]
      cases (layout.read first.lexeme).1 with
      | none => exact ⟨hsorted, fun q hq => .inr (hlater q hq)⟩
      | some token =>
        refine ⟨List.pairwise_cons.2 ⟨hlater, hsorted⟩, fun q hq => ?_⟩
        exact (List.mem_cons.1 hq).imp_right (hlater q)

theorem getElem?_places {stream : TokenStream} {w rest : List Located}
    (h : stream.tokens = w ++ rest) :
    stream.places[w.length]? = some (placeOf stream.stop rest) := by
  rw [TokenStream.places, h]
  cases rest <;> simp [placeOf]

/-- The place of a token, or of the end, tells which tokens stand before it. -/
theorem eq_of_placeOf {source : String} {stream : TokenStream} (h : tokens source = .ok stream)
    {w w' rest rest' : List Located} (hw : stream.tokens = w ++ rest)
    (hw' : stream.tokens = w' ++ rest')
    (hplace : placeOf stream.stop rest = placeOf stream.stop rest') : w = w' ∧ rest = rest' := by
  have hnodup : stream.places.Nodup := (pairwise_places h).1.imp Position.Before.ne
  obtain ⟨hbounds, -⟩ := List.getElem?_eq_some_iff.1 (getElem?_places hw)
  have hsame : stream.places[w.length]? = stream.places[w'.length]? := by
    rw [getElem?_places hw, getElem?_places hw', hplace]
  have hlength : w.length = w'.length := (List.getElem?_inj hbounds hnodup).1 hsame
  exact List.append_inj (hw.symm.trans hw') hlength

end Storyweave.Language
