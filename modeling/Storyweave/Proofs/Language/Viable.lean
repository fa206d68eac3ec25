import Storyweave.Proofs.Language.Reading

/-!
# Readers that find the first offence

A reader goes through the tokens from left to right and looks at no more than two of them at a time.
So it fails where the tokens can no longer be continued, and no earlier. Results:
1. `Viable`: what a reader does with some tokens depends on those that it takes. Where it fails, the
   tokens before can be continued, and those up to the one behind the error cannot.
2. `Viable.bind`: two readers of that kind one after the other are one.
3. `Viable.lead`, `Viable.congr`, `Viable.skip`: so is a reader behind some more tokens, where it is
   chosen by what stands in front, and behind ends of lines.
-/

namespace Storyweave.Language

/-! ## Tokens behind a phrase -/

/-- Whether a token ends every expression: a comma, a closing symbol, or the end of a line. -/
def Token.closesExpression : Token → Bool
  | .symbol .comma | .symbol .closeParen | .symbol .closeBracket => true
  | .newline => true
  | _ => false

/-- Nothing stands in front that could continue an expression. -/
def Closes (ts : List Located) : Prop := ∀ x ∈ (kinds ts).head?, x.closesExpression = true

/-- As far as a reader sees that has read up to `rest`, it may go on with `rest'` instead. -/
def Resumes (rest rest' : List Located) : Prop := rest'.head? = rest.head? ∨ Closes rest'

/-- Tokens that begin with the same two tokens as others, which are those others if these are
fewer. -/
def SameStart (ts ts' : List Located) : Prop :=
  ts' = ts ∨ ∃ x y more more', ts = x :: y :: more ∧ ts' = x :: y :: more'

theorem closes_nil : Closes [] := by
  rintro x ⟨⟩

theorem closes_closing (k : Bracket) (place : Position) (ts : List Located) :
    Closes (⟨.symbol k.closing, place⟩ :: ts) := by
  rintro x ⟨⟩
  cases k <;> rfl

theorem Closes.head_ne {ts : List Located} (h : Closes ts) {x : Token}
    (hx : x.closesExpression = false) : (kinds ts).head? ≠ some x := by
  intro hhead
  rw [h x hhead] at hx
  cases hx

theorem head?_kinds (ts : List Located) : (kinds ts).head? = ts.head?.map Located.token :=
  List.head?_map

theorem Resumes.head_ne {rest rest' : List Located} (h : Resumes rest rest') {x : Token}
    (hx : x.closesExpression = false) (hne : (kinds rest).head? ≠ some x) :
    (kinds rest').head? ≠ some x := by
  rcases h with hsame | hcloses
  · rwa [head?_kinds, hsame, ← head?_kinds]
  · exact hcloses.head_ne hx

/-- What was read behind is the first to be seen. -/
theorem Resumes.append {rest rest' : List Located} (h : Resumes rest rest') (w : List Located) :
    Resumes (w ++ rest) (w ++ rest') := by
  cases w with
  | nil => exact h
  | cons x w => exact .inl rfl

theorem SameStart.head? {ts ts' : List Located} (h : SameStart ts ts') : ts'.head? = ts.head? := by
  rcases h with rfl | ⟨x, y, more, more', rfl, rfl⟩ <;> rfl

theorem SameStart.head_ne {ts ts' : List Located} (h : SameStart ts ts') {x : Token}
    (hne : (kinds ts).head? ≠ some x) : (kinds ts').head? ≠ some x := by
  rwa [head?_kinds, h.head?, ← head?_kinds]

theorem SameStart.ne_nil {ts ts' : List Located} (h : SameStart ts ts') (hne : ts ≠ []) :
    ts' ≠ [] := by
  rintro rfl
  exact hne (List.head?_eq_none_iff.1 h.head?.symm)

theorem SameStart.append {ts ts' : List Located} (h : SameStart ts ts') (w : List Located) :
    SameStart (w ++ ts) (w ++ ts') := by
  rcases h with rfl | ⟨x, y, more, more', rfl, rfl⟩
  · exact .inl rfl
  · match w with
    | [] => exact .inr ⟨x, y, more, more', rfl, rfl⟩
    | [z] => exact .inr ⟨z, x, y :: more, y :: more', rfl, rfl⟩
    | z :: z' :: w => exact .inr ⟨z, z', w ++ x :: y :: more, w ++ x :: y :: more', rfl, rfl⟩

/-! ## Readers that find the first offence -/

section

variable (stop : Position)

/-- An error of a reader that stands behind the tokens `w`, in front of the tokens `rest`. With
`fresh` the tokens before it can be continued even if there are none. -/
structure Breaks {α : Type} (fresh : Prop)
    (read : List Located → Except SyntaxError (α × List Located)) (e : SyntaxError)
    (w rest : List Located) : Prop where
  /-- The error is reported where the rest begins. -/
  place : e.position = placeOf stop rest
  /-- Whatever follows the first two tokens of the rest is refused. -/
  refused : ∀ rest', SameStart rest rest' → ∃ e', read (w ++ rest') = .error e'
  /-- What stands before the error can be completed. -/
  completed : fresh ∨ w ≠ [] →
    ∃ c, ∀ behind, Closes behind → ∃ v, read (w ++ (c ++ behind)) = .ok (v, behind)

/-- A reader stops at the first offence of some tokens. -/
structure Viable {α : Type} (fresh : Prop)
    (read : List Located → Except SyntaxError (α × List Located)) (ts : List Located) : Prop where
  /-- What was read is read again in front of what does not continue it. -/
  ok : ∀ {v rest}, read ts = .ok (v, rest) →
    ∃ w, ts = w ++ rest ∧ ∀ rest', Resumes rest rest' → read (w ++ rest') = .ok (v, rest')
  error : ∀ {e}, read ts = .error e → e.fault ≠ .tooDeep →
    ∃ w rest, ts = w ++ rest ∧ Breaks stop fresh read e w rest

variable {stop} {α β : Type} {fresh : Prop} {ts : List Located}
  {read read' : List Located → Except SyntaxError (α × List Located)}

theorem bind_eq_error_iff {x : Except SyntaxError α} {f : α → Except SyntaxError β}
    {e : SyntaxError} :
    x >>= f = .error e ↔ x = .error e ∨ ∃ a, x = .ok a ∧ f a = .error e := by
  cases x with
  | error fault => simp [bind, Except.bind]
  | ok a => simp [bind, Except.bind]

/-- Tokens that are taken whatever stands behind them, if it does not continue them. -/
theorem Viable.take {w rest : List Located} {v : α}
    (h : ∀ rest', Resumes rest rest' → read (w ++ rest') = .ok (v, rest')) :
    Viable stop fresh read (w ++ rest) where
  ok := by
    intro v' rest' hread
    rw [h rest (.inl rfl)] at hread
    cases hread
    exact ⟨w, rfl, h⟩
  error := by
    intro e hread
    rw [h rest (.inl rfl)] at hread
    cases hread

/-- Tokens of which the first two are refused. -/
theorem Viable.refuse (f : List Located → SyntaxError)
    (hread : ∀ ts', SameStart ts ts' → read ts' = .error (f ts'))
    (hplace : (f ts).position = placeOf stop ts)
    (hfresh : fresh → ∃ c, ∀ behind, Closes behind → ∃ v, read (c ++ behind) = .ok (v, behind)) :
    Viable stop fresh read ts where
  ok := by
    intro v rest h
    rw [hread ts (.inl rfl)] at h
    cases h
  error := by
    intro e h _
    rw [hread ts (.inl rfl)] at h
    cases h
    exact ⟨[], ts, rfl, hplace, fun ts' hts' => ⟨_, hread ts' hts'⟩,
      fun hw => hfresh (hw.resolve_right (· rfl))⟩

/-- Too many levels are no offence. -/
theorem Viable.tooDeep {e : SyntaxError} (h : read ts = .error e) (hdeep : e.fault = .tooDeep) :
    Viable stop fresh read ts where
  ok := by
    intro v rest hread
    rw [h] at hread
    cases hread
  error := by
    intro e' hread hfault
    rw [h] at hread
    cases hread
    exact absurd hdeep hfault

/-- Some tokens are taken without looking further, and what follows is read by another reader. -/
theorem Viable.lead {read' : List Located → Except SyntaxError (β × List Located)}
    (lead : List Located) (f : α → β) (h : Viable stop True read ts)
    (hlead : ∀ ts, read' (lead ++ ts) = read ts >>= fun p => .ok (f p.1, p.2)) :
    Viable stop fresh read' (lead ++ ts) where
  ok := by
    intro v' rest hread
    rw [hlead] at hread
    obtain ⟨⟨v, behind⟩, hv, hdone⟩ := bind_eq_ok_iff.1 hread
    cases hdone
    obtain ⟨w, rfl, hmoves⟩ := h.ok hv
    refine ⟨lead ++ w, (List.append_assoc ..).symm, fun rest' hrest' => ?_⟩
    rw [List.append_assoc, hlead, hmoves rest' hrest']
    rfl
  error := by
    intro e hread hdeep
    rw [hlead] at hread
    obtain he | ⟨_, _, ⟨⟩⟩ := bind_eq_error_iff.1 hread
    obtain ⟨w, rest, rfl, hbreaks⟩ := h.error he hdeep
    refine ⟨lead ++ w, rest, (List.append_assoc ..).symm, hbreaks.place, fun rest' hrest' => ?_,
      fun _ => ?_⟩
    · obtain ⟨e', he'⟩ := hbreaks.refused rest' hrest'
      exact ⟨e', by rw [List.append_assoc, hlead, he']; rfl⟩
    · obtain ⟨c, hc⟩ := hbreaks.completed (.inl trivial)
      refine ⟨c, fun behind hbehind => ?_⟩
      obtain ⟨v, hv⟩ := hc behind hbehind
      exact ⟨f v, by rw [List.append_assoc, hlead, hv]; rfl⟩

/-- One reader and then another one, which may be brought to its end by `c`. -/
theorem Viable.bind {next : α → List Located → Except SyntaxError (β × List Located)}
    {c : List Located} (hfirst : Viable stop fresh read ts)
    (hnext : ∀ v between, read ts = .ok (v, between) → Viable stop False (next v) between)
    (hc : ∀ behind, Closes behind → Closes (c ++ behind))
    (hdone : ∀ v behind, Closes behind → ∃ v', next v (c ++ behind) = .ok (v', behind)) :
    Viable stop fresh (fun ts => read ts >>= fun p => next p.1 p.2) ts where
  ok := by
    intro v' rest h
    obtain ⟨⟨v, between⟩, hv, hv'⟩ := bind_eq_ok_iff.1 h
    obtain ⟨w', rfl, hmoves'⟩ := (hnext v between hv).ok hv'
    obtain ⟨w, rfl, hmoves⟩ := hfirst.ok hv
    refine ⟨w ++ w', (List.append_assoc ..).symm, fun rest' hrest' => ?_⟩
    rw [List.append_assoc]
    exact bind_eq_ok_iff.2 ⟨_, hmoves _ (hrest'.append w'), hmoves' rest' hrest'⟩
  error := by
    intro e h hdeep
    rcases bind_eq_error_iff.1 h with he | ⟨⟨v, between⟩, hv, he⟩
    · obtain ⟨w, rest, rfl, hbreaks⟩ := hfirst.error he hdeep
      refine ⟨w, rest, rfl, hbreaks.place, fun rest' hrest' => ?_, fun hw => ?_⟩
      · obtain ⟨e', he'⟩ := hbreaks.refused rest' hrest'
        exact ⟨e', bind_eq_error_iff.2 (.inl he')⟩
      · obtain ⟨d, hd⟩ := hbreaks.completed hw
        refine ⟨d ++ c, fun behind hbehind => ?_⟩
        obtain ⟨v, hv⟩ := hd _ (hc behind hbehind)
        obtain ⟨v', hv'⟩ := hdone v behind hbehind
        rw [List.append_assoc]
        exact ⟨v', bind_eq_ok_iff.2 ⟨_, hv, hv'⟩⟩
    · obtain ⟨w', rest, rfl, hbreaks⟩ := (hnext v between hv).error he hdeep
      obtain ⟨w, rfl, hmoves⟩ := hfirst.ok hv
      refine ⟨w ++ w', rest, (List.append_assoc ..).symm, hbreaks.place, fun rest' hrest' => ?_,
        fun _ => ?_⟩
      · obtain ⟨e', he'⟩ := hbreaks.refused rest' hrest'
        rw [List.append_assoc]
        exact ⟨e', bind_eq_error_iff.2 (.inr ⟨_, hmoves _ (.inl (hrest'.append w').head?), he'⟩)⟩
      · -- where the second reader has taken nothing yet, it is brought to its end at once
        cases w' with
        | nil =>
          refine ⟨c, fun behind hbehind => ?_⟩
          obtain ⟨v', hv'⟩ := hdone v behind hbehind
          rw [List.append_nil]
          exact ⟨v', bind_eq_ok_iff.2 ⟨_, hmoves _ (.inr (hc behind hbehind)), hv'⟩⟩
        | cons x more =>
          obtain ⟨d, hd⟩ := hbreaks.completed (.inr (List.cons_ne_nil _ _))
          refine ⟨d, fun behind hbehind => ?_⟩
          obtain ⟨v', hv'⟩ := hd behind hbehind
          rw [List.append_assoc]
          exact ⟨v', bind_eq_ok_iff.2 ⟨_, hmoves _ (.inl rfl), hv'⟩⟩

/-- A reader that does what another one does wherever `P` holds. -/
theorem Viable.congr {P : List Located → Prop} (h : Viable stop fresh read ts)
    (heq : ∀ ts, P ts → read' ts = read ts) (hts : P ts)
    (hsame : ∀ {ts ts'}, P ts → SameStart ts ts' → P ts')
    (hresumes : ∀ {w rest rest' v}, P (w ++ rest) → Resumes rest rest' →
      read (w ++ rest') = .ok (v, rest') → P (w ++ rest'))
    (hcloses : ∀ {ts v behind}, Closes behind → read ts = .ok (v, behind) → P ts) :
    Viable stop fresh read' ts where
  ok := by
    intro v rest hread
    rw [heq ts hts] at hread
    obtain ⟨w, rfl, hmoves⟩ := h.ok hread
    refine ⟨w, rfl, fun rest' hrest' => ?_⟩
    have hread' := hmoves rest' hrest'
    rw [heq _ (hresumes hts hrest' hread'), hread']
  error := by
    intro e hread hdeep
    rw [heq ts hts] at hread
    obtain ⟨w, rest, rfl, hbreaks⟩ := h.error hread hdeep
    refine ⟨w, rest, rfl, hbreaks.place, fun rest' hrest' => ?_, fun hw => ?_⟩
    · rw [heq _ (hsame hts (hrest'.append w))]
      exact hbreaks.refused rest' hrest'
    · obtain ⟨c, hc⟩ := hbreaks.completed hw
      refine ⟨c, fun behind hbehind => ?_⟩
      obtain ⟨v, hv⟩ := hc behind hbehind
      exact ⟨v, by rw [heq _ (hcloses hbehind hv), hv]⟩

/-- A reader that can be brought to its end at once. -/
theorem Viable.closable {c : List Located} (h : Viable stop False read ts)
    (hc : ∀ behind, Closes behind → ∃ v, read (c ++ behind) = .ok (v, behind)) :
    Viable stop True read ts where
  ok := h.ok
  error he hdeep := by
    obtain ⟨w, rest, hw, hbreaks⟩ := h.error he hdeep
    refine ⟨w, rest, hw, hbreaks.place, hbreaks.refused, fun _ => ?_⟩
    cases w with
    | nil => exact ⟨c, hc⟩
    | cons x more => exact hbreaks.completed (.inr (List.cons_ne_nil _ _))

/-! ## Ends of lines behind an operator -/

/-- The ends of lines that are skipped are skipped in front of everything else, too. -/
theorem exists_skipNewlines (ts : List Located) :
    ∃ breaks, ts = breaks ++ skipNewlines ts ∧ (kinds (skipNewlines ts)).head? ≠ some .newline ∧
      ∀ ts', (kinds ts').head? ≠ some .newline → skipNewlines (breaks ++ ts') = ts' := by
  fun_induction skipNewlines ts with
  | case1 place rest ih =>
    obtain ⟨breaks, hrest, hhead, hskip⟩ := ih
    refine ⟨⟨.newline, place⟩ :: breaks, congrArg (_ :: ·) hrest, hhead, fun ts' hts' => ?_⟩
    rw [List.cons_append, skipNewlines, hskip ts' hts']
  | case2 ts hnone =>
    refine ⟨[], rfl, ?_, fun ts' hts' => ?_⟩
    · intro hhead
      obtain ⟨place, rest, rfl⟩ := eq_cons_of_head hhead
      exact hnone place rest rfl
    · rw [List.nil_append]
      fun_cases skipNewlines ts' with
      | case1 => exact absurd rfl hts'
      | case2 => rfl

/-- Ends of lines may stand in front of what does not begin with one. -/
theorem Viable.skip (h : Viable stop True read (skipNewlines ts))
    (hopens : ∀ ts p, read ts = .ok p → (kinds ts).head? ≠ some .newline) :
    Viable stop True (fun ts => read (skipNewlines ts)) ts := by
  obtain ⟨breaks, hlines, hhead, hskip⟩ := exists_skipNewlines ts
  constructor
  · intro v rest hread
    obtain ⟨w, hw, hmoves⟩ := h.ok hread
    refine ⟨breaks ++ w, by rw [List.append_assoc, ← hw, ← hlines], fun rest' hrest' => ?_⟩
    have hread' := hmoves rest' hrest'
    rw [List.append_assoc, hskip _ (hopens _ _ hread'), hread']
  · intro e hread hdeep
    obtain ⟨w, rest, hw, hbreaks⟩ := h.error hread hdeep
    refine ⟨breaks ++ w, rest, by rw [List.append_assoc, ← hw, ← hlines], hbreaks.place,
      fun rest' hrest' => ?_, fun _ => ?_⟩
    · rw [hw] at hhead
      rw [List.append_assoc, hskip _ ((hrest'.append w).head_ne hhead)]
      exact hbreaks.refused rest' hrest'
    · obtain ⟨c, hc⟩ := hbreaks.completed (.inl trivial)
      refine ⟨c, fun behind hbehind => ?_⟩
      obtain ⟨v, hv⟩ := hc behind hbehind
      rw [List.append_assoc, hskip _ (hopens _ _ hv)]
      exact ⟨v, hv⟩

end

end Storyweave.Language
