import Storyweave.Proofs.Language.RoundTrip

/-!
# The height of accepted trees

The parser counts the levels of nesting on its way to the right: what stands to the left of an
operator gives its levels back before the operator is read. So the height of a tree is not bounded
by `maxNesting`. Results:
1. `height_of_parse`: an accepted tree is higher than `maxNesting` only because of what stands to
   the left of an operator, and it is not higher than the square of `maxNesting`.
2. `exists_height_eq_square`: this height is reached.
-/

namespace Storyweave.Language

namespace Expr

mutual

/-- How many nodes the longest path from the root to a leaf has. Each call, each list and each
operator is a node. -/
def height : Expr → Nat
  | .call _ positional keywords => max (heightAll positional) (heightKeywords keywords) + 1
  | .binary _ left right => max (height left) (height right) + 1
  | .name _ => 1
  | .number _ => 1
  | .text _ => 1
  | .list items => heightAll items + 1

/-- The greatest height of some expressions. -/
def heightAll : List Expr → Nat
  | [] => 0
  | first :: rest => max (height first) (heightAll rest)

/-- The greatest height of the values of some keyword arguments. -/
def heightKeywords : List (String × Expr) → Nat
  | [] => 0
  | (_, value) :: rest => max (height value) (heightKeywords rest)

end

mutual

/-- Each path that goes into the left side of an operator has at most `n` nodes. -/
def LeftWithin (n : Nat) : Expr → Prop
  | .call _ positional keywords =>
    LeftWithinAll (n - 1) positional ∧ LeftWithinKeywords (n - 1) keywords
  | .binary _ left right => left.height < n ∧ LeftWithin (n - 1) right
  | .name _ => True
  | .number _ => True
  | .text _ => True
  | .list items => LeftWithinAll (n - 1) items

/-- The same for each of some expressions. -/
def LeftWithinAll (n : Nat) : List Expr → Prop
  | [] => True
  | first :: rest => LeftWithin n first ∧ LeftWithinAll n rest

/-- The same for the values of some keyword arguments. -/
def LeftWithinKeywords (n : Nat) : List (String × Expr) → Prop
  | [] => True
  | (_, value) :: rest => LeftWithin n value ∧ LeftWithinKeywords n rest

end

theorem heightAll_le_iff {items : List Expr} {n : Nat} :
    heightAll items ≤ n ↔ ∀ item ∈ items, item.height ≤ n := by
  induction items with
  | nil => simp [heightAll]
  | cons item rest ih => simp only [heightAll, Nat.max_le, ih, List.forall_mem_cons]

theorem heightKeywords_le_iff {keywords : List (String × Expr)} {n : Nat} :
    heightKeywords keywords ≤ n ↔ ∀ k ∈ keywords, k.2.height ≤ n := by
  induction keywords with
  | nil => simp [heightKeywords]
  | cons k rest ih => simp only [heightKeywords, Nat.max_le, ih, List.forall_mem_cons]

theorem height_callArguments_le_iff {positional : List Expr} {keywords : List (String × Expr)}
    {n : Nat} : max (heightAll positional) (heightKeywords keywords) ≤ n ↔
      ∀ a ∈ callArguments positional keywords, a.value.height ≤ n := by
  rw [Nat.max_le, heightAll_le_iff, heightKeywords_le_iff,
    forall_callArguments (P := (·.height ≤ n))]

theorem leftWithinAll_iff {items : List Expr} {n : Nat} :
    LeftWithinAll n items ↔ ∀ item ∈ items, item.LeftWithin n := by
  induction items with
  | nil => simp [LeftWithinAll]
  | cons item rest ih => simp only [LeftWithinAll, ih, List.forall_mem_cons]

theorem leftWithinKeywords_iff {keywords : List (String × Expr)} {n : Nat} :
    LeftWithinKeywords n keywords ↔ ∀ k ∈ keywords, k.2.LeftWithin n := by
  induction keywords with
  | nil => simp [LeftWithinKeywords]
  | cons k rest ih => simp only [LeftWithinKeywords, ih, List.forall_mem_cons]

mutual

/-- A path into a left side is a path. -/
theorem leftWithin_of_height : ∀ {n : Nat} (e : Expr), e.height ≤ n → e.LeftWithin n
  | n, .call _ p w, h => by
    rw [height] at h
    exact ⟨leftWithinAll_of_height p (by omega), leftWithinKeywords_of_height w (by omega)⟩
  | n, .binary _ l r, h => by
    rw [height] at h
    exact ⟨by omega, leftWithin_of_height r (by omega)⟩
  | _, .name _, _ => trivial
  | _, .number _, _ => trivial
  | _, .text _, _ => trivial
  | n, .list items, h => by
    rw [height] at h
    exact leftWithinAll_of_height items (by omega)

theorem leftWithinAll_of_height : ∀ {n : Nat} (items : List Expr), heightAll items ≤ n →
    LeftWithinAll n items
  | _, [], _ => trivial
  | n, first :: rest, h => by
    rw [heightAll, Nat.max_le] at h
    exact ⟨leftWithin_of_height first h.1, leftWithinAll_of_height rest h.2⟩

theorem leftWithinKeywords_of_height : ∀ {n : Nat} (keywords : List (String × Expr)),
    heightKeywords keywords ≤ n → LeftWithinKeywords n keywords
  | _, [], _ => trivial
  | n, (_, value) :: rest, h => by
    rw [heightKeywords, Nat.max_le] at h
    exact ⟨leftWithin_of_height value h.1, leftWithinKeywords_of_height rest h.2⟩

end

end Expr

namespace Grammar

theorem Operand.levels_pos {b : Nat} {s t : List Token} {e : Expr} (h : Operand b s t e) :
    0 < b := by
  cases h with
  | _ => exact Nat.succ_pos _

mutual

theorem Link.levels_pos {op : Operator} {b : Nat} {s t : List Token} {e : Expr} :
    Link op b s t e → 0 < b
  | .operand h => h.levels_pos
  | .term h => Nat.lt_of_lt_of_le h.levels_pos h.levels_le

theorem Chain.levels_pos {op : Operator} {b c : Nat} {s t : List Token} {e : Expr} :
    Chain op b c s t e → 0 < c
  | .first h => h.levels_pos
  | .next _ _ h => h.levels_pos

theorem Chain.levels_le {op : Operator} {b c : Nat} {s t : List Token} {e : Expr} :
    Chain op b c s t e → c ≤ b
  | .first _ => Nat.le_refl _
  | .next hchain _ _ => Nat.le_of_succ_le hchain.levels_le

end

mutual

/-- A path that goes into no left side takes a level for each of its nodes. -/
theorem Operand.height_le {b : Nat} {s t : List Token} {e : Expr} :
    Operand b s t e → ∀ n, b ≤ n → e.LeftWithin n → e.height ≤ n
  | .name _, n, hb, _ => by rw [Expr.height]; omega
  | .number, n, hb, _ => by rw [Expr.height]; omega
  | .text, n, hb, _ => by rw [Expr.height]; omega
  | .call hentries _, n, hb, hleft => by
    have hvalues := forall_callArguments.2
      ⟨Expr.leftWithinAll_iff.1 hleft.1, Expr.leftWithinKeywords_iff.1 hleft.2⟩
    have hheights := hentries.height_le (n - 1) (by omega) hvalues
    rw [← Expr.height_callArguments_le_iff] at hheights
    rw [Expr.height]
    omega
  | .list hentries, n, hb, hleft => by
    have hvalues := forall_items.2 (Expr.leftWithinAll_iff.1 hleft)
    have hheights := hentries.height_le (n - 1) (by omega) hvalues
    rw [forall_items (P := (·.height ≤ n - 1)), ← Expr.heightAll_le_iff] at hheights
    rw [Expr.height]
    omega
  | .group h, n, hb, hleft => h.height_le n (by omega) hleft

theorem Link.height_le {op : Operator} {b : Nat} {s t : List Token} {e : Expr} :
    Link op b s t e → ∀ n, b ≤ n → e.LeftWithin n → e.height ≤ n
  | .operand h, n, hb, hleft => h.height_le n hb hleft
  | .term h, n, hb, hleft => h.height_le n hb hleft

theorem Chain.height_le {op : Operator} {b c : Nat} {s t : List Token} {e : Expr} :
    Chain op b c s t e → ∀ n, b ≤ n → e.LeftWithin n → e.height ≤ n
  | .first h, n, hb, hleft => h.height_le n hb hleft
  | .next hchain _ hright, n, hb, hleft => by
    -- the left side is within the bound by assumption, and the right side has lost a level
    have hlevels := hchain.levels_le
    have hheight := hright.height_le (n - 1) (by omega) hleft.2
    have hless := hleft.1
    rw [Expr.height]
    omega

theorem Entry.height_le {k : Bracket} {b : Nat} {s t : List Token} {a : Argument} :
    Entry k b s t a → ∀ n, b ≤ n → a.value.LeftWithin n → a.value.height ≤ n
  | .item h, n, hb, hleft => h.height_le n hb hleft
  | .positional _ h, n, hb, hleft => h.height_le n hb hleft
  | .keyword h, n, hb, hleft => h.height_le n hb hleft

theorem Entries.height_le {k : Bracket} {b : Nat} {s t : List Token} {entries : List Argument} :
    Entries k b s t entries → ∀ n, b ≤ n → (∀ a ∈ entries, a.value.LeftWithin n) →
      ∀ a ∈ entries, a.value.height ≤ n
  | .close, _, _, _ => nofun
  | .last h, n, hb, hleft => by
    have hheight := h.height_le n hb (hleft _ List.mem_cons_self)
    intro x hx
    rw [List.mem_singleton.1 hx]
    exact hheight
  | .more h hothers, n, hb, hleft => by
    obtain ⟨hfirst, hrest⟩ := List.forall_mem_cons.1 hleft
    exact List.forall_mem_cons.2 ⟨h.height_le n hb hfirst, hothers.height_le n hb hrest⟩

end

end Grammar

/-! ## The greatest height -/

/-- The greatest height of an operand that begins with `b` levels. -/
def operandHeight : Nat → Nat
  | 0 => 0
  | b + 1 => b * b + 1

/-- The greatest height of what an operator joins and that begins with `b` levels. -/
def linkHeight (op : Operator) (b : Nat) : Nat :=
  match op with
  | .dilute => operandHeight b
  | .compose => operandHeight b + (b - 1)

theorem operandHeight_mono {a b : Nat} (h : a ≤ b) : operandHeight a ≤ operandHeight b := by
  cases a with
  | zero => exact Nat.zero_le _
  | succ a =>
    obtain ⟨d, rfl⟩ := Nat.exists_eq_add_of_le h
    have hmul := Nat.mul_le_mul (Nat.le_add_right a d) (Nat.le_add_right a d)
    rw [Nat.add_right_comm]
    exact Nat.succ_le_succ hmul

theorem linkHeight_mono (op : Operator) {a b : Nat} (h : a ≤ b) :
    linkHeight op a ≤ linkHeight op b := by
  have hmono := operandHeight_mono h
  cases op with
  | compose => exact Nat.add_le_add hmono (Nat.sub_le_sub_right h 1)
  | dilute => exact hmono

/-- A chain of `+` adds at most as many operators to its first link as levels are left. -/
theorem linkHeight_compose {b c : Nat} (hc : 0 < c) (hb : c ≤ b) :
    linkHeight .compose b + (b - c) ≤ b * b := by
  obtain ⟨n, rfl⟩ : ∃ n, b = n + 1 := ⟨b - 1, by omega⟩
  have hsquare : (n + 1) * (n + 1) = n * n + 1 + n + n := by
    rw [Nat.add_mul, Nat.mul_add]
    omega
  simp only [linkHeight, operandHeight, hsquare]
  omega

namespace Grammar

mutual

theorem Operand.height_le_square {b : Nat} {s t : List Token} {e : Expr} :
    Operand b s t e → e.height ≤ operandHeight b
  | .name _ => Nat.le_add_left 1 _
  | .number => Nat.le_add_left 1 _
  | .text => Nat.le_add_left 1 _
  | .call hentries _ =>
    Nat.succ_le_succ (Expr.height_callArguments_le_iff.2 hentries.height_le_square)
  | .list hentries => by
    have hheights := hentries.height_le_square
    rw [forall_items (P := (·.height ≤ _)), ← Expr.heightAll_le_iff] at hheights
    exact Nat.succ_le_succ hheights
  | .group h =>
    Nat.le_succ_of_le (Nat.le_trans h.height_le_square
      (linkHeight_compose h.levels_pos h.levels_le))

theorem Link.height_le_square {op : Operator} {b : Nat} {s t : List Token} {e : Expr} :
    Link op b s t e → e.height ≤ linkHeight op b
  | .operand h => h.height_le_square
  | .term h => by
    have hheight := h.height_le_square
    have hpos := h.levels_pos
    refine Nat.le_trans hheight ?_
    show operandHeight _ + _ ≤ operandHeight _ + _
    omega

/-- A chain that begins with `b` levels has as many operators as it takes levels. -/
theorem Chain.height_le_square {op : Operator} {b c : Nat} {s t : List Token} {e : Expr} :
    Chain op b c s t e → e.height ≤ linkHeight op b + (b - c)
  | .first h => Nat.le_add_right_of_le h.height_le_square
  | .next hchain _ hright => by
    -- the operator is one node more, and the left side has taken one level fewer
    have hlevels := hchain.levels_le
    have hleft := hchain.height_le_square
    have hlink := Nat.le_trans hright.height_le_square
      (linkHeight_mono op (Nat.le_of_succ_le hlevels))
    rw [Expr.height]
    omega

theorem Entry.height_le_square {k : Bracket} {b : Nat} {s t : List Token} {a : Argument} :
    Entry k b s t a → a.value.height ≤ b * b
  | .item h => Nat.le_trans h.height_le_square (linkHeight_compose h.levels_pos h.levels_le)
  | .positional _ h =>
    Nat.le_trans h.height_le_square (linkHeight_compose h.levels_pos h.levels_le)
  | .keyword h => Nat.le_trans h.height_le_square (linkHeight_compose h.levels_pos h.levels_le)

theorem Entries.height_le_square {k : Bracket} {b : Nat} {s t : List Token}
    {entries : List Argument} : Entries k b s t entries → ∀ a ∈ entries, a.value.height ≤ b * b
  | .close => nofun
  | .last h => by
    have hheight := h.height_le_square
    intro x hx
    rw [List.mem_singleton.1 hx]
    exact hheight
  | .more h hothers => List.forall_mem_cons.2 ⟨h.height_le_square, hothers.height_le_square⟩

end

theorem Program.exists_chain {s : List Token} {program : List Expr} (h : Program s program) :
    ∀ e ∈ program, ∃ c s t, Chain .compose maxNesting c s t e := by
  induction h with
  | blank _ => exact nofun
  | last _ hchain =>
    intro e he
    rw [List.mem_singleton.1 he]
    exact ⟨_, _, _, hchain⟩
  | more _ hchain _ ih => exact List.forall_mem_cons.2 ⟨⟨_, _, _, hchain⟩, ih⟩

end Grammar

/-! ## Accepted trees -/

namespace Expr

theorem height_pos (e : Expr) : 0 < e.height := by
  cases e with
  | name _ => exact Nat.one_pos
  | number _ => exact Nat.one_pos
  | text _ => exact Nat.one_pos
  | _ => exact Nat.succ_pos _

theorem height_extend (op : Operator) (n : Nat) (e : Expr) :
    (e.extend op n).height = e.height + n := by
  induction n generalizing e with
  | zero => rfl
  | succ n ih =>
    have hpos := e.height_pos
    rw [extend, ih, height, height]
    omega

end Expr

/-- An accepted tree is higher than `maxNesting` exactly if a path with more nodes goes into the
left side of an operator. The square of `maxNesting` is never exceeded. -/
theorem height_of_parse {source : String} {program : List Expr} (h : parse source = .ok program) :
    ((∀ e ∈ program, e.height ≤ maxNesting) ↔ ∀ e ∈ program, e.LeftWithin maxNesting) ∧
      ∀ e ∈ program, e.height ≤ maxNesting * maxNesting := by
  obtain ⟨ts, -, hprogram⟩ := parse_eq_ok_iff.1 h
  have hchains := hprogram.exists_chain
  refine ⟨⟨fun hall e he => e.leftWithin_of_height (hall e he), fun hall e he => ?_⟩, ?_⟩
  · obtain ⟨c, s, t, hchain⟩ := hchains e he
    exact hchain.height_le maxNesting (Nat.le_refl _) (hall e he)
  · intro e he
    obtain ⟨c, s, t, hchain⟩ := hchains e he
    exact Nat.le_trans hchain.height_le_square
      (linkHeight_compose hchain.levels_pos hchain.levels_le)

/-- The tree of a source with a short chain is not higher. -/
theorem height_of_parse_chain :
    ∃ program, parse "x / x + x" = .ok program ∧ ∀ e ∈ program, e.height ≤ maxNesting := by
  obtain ⟨hparse, -, -⟩ := parse_chain
  refine ⟨_, hparse, (height_of_parse hparse).1.2 ?_⟩
  intro e he
  rw [List.mem_singleton.1 he]
  exact ⟨by decide, trivial⟩

/-- A chain of `/` and a chain of `+` behind it are accepted together, though their tree has 257
levels. -/
theorem chains_higher_than_maxNesting :
    ∃ program, parse (extendText .compose 128 (extendText .dilute 128 "x")) = .ok program ∧
      ¬∀ e ∈ program, e.height ≤ maxNesting := by
  have hreadable := (Expr.readable_x.extend .dilute 128).extend .compose 128
  have hcost := @Expr.cost_chains_le 127 maxNesting (.name "x") (by decide) (by decide) (by decide)
  have hparse := hreadable.parse hcost
  have hop : Operator.compose.precedence ≤ ((Expr.name "x").extend .dilute 128).precedence := by
    rw [Expr.precedence_extend]
    decide
  have hprint : printProgram [((Expr.name "x").extend .dilute 128).extend .compose 128] =
      extendText .compose 128 (extendText .dilute 128 "x") := by
    rw [printProgram, List.map_singleton, String.intercalate_singleton, Expr.print_extend hop,
      Expr.print_extend (by decide)]
    rfl
  rw [hprint] at hparse
  refine ⟨_, hparse, fun hall => ?_⟩
  have hheight := hall _ List.mem_cons_self
  rw [Expr.height_extend, Expr.height_extend] at hheight
  exact absurd hheight (by decide)

/-! ## The highest trees -/

namespace Expr

/-- A list with two long chains behind it, and a tree of the same kind in the list. -/
def tallest : Nat → Expr
  | 0 => .name "x"
  | n + 1 => ((list [tallest n]).extend .dilute (n + 1)).extend .compose (n + 1)

theorem Readable.list {e : Expr} (h : e.Readable) : (list [e]).Readable := by
  have hatoms : (Expr.list [e]).atoms = e.atoms := List.append_nil _
  rw [Readable, hatoms]
  exact ⟨h.1, ⟨h.2.1, trivial⟩, h.2.2⟩

theorem readable_tallest (n : Nat) : (tallest n).Readable := by
  induction n with
  | zero => exact readable_x
  | succ n ih => exact (ih.list.extend .dilute _).extend .compose _

theorem height_tallest (n : Nat) : (tallest n).height = (n + 1) * (n + 1) := by
  induction n with
  | zero => rfl
  | succ n ih =>
    have hsquare : (n + 1 + 1) * (n + 1 + 1) = (n + 1) * (n + 1) + 1 + (n + 1) + (n + 1) := by
      rw [Nat.add_mul (n + 1) 1, Nat.mul_add (n + 1) (n + 1) 1]
      omega
    rw [tallest, height_extend, height_extend, height, heightAll, heightAll, ih, hsquare]
    omega

theorem cost_tallest_le (n : Nat) : (tallest n).cost ≤ n + 1 := by
  induction n with
  | zero => exact Nat.le_refl 1
  | succ n ih =>
    have hlist : (list [tallest n]).cost ≤ n + 1 + 1 := by
      rw [cost, costAll, costAll]
      omega
    exact cost_chains_le (Nat.le_refl 3) hlist (Nat.lt_succ_self (n + 1))

end Expr

/-- The square of `maxNesting` is the height of an accepted tree. -/
theorem exists_height_eq_square :
    ∃ source e, parse source = .ok [e] ∧ e.height = maxNesting * maxNesting :=
  ⟨_, Expr.tallest 255, (Expr.readable_tallest 255).parse (Expr.cost_tallest_le 255),
    Expr.height_tallest 255⟩

end Storyweave.Language
