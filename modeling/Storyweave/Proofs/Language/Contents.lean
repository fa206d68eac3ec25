import Mathlib.Data.List.Forall2
import Storyweave.Proofs.Language.Grammar
import Storyweave.Proofs.Number.Double

/-!
# What an expression is made of

The words, numbers and texts of an expression stand in its source in the same order, and so they
can be read off the tokens. Results:
1. `Program.contents`: the atoms of a program are those of its tokens, and in each of its calls
   no key occurs twice.
2. `agrees_atoms`, `agrees_keysDistinct`: expressions that agree have the same atoms, numbers by
   value, and the same keys.
-/

namespace Storyweave.Language

/-- Whether a token is a word, a number or a text. -/
def Token.isAtom : Token → Bool
  | .word _ | .number _ | .text _ => true
  | _ => false

/-- Whether two atoms are the same, numbers compared by value. -/
def Token.Agrees : Token → Token → Prop
  | .word a, .word b => a = b
  | .number x, .number y => (x == y) = true
  | .text a, .text b => a = b
  | _, _ => False

/-- The words, numbers and texts among some tokens. -/
def atomsOf (ts : List Token) : List Token := ts.filter Token.isAtom

theorem atomsOf_append (s t : List Token) : atomsOf (s ++ t) = atomsOf s ++ atomsOf t :=
  List.filter_append s t

/-- Every number of some atoms is finite. -/
def NumbersFinite (atoms : List Token) : Prop := ∀ x, .number x ∈ atoms → x.isFinite = true

theorem NumbersFinite.left {s t : List Token} (h : NumbersFinite (s ++ t)) : NumbersFinite s :=
  fun x hx => h x (List.mem_append_left t hx)

theorem NumbersFinite.right {s t : List Token} (h : NumbersFinite (s ++ t)) : NumbersFinite t :=
  fun x hx => h x (List.mem_append_right s hx)

theorem NumbersFinite.tail {x : Token} {t : List Token} (h : NumbersFinite (x :: t)) :
    NumbersFinite t :=
  fun y hy => h y (List.mem_cons_of_mem x hy)

namespace Expr

mutual

/-- The words, numbers and texts of an expression in the order in which they are written. The
words are names, kernels and keys. -/
def atoms : Expr → List Token
  | .call kernel positional keywords =>
    .word kernel :: (atomsAll positional ++ atomsKeywords keywords)
  | .binary _ left right => atoms left ++ atoms right
  | .name word => [.word word]
  | .number value => [.number value]
  | .text value => [.text value]
  | .list items => atomsAll items

/-- The atoms of some expressions. -/
def atomsAll : List Expr → List Token
  | [] => []
  | first :: rest => atoms first ++ atomsAll rest

/-- The atoms of some keyword arguments. -/
def atomsKeywords : List (String × Expr) → List Token
  | [] => []
  | (key, value) :: rest => .word key :: (atoms value ++ atomsKeywords rest)

end

mutual

/-- In each call of an expression no key occurs twice. -/
def KeysDistinct : Expr → Prop
  | .call _ positional keywords =>
    (keywords.map Prod.fst).Nodup ∧ KeysDistinctAll positional ∧ KeysDistinctKeywords keywords
  | .binary _ left right => KeysDistinct left ∧ KeysDistinct right
  | .name _ => True
  | .number _ => True
  | .text _ => True
  | .list items => KeysDistinctAll items

/-- The same in each of some expressions. -/
def KeysDistinctAll : List Expr → Prop
  | [] => True
  | first :: rest => KeysDistinct first ∧ KeysDistinctAll rest

/-- The same in the values of some keyword arguments. -/
def KeysDistinctKeywords : List (String × Expr) → Prop
  | [] => True
  | (_, value) :: rest => KeysDistinct value ∧ KeysDistinctKeywords rest

end

/-! ## Expressions that agree -/

mutual

theorem agrees_atoms : ∀ {e f : Expr}, e.agrees f = true → List.Forall₂ Token.Agrees e.atoms f.atoms
  | .call _ p w, .call _ p' w', h => by
    simp only [agrees, Bool.and_eq_true, beq_iff_eq] at h
    exact .cons h.1.1 (List.rel_append (allAgree_atoms h.1.2) (keywordsAgree_atoms h.2))
  | .binary _ l r, .binary _ l' r', h => by
    simp only [agrees, Bool.and_eq_true] at h
    exact List.rel_append (agrees_atoms h.1.2) (agrees_atoms h.2)
  | .name a, .name b, h => by
    simp only [agrees, beq_iff_eq] at h
    exact .cons h .nil
  | .number x, .number y, h => .cons h .nil
  | .text a, .text b, h => by
    simp only [agrees, beq_iff_eq] at h
    exact .cons h .nil
  | .list xs, .list ys, h => allAgree_atoms h

theorem allAgree_atoms : ∀ {xs ys : List Expr}, allAgree xs ys = true →
    List.Forall₂ Token.Agrees (atomsAll xs) (atomsAll ys)
  | [], [], _ => .nil
  | x :: xs, y :: ys, h => by
    simp only [allAgree, Bool.and_eq_true] at h
    exact List.rel_append (agrees_atoms h.1) (allAgree_atoms h.2)

theorem keywordsAgree_atoms : ∀ {xs ys : List (String × Expr)}, keywordsAgree xs ys = true →
    List.Forall₂ Token.Agrees (atomsKeywords xs) (atomsKeywords ys)
  | [], [], _ => .nil
  | (j, x) :: xs, (k, y) :: ys, h => by
    simp only [keywordsAgree, Bool.and_eq_true, beq_iff_eq] at h
    exact .cons h.1.1 (List.rel_append (agrees_atoms h.1.2) (keywordsAgree_atoms h.2))

end

theorem keywordsAgree_keys : ∀ {xs ys : List (String × Expr)}, keywordsAgree xs ys = true →
    xs.map Prod.fst = ys.map Prod.fst
  | [], [], _ => rfl
  | (j, x) :: xs, (k, y) :: ys, h => by
    simp only [keywordsAgree, Bool.and_eq_true, beq_iff_eq] at h
    rw [List.map_cons, List.map_cons, h.1.1, keywordsAgree_keys h.2]

mutual

theorem agrees_keysDistinct : ∀ {e f : Expr}, e.agrees f = true → e.KeysDistinct → f.KeysDistinct
  | .call _ p w, .call _ p' w', h, hkeys => by
    simp only [agrees, Bool.and_eq_true, beq_iff_eq] at h
    refine ⟨?_, allAgree_keysDistinct h.1.2 hkeys.2.1, keywordsAgree_keysDistinct h.2 hkeys.2.2⟩
    rw [← keywordsAgree_keys h.2]
    exact hkeys.1
  | .binary _ l r, .binary _ l' r', h, hkeys => by
    simp only [agrees, Bool.and_eq_true] at h
    exact ⟨agrees_keysDistinct h.1.2 hkeys.1, agrees_keysDistinct h.2 hkeys.2⟩
  | .name _, .name _, _, _ => trivial
  | .number _, .number _, _, _ => trivial
  | .text _, .text _, _, _ => trivial
  | .list xs, .list ys, h, hkeys => allAgree_keysDistinct h hkeys

theorem allAgree_keysDistinct : ∀ {xs ys : List Expr}, allAgree xs ys = true →
    KeysDistinctAll xs → KeysDistinctAll ys
  | [], [], _, _ => trivial
  | x :: xs, y :: ys, h, hkeys => by
    simp only [allAgree, Bool.and_eq_true] at h
    exact ⟨agrees_keysDistinct h.1 hkeys.1, allAgree_keysDistinct h.2 hkeys.2⟩

theorem keywordsAgree_keysDistinct : ∀ {xs ys : List (String × Expr)},
    keywordsAgree xs ys = true → KeysDistinctKeywords xs → KeysDistinctKeywords ys
  | [], [], _, _ => trivial
  | (j, x) :: xs, (k, y) :: ys, h, hkeys => by
    simp only [keywordsAgree, Bool.and_eq_true] at h
    exact ⟨agrees_keysDistinct h.1.2 hkeys.1, keywordsAgree_keysDistinct h.2 hkeys.2⟩

end

/-! ## Finite numbers -/

mutual

/-- An expression agrees with itself if its numbers are finite. -/
theorem agrees_self : ∀ e : Expr, NumbersFinite e.atoms → e.agrees e = true
  | .call _ p w, h => by
    have hp := allAgree_self p h.tail.left
    have hw := keywordsAgree_self w h.tail.right
    simp [agrees, hp, hw]
  | .binary _ l r, h => by
    have hl := agrees_self l h.left
    have hr := agrees_self r h.right
    simp [agrees, hl, hr]
  | .name _, _ => by simp [agrees]
  | .number x, h => Number.beq_self_of_isFinite (h x List.mem_cons_self)
  | .text _, _ => by simp [agrees]
  | .list xs, h => allAgree_self xs h

theorem allAgree_self : ∀ xs : List Expr, NumbersFinite (atomsAll xs) → allAgree xs xs = true
  | [], _ => rfl
  | x :: xs, h => by
    have hx := agrees_self x h.left
    have hxs := allAgree_self xs h.right
    simp [allAgree, hx, hxs]

theorem keywordsAgree_self : ∀ xs : List (String × Expr), NumbersFinite (atomsKeywords xs) →
    keywordsAgree xs xs = true
  | [], _ => rfl
  | (_, x) :: xs, h => by
    have hx := agrees_self x h.tail.left
    have hxs := keywordsAgree_self xs h.tail.right
    simp [keywordsAgree, hx, hxs]

end

end Expr

/-! ## Phrases -/

/-- The expression of an argument. -/
def Argument.value : Argument → Expr
  | .positional value => value
  | .keyword _ value => value

theorem forall_callArguments {P : Expr → Prop} {positional : List Expr}
    {keywords : List (String × Expr)} :
    (∀ a ∈ callArguments positional keywords, P a.value) ↔
      (∀ item ∈ positional, P item) ∧ ∀ k ∈ keywords, P k.2 := by
  simp only [callArguments, List.forall_mem_append, List.forall_mem_map, Argument.value]

theorem forall_items {P : Expr → Prop} {items : List Expr} :
    (∀ a ∈ items.map Argument.positional, P a.value) ↔ ∀ item ∈ items, P item :=
  List.forall_mem_map

/-- The atoms of an argument, with its key. -/
def Argument.atoms : Argument → List Token
  | .positional value => value.atoms
  | .keyword key value => .word key :: value.atoms

namespace Expr

theorem atomsAll_eq (items : List Expr) :
    atomsAll items = (items.map Argument.positional).flatMap Argument.atoms := by
  induction items with
  | nil => rfl
  | cons item rest ih => simp [atomsAll, Argument.atoms, ih]

theorem atomsKeywords_eq (keywords : List (String × Expr)) :
    atomsKeywords keywords =
      (keywords.map fun k => Argument.keyword k.1 k.2).flatMap Argument.atoms := by
  induction keywords with
  | nil => rfl
  | cons k rest ih => simp [atomsKeywords, Argument.atoms, ih]

theorem atoms_call (kernel : String) (positional : List Expr) (keywords : List (String × Expr)) :
    (call kernel positional keywords).atoms =
      .word kernel :: (callArguments positional keywords).flatMap Argument.atoms := by
  rw [atoms, atomsAll_eq, atomsKeywords_eq, callArguments, List.flatMap_append]

theorem keysDistinctAll_iff {items : List Expr} :
    KeysDistinctAll items ↔ ∀ item ∈ items, item.KeysDistinct := by
  induction items with
  | nil => simp [KeysDistinctAll]
  | cons item rest ih => simp [KeysDistinctAll, ih]

theorem keysDistinctKeywords_iff {keywords : List (String × Expr)} :
    KeysDistinctKeywords keywords ↔ ∀ k ∈ keywords, k.2.KeysDistinct := by
  induction keywords with
  | nil => simp [KeysDistinctKeywords]
  | cons k rest ih => simp [KeysDistinctKeywords, ih]

end Expr

namespace Grammar

theorem LineBreaks.atoms_eq {s t : List Token} (h : LineBreaks s t) : atomsOf s = atomsOf t := by
  induction h with
  | done => rfl
  | skip _ ih => exact ih

mutual

theorem Operand.contents {b : Nat} {s t : List Token} {e : Expr} :
    Operand b s t e → atomsOf s = e.atoms ++ atomsOf t ∧ e.KeysDistinct
  | .name _ => ⟨rfl, trivial⟩
  | .number => ⟨rfl, trivial⟩
  | .text => ⟨rfl, trivial⟩
  | .call hentries hnodup => by
    obtain ⟨hatoms, hkeys⟩ := hentries.contents
    obtain ⟨hpositional, hkeywords⟩ := forall_callArguments.1 hkeys
    refine ⟨?_, hnodup, Expr.keysDistinctAll_iff.2 hpositional,
      Expr.keysDistinctKeywords_iff.2 hkeywords⟩
    rw [Expr.atoms_call]
    exact congrArg (Token.word _ :: ·) hatoms
  | .list hentries => by
    obtain ⟨hatoms, hkeys⟩ := hentries.contents
    refine ⟨?_, Expr.keysDistinctAll_iff.2 (forall_items.1 hkeys)⟩
    rw [Expr.atoms, Expr.atomsAll_eq]
    exact hatoms
  | .group h => h.contents

theorem Link.contents {op : Operator} {b : Nat} {s t : List Token} {e : Expr} :
    Link op b s t e → atomsOf s = e.atoms ++ atomsOf t ∧ e.KeysDistinct
  | .operand h => h.contents
  | .term h => h.contents

theorem Chain.contents {op : Operator} {b c : Nat} {s t : List Token} {e : Expr} :
    Chain op b c s t e → atomsOf s = e.atoms ++ atomsOf t ∧ e.KeysDistinct
  | .first h => h.contents
  | .next hleft hbreaks hright => by
    obtain ⟨hatoms, hkeys⟩ := hleft.contents
    obtain ⟨hatoms', hkeys'⟩ := hright.contents
    refine ⟨?_, hkeys, hkeys'⟩
    rw [hatoms, Expr.atoms, List.append_assoc, ← hatoms', ← hbreaks.atoms_eq]
    rfl

theorem Entry.contents {k : Bracket} {b : Nat} {s t : List Token} {a : Argument} :
    Entry k b s t a → atomsOf s = a.atoms ++ atomsOf t ∧ a.value.KeysDistinct
  | .item h => h.contents
  | .positional _ h => h.contents
  | .keyword h => ⟨congrArg (Token.word _ :: ·) h.contents.1, h.contents.2⟩

theorem Entries.contents {k : Bracket} {b : Nat} {s t : List Token} {entries : List Argument} :
    Entries k b s t entries → atomsOf s = entries.flatMap Argument.atoms ++ atomsOf t ∧
      ∀ a ∈ entries, a.value.KeysDistinct
  | .close => ⟨rfl, nofun⟩
  | .last h => by
    obtain ⟨hatoms, hkeys⟩ := h.contents
    refine ⟨?_, by simpa using hkeys⟩
    rw [hatoms, List.flatMap_singleton]
    rfl
  | .more h hothers => by
    obtain ⟨hatoms, hkeys⟩ := h.contents
    obtain ⟨hatoms', hkeys'⟩ := hothers.contents
    refine ⟨?_, List.forall_mem_cons.2 ⟨hkeys, hkeys'⟩⟩
    rw [hatoms, List.flatMap_cons, List.append_assoc, ← hatoms']
    rfl

end

theorem Program.contents {s : List Token} {program : List Expr} (h : Program s program) :
    atomsOf s = Expr.atomsAll program ∧ Expr.KeysDistinctAll program := by
  induction h with
  | blank hbreaks => exact ⟨hbreaks.atoms_eq, trivial⟩
  | last hbreaks hchain =>
    obtain ⟨hatoms, hkeys⟩ := hchain.contents
    refine ⟨?_, hkeys, trivial⟩
    rw [hbreaks.atoms_eq, hatoms]
    rfl
  | more hbreaks hchain _ ih =>
    obtain ⟨hatoms, hkeys⟩ := hchain.contents
    refine ⟨?_, hkeys, ih.2⟩
    rw [hbreaks.atoms_eq, hatoms, Expr.atomsAll, ← ih.1]
    rfl

end Grammar

end Storyweave.Language
