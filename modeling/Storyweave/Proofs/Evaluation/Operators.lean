import Storyweave.Proofs.Evaluation.Identity
import Storyweave.Proofs.Story.Operands
import Storyweave.Starter.Pack

/-!
# Laws of the operators

An operand is turned into fragments only after the operands behind it were evaluated, and these
may declare characters, introduce them and let effects take place. Results:
1. `toParts_of_onward`: whatever happens behind an evaluation, its value comes to the same
   fragments.
2. `compose_assoc`: composition is associative, failures and the state behind it included.
3. `dilute_compose`: dilution distributes over composition.
-/

namespace Storyweave.Evaluation

open Storyweave.Story Storyweave.Kernel Storyweave.Language

/-! ## States of an evaluator -/

/-- A state that can be reached by telling statements and evaluating expressions, also after some
of these failed. In between the story may be changed from outside as long as no character is
lost. -/
inductive Environment.Reachable (env : Environment) : Run → Prop where
  | start (seed : UInt64) (clamp : Clamp) : Reachable env (.start (.start seed clamp))
  | outside {run : Run} {n : Narrative} :
      Reachable env run → run.Onward { run with narrative := n } →
      Reachable env { run with narrative := n }
  | evaluate {run : Run} {room : Nat} (e : Expr) :
      Reachable env run → room ≤ env.limits.depth →
      Reachable env ((env.evaluate room e).outcome run).2
  | tell {run : Run} (statements : List Expr) :
      Reachable env run → Reachable env ((env.tell statements).outcome run).2

theorem Environment.Reachable.identified {env : Environment} {run : Run} (h : env.Reachable run) :
    run.narrative.Identified := by
  induction h with
  | start seed clamp => exact Narrative.identified_start seed clamp
  | outside _ honward ih => exact honward.identified ih
  | evaluate e _ hroom ih => exact (evaluate_continues e hroom _).identified ih
  | tell statements _ ih => exact (tell_continues statements _).identified ih

/-- What is known keeps its name. -/
theorem Run.Onward.sameNames {run later : Run} (h : run.Onward later) {ids : List CharacterId}
    (hknows : Knows run ids) : Value.SameNames run.cast later.cast ids := by
  intro id hid
  obtain ⟨c, hc⟩ := Option.isSome_iff_exists.1 (hknows id hid)
  obtain ⟨d, hd, hidentity⟩ := Narrative.exists_character_of_prefix h.identities hc
  have hbefore : run.cast[id]? = some c := hc
  have hafter : later.cast[id]? = some d := hd
  rw [hbefore, hafter, Option.map_some, Option.map_some, Character.name_eq_of_identity hidentity]

/-! ## Diluted values -/

/-- The fragments of a diluted value are those of the value, each diluted, but for blank ones. -/
theorem shown_dilute (cast : List Character) (value : Value) (d : Float) :
    shown (dilute cast value d).generated = (shown (value.toParts cast)).map (·.diluted d) := by
  unfold dilute
  rw [← shown_diluted]
  split
  case h_1 only honly => rw [honly]; rfl
  case h_2 => rw [Value.generated, Composition.parts_join, List.append_nil, shown_shown]

theorem generated_dilute_composition (cast : List Character) (c : Composition) (d : Float) :
    (dilute cast (.composition c) d).generated = c.parts.map (·.diluted d) := by
  unfold dilute
  split
  case h_1 only honly => exact honly.symm
  case h_2 =>
    rw [Value.generated, Composition.parts_join, List.append_nil, Value.toParts_composition,
      shown_diluted, Composition.shown_parts]

namespace Environment

variable {env : Environment} {room : Nat} {run later : Run}

/-- Whatever happens behind an evaluation, its value comes to the same fragments. -/
theorem toParts_of_onward {e : Expr} {value : Value} {between : Run}
    (hroom : room ≤ env.limits.depth) (hrun : run.narrative.Identified)
    (h : (env.evaluate room e).outcome run = (.ok value, between))
    (honward : between.Onward later) :
    value.toParts later.cast = value.toParts between.cast :=
  Value.toParts_eq (honward.sameNames (evaluate_knows e hroom hrun h))

/-! ## Composition -/

/-- Composition is associative: the value or the failure is the same, and so is the state behind
it. -/
theorem compose_assoc (env : Environment) {run : Run} (hrun : env.Reachable run) {room : Nat}
    (hroom : room ≤ env.limits.depth) (a b c : Expr) :
    (env.evaluate room (.binary .compose a (.binary .compose b c))).outcome run =
      (env.evaluate room (.binary .compose (.binary .compose a b) c)).outcome run := by
  simp only [outcome_compose]
  rcases ha : (env.evaluate room a).outcome run with ⟨error | first, afterA⟩
  · rfl
  dsimp only
  rcases hb : (env.evaluate room b).outcome afterA with ⟨error | second, afterB⟩
  · rfl
  dsimp only
  rcases hc : (env.evaluate room c).outcome afterB with ⟨error | third, afterC⟩
  · rfl
  dsimp only
  have hidentified := hrun.identified
  have hidentified' := ((evaluate_continues a hroom).of_outcome ha).identified hidentified
  have honwardB := (evaluate_continues b hroom).of_outcome hb
  have honwardC := (evaluate_continues c hroom).of_outcome hc
  -- one grouping turns the first two operands into fragments before `c` was evaluated
  have hfirst : first.toParts afterC.cast = first.toParts afterB.cast :=
    (toParts_of_onward hroom hidentified ha (honwardB.trans honwardC)).trans
      (toParts_of_onward hroom hidentified ha honwardB).symm
  have hsecond : second.toParts afterC.cast = second.toParts afterB.cast :=
    toParts_of_onward hroom hidentified' hb honwardC
  rw [hfirst, hsecond, Value.toParts_composition, Value.toParts_composition,
    Composition.join_assoc]

/-- An operand may be a bare name that the next operand declares and introduces. -/
theorem compose_assoc_declared_behind :
    let env : Environment := ⟨Starter.registry, Starter.templates, .standard⟩
    let run : Run := ((env.tell [.call "Sue" [.name characterMarker] []]).outcome
      (.start (.start 7 .unbounded))).2
    let a : Expr := .list [.name "Sue", .name "Tim"]
    let b : Expr := .call "Friendship" [.call "Tim" [.name characterMarker] []] []
    let c : Expr := .name "Tim"
    env.Reachable run ∧ 64 ≤ env.limits.depth ∧
    (env.evaluate 64 (.binary .compose a (.binary .compose b c))).outcome run =
      (env.evaluate 64 (.binary .compose (.binary .compose a b) c)).outcome run :=
  ⟨.tell _ (.start 7 .unbounded), Nat.le_refl _,
    compose_assoc _ (.tell _ (.start 7 .unbounded)) (Nat.le_refl _) _ _ _⟩

/-! ## Dilution -/

theorem outcome_dilute_number {d : Float} (hd : 0 < d) (room : Nat) (a : Expr) (run : Run) :
    (env.evaluate room (.binary .dilute a (.number d))).outcome run =
      match (env.evaluate room a).outcome run with
      | (.error error, later) => (.error error, later)
      | (.ok value, later) => (.ok (dilute later.cast value d), later) := by
  rw [outcome_dilute]
  rcases (env.evaluate room a).outcome run with ⟨error | value, later⟩
  · rfl
  have hdivisor : divisor (.number d) = .ok d := by simp [divisor, Value.asNumber, hd]
  have hliteral : (env.evaluate room (.number d)).outcome later = (.ok (.number d), later) := rfl
  simp only [hliteral, diluteBy, hdivisor]
  rfl

theorem diluteBy_eq {value other : Value} (h : ∀ cast, value.toParts cast = other.toParts cast)
    (head : Option String) (amount : Value) :
    diluteBy head value amount = diluteBy head other amount := by
  unfold diluteBy dilute
  simp only [h]

/-- Two outcomes of evaluations that serve alike as statements and as operands: the same failure,
or values that come to the same fragments, and the same state behind it. -/
inductive ServesAs : Except LimitError Value × Run → Except LimitError Value × Run → Prop where
  | failed (error : LimitError) (later : Run) : ServesAs (.error error, later) (.error error, later)
  | valued {value other : Value} (later : Run)
      (hparts : ∀ cast, value.toParts cast = other.toParts cast)
      (hgenerated : value.generated = other.generated) :
      ServesAs (.ok value, later) (.ok other, later)

namespace ServesAs

variable {e f : Expr}

theorem tell (h : ServesAs ((env.evaluateTop e).outcome run) ((env.evaluateTop f).outcome run))
    (rest : List Expr) :
    (env.tell (e :: rest)).outcome run = (env.tell (f :: rest)).outcome run := by
  rw [outcome_tell_cons, outcome_tell_cons]
  generalize (env.evaluateTop e).outcome run = left, (env.evaluateTop f).outcome run = right at h
  cases h with
  | failed error later => rfl
  | valued later hparts hgenerated => simp only [hgenerated]

theorem compose_left
    (h : ServesAs ((env.evaluate room e).outcome run) ((env.evaluate room f).outcome run))
    (c : Expr) : (env.evaluate room (.binary .compose e c)).outcome run =
      (env.evaluate room (.binary .compose f c)).outcome run := by
  rw [outcome_compose, outcome_compose]
  generalize (env.evaluate room e).outcome run = left,
    (env.evaluate room f).outcome run = right at h
  cases h with
  | failed error later => rfl
  | valued later hparts hgenerated => simp only [hparts]

theorem compose_right
    (h : ∀ run, env.Reachable run →
      ServesAs ((env.evaluate room e).outcome run) ((env.evaluate room f).outcome run))
    (hrun : env.Reachable run) (hroom : room ≤ env.limits.depth) (c : Expr) :
    (env.evaluate room (.binary .compose c e)).outcome run =
      (env.evaluate room (.binary .compose c f)).outcome run := by
  have hbetween := Reachable.evaluate c hrun hroom
  rw [outcome_compose, outcome_compose]
  rcases hc : (env.evaluate room c).outcome run with ⟨error | value, between⟩
  · rfl
  rw [hc] at hbetween
  have hserves := h between hbetween
  dsimp only
  generalize (env.evaluate room e).outcome between = left,
    (env.evaluate room f).outcome between = right at hserves
  cases hserves with
  | failed error later => rfl
  | valued later hparts hgenerated => simp only [hparts]

theorem dilute_left
    (h : ServesAs ((env.evaluate room e).outcome run) ((env.evaluate room f).outcome run))
    (hhead : e.headName = f.headName) (c : Expr) :
    (env.evaluate room (.binary .dilute e c)).outcome run =
      (env.evaluate room (.binary .dilute f c)).outcome run := by
  rw [outcome_dilute, outcome_dilute, hhead]
  generalize (env.evaluate room e).outcome run = left,
    (env.evaluate room f).outcome run = right at h
  cases h with
  | failed error later => rfl
  | valued later hparts hgenerated => simp only [diluteBy_eq hparts]

end ServesAs

/-- A diluted composition serves as the composition of what is diluted. -/
theorem dilute_compose_servesAs (hrun : env.Reachable run) (hroom : room ≤ env.limits.depth)
    (a b : Expr) {d : Float} (hd : 0 < d) :
    ServesAs
      ((env.evaluate room (.binary .dilute (.binary .compose a b) (.number d))).outcome run)
      ((env.evaluate room (.binary .compose (.binary .dilute a (.number d))
        (.binary .dilute b (.number d)))).outcome run) := by
  rw [outcome_dilute_number hd, outcome_compose, outcome_compose, outcome_dilute_number hd]
  rcases ha : (env.evaluate room a).outcome run with ⟨error | first, between⟩
  · exact .failed error between
  dsimp only
  rw [outcome_dilute_number hd]
  rcases hb : (env.evaluate room b).outcome between with ⟨error | second, later⟩
  · exact .failed error later
  dsimp only
  -- on one side `a` is turned into fragments before `b` was evaluated
  have hfirst : first.toParts later.cast = first.toParts between.cast :=
    toParts_of_onward hroom hrun.identified ha ((evaluate_continues b hroom).of_outcome hb)
  have hgenerated : (dilute later.cast
      (.composition (.join (first.toParts later.cast) (second.toParts later.cast))) d).generated =
      (Composition.join ((dilute between.cast first d).toParts later.cast)
        ((dilute later.cast second d).toParts later.cast)).parts := by
    rw [generated_dilute_composition, Composition.parts_join, Composition.parts_join,
      (generated_dilute _ _ _).toParts_eq, (generated_dilute _ _ _).toParts_eq, shown_append,
      shown_append, shown_dilute, shown_dilute, hfirst, List.map_append]
  refine .valued later (fun cast => ?_) hgenerated
  exact ((generated_dilute _ _ _).toParts_eq cast).trans hgenerated

/-- Dilution by a positive number distributes over composition: both sides tell the same, come to
the same fragments, and are the same as operands of another composition or dilution. -/
theorem dilute_compose (env : Environment) {run : Run} (hrun : env.Reachable run) (a b : Expr)
    {d : Float} (hd : 0 < d) :
    let whole : Expr := .binary .dilute (.binary .compose a b) (.number d)
    let split : Expr :=
      .binary .compose (.binary .dilute a (.number d)) (.binary .dilute b (.number d))
    (∀ rest, (env.tell (whole :: rest)).outcome run = (env.tell (split :: rest)).outcome run) ∧
    ∀ room, room ≤ env.limits.depth →
      ServesAs ((env.evaluate room whole).outcome run) ((env.evaluate room split).outcome run) ∧
      ∀ c,
        (env.evaluate room (.binary .compose whole c)).outcome run =
          (env.evaluate room (.binary .compose split c)).outcome run ∧
        (env.evaluate room (.binary .compose c whole)).outcome run =
          (env.evaluate room (.binary .compose c split)).outcome run ∧
        (env.evaluate room (.binary .dilute whole c)).outcome run =
          (env.evaluate room (.binary .dilute split c)).outcome run := by
  intro whole split
  have hserves {run : Run} (hrun : env.Reachable run) {room : Nat}
      (hroom : room ≤ env.limits.depth) :
      ServesAs ((env.evaluate room whole).outcome run) ((env.evaluate room split).outcome run) :=
    dilute_compose_servesAs hrun hroom a b hd
  refine ⟨fun rest => (hserves hrun (Nat.le_refl _)).tell rest, fun room hroom => ?_⟩
  refine ⟨hserves hrun hroom, fun c => ⟨?_, ?_, ?_⟩⟩
  · exact (hserves hrun hroom).compose_left c
  · exact ServesAs.compose_right (fun run hrun => hserves hrun hroom) hrun hroom c
  · exact (hserves hrun hroom).dilute_left rfl c

/-- A list counts as one fragment, on one side after the next operand has declared a character. -/
theorem dilute_compose_list_operand :
    let env : Environment := ⟨Starter.registry, Starter.templates, .standard⟩
    let run : Run := .start (.start 7 .unbounded)
    let a : Expr := .list [.name "Tim", .call "Rain" [] []]
    let b : Expr := .call "Friendship" [.call "Tim" [.name characterMarker] []] []
    env.Reachable run ∧ (0 : Float) < 2 ∧
    (env.tell [.binary .dilute (.binary .compose a b) (.number 2)]).outcome run =
      (env.tell [.binary .compose (.binary .dilute a (.number 2))
        (.binary .dilute b (.number 2))]).outcome run :=
  ⟨.start 7 .unbounded, by decide, (dilute_compose _ (.start 7 .unbounded) _ _ (by decide)).1 []⟩

end Environment

end Storyweave.Evaluation
