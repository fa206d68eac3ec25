import Storyweave.Proofs.Evaluation.History
import Storyweave.Proofs.Story.Operands

/-!
# Names and characters of an evaluation

A name leads to a character from its declaration on, and always to the same one. Results:
1. `Course.identified`, `Course.identities_prefix`: the characters and the catalogue of their names
   stay in step, and the characters only grow at their end.
2. `evaluate_continues`, `tell_continues`: no evaluation loses a character, also if a bound was
   crossed before.
3. `evaluate_refers`: whatever an expression evaluates to speaks of known characters only, however
   deep the declarations stand in it.
4. `names_keep_characters`: all of this for statements that are told.
-/

namespace Storyweave

open Storyweave.Story Storyweave.Kernel Storyweave.Language

namespace Evaluation

namespace Environment

variable {env : Environment} {m m' : Moment} {history : History}

theorem identified_next {event : Event} (h : env.Allowed m event)
    (hm : m.run.narrative.Identified) : (env.next m event).run.narrative.Identified := by
  have hturns := turns_next h
  generalize (env.next m event).run.narrative = n at hturns
  cases hturns with
  | aside _ hworld => exact hm.of_sameCast hworld.sameCast
  | declared name traits hnew => exact Narrative.identified_introduced hnew traits hm
  | settled => exact hm.of_sameCast (Narrative.sameCast_foldl_apply _ _)

theorem identities_next {event : Event} (h : env.Allowed m event) :
    m.run.narrative.identities <+: (env.next m event).run.narrative.identities := by
  have hturns := turns_next h
  generalize (env.next m event).run.narrative = n at hturns
  cases hturns with
  | aside _ hworld => exact hworld.identities_eq ▸ List.prefix_rfl
  | declared name traits _ =>
    rw [Narrative.identities_introduced]
    exact List.prefix_append _ _
  | settled => exact (Narrative.identities_foldl_apply _ _) ▸ List.prefix_rfl

namespace Course

theorem identified (h : env.Course m history m') (hm : m.run.narrative.Identified) :
    m'.run.narrative.Identified :=
  h.invariant (fun hallowed => identified_next hallowed) hm

/-- The characters only grow at their end, and nothing about them changes but their emotions. -/
theorem identities_prefix (h : env.Course m history m') :
    m.run.narrative.identities <+: m'.run.narrative.identities := by
  induction h with
  | done => exact List.prefix_rfl
  | step hallowed _ ih => exact (identities_next hallowed).trans ih

/-- A name leads to the same character for good. -/
theorem lookup_eq (h : env.Course m history m') (hm : m.run.narrative.Identified) {name : String}
    {id : CharacterId} (hlookup : m.run.narrative.lookup name = some id) :
    m'.run.narrative.lookup name = some id :=
  Narrative.lookup_of_prefix h.identities_prefix hm (h.identified hm) hlookup

end Course

/-! ## Going on -/

end Environment

/-- A state goes on from another: no character is lost, and names and ids stay in step. -/
structure Run.Onward (run later : Run) : Prop where
  identities : run.narrative.identities <+: later.narrative.identities
  identified : run.narrative.Identified → later.narrative.Identified

/-- Whether a story knows some characters. -/
def Knows (run : Run) (ids : List CharacterId) : Prop :=
  ∀ id ∈ ids, (run.narrative.character id).isSome

namespace Run.Onward

variable {run later last : Run}

theorem of_sameCast (h : run.narrative.SameCast later.narrative) : run.Onward later :=
  ⟨h.identities ▸ List.prefix_rfl, fun hrun => hrun.of_sameCast h⟩

theorem refl (run : Run) : run.Onward run := .of_sameCast ⟨rfl, rfl⟩

theorem trans (h : run.Onward later) (h' : later.Onward last) : run.Onward last :=
  ⟨h.identities.trans h'.identities, fun hrun => h'.identified (h.identified hrun)⟩

theorem lookup_eq (h : run.Onward later) (hrun : run.narrative.Identified) {name : String}
    {id : CharacterId} (hlookup : run.narrative.lookup name = some id) :
    later.narrative.lookup name = some id :=
  Narrative.lookup_of_prefix h.identities hrun (h.identified hrun) hlookup

/-- What is known stays known. -/
theorem knows (h : run.Onward later) {ids : List CharacterId} (hknows : Knows run ids) :
    Knows later ids := by
  intro id hid
  obtain ⟨c, hc⟩ := Option.isSome_iff_exists.1 (hknows id hid)
  obtain ⟨d, hd, -⟩ := Narrative.exists_character_of_prefix h.identities hc
  rw [hd]
  rfl

end Run.Onward

theorem knows_of_lookup {run : Run} {name : String} {id : CharacterId}
    (h : run.narrative.Identified) (hlookup : run.narrative.lookup name = some id) :
    Knows run [id] := by
  obtain ⟨c, hc, -⟩ := (h.lookup_iff name id).1 hlookup
  intro other hother
  rw [List.mem_singleton.1 hother, hc]
  rfl

/-- A step that any state goes on with. -/
def Continues {α : Type} (step : Step α) : Prop := ∀ run : Run, run.Onward (step.outcome run).2

namespace Continues

variable {α β : Type} {step : Step α} {following : α → Step β}

theorem of_outcome (h : Continues step) {run later : Run} {result : Except LimitError α}
    (houtcome : step.outcome run = (result, later)) : run.Onward later := by
  have hlater := h run
  rwa [houtcome] at hlater

theorem pure (value : α) : Continues (Pure.pure value : Step α) := Run.Onward.refl

theorem bind (h : Continues step) (hfollowing : ∀ value, Continues (following value)) :
    Continues (step >>= following) := by
  intro run
  rw [Step.outcome_bind]
  rcases hstep : step.outcome run with ⟨error | value, later⟩
  · exact h.of_outcome hstep
  · exact (h.of_outcome hstep).trans (hfollowing value later)

end Continues

theorem emit_continues (fragment : Fragment) :
    Continues (modify fun run => run.emit fragment) :=
  fun run => .of_sameCast (Narrative.sameWorld_emit run.narrative fragment).sameCast

theorem emitAll_continues (fragments : List Fragment) :
    Continues (modify fun run => fragments.foldl Run.emit run) := by
  intro run
  rw [Step.outcome_modify]
  induction fragments generalizing run with
  | nil => exact .refl run
  | cons first rest ih => exact (emit_continues first run).trans (ih _)

namespace Environment

variable {env : Environment} {room : Nat}

theorem Course.onward {m m' : Moment} {history : History} (h : env.Course m history m') :
    m.run.Onward m'.run :=
  ⟨h.identities_prefix, h.identified⟩

theorem dispatchRecovering_continues (hroom : room ≤ env.limits.depth) (kernel : String)
    (args : Args) : Continues (env.dispatchRecovering room kernel args) := by
  intro run
  have hdispatch : run.Onward (env.dispatch room kernel args run).2 :=
    (dispatch_course (Nat.sub_add_cancel hroom) kernel args run []).onward
  rw [outcome_dispatchRecovering]
  rcases h : env.dispatch room kernel args run with ⟨(refusal | error) | fragment, later⟩
  · rw [h] at hdispatch
    exact hdispatch.trans (.of_sameCast ⟨rfl, rfl⟩)
  · rwa [h] at hdispatch
  · rwa [h] at hdispatch

theorem introduce_continues (hroom : room ≤ env.limits.depth) (id : CharacterId) :
    Continues (env.introduce room id) := by
  unfold introduce
  split
  case isTrue =>
    refine (dispatchRecovering_continues hroom _ _).bind fun introduction => ?_
    exact (emit_continues introduction).bind fun _ => .pure _
  case isFalse => exact .pure _

/-- A new character comes behind the others. -/
theorem onward_introduced {run : Run} {name : String} (h : run.narrative.lookup name = none)
    (traits : List String) :
    run.Onward { run with narrative := run.narrative.introduced name traits } := by
  refine ⟨?_, Narrative.identified_introduced h traits⟩
  rw [Narrative.identities_introduced]
  exact List.prefix_append _ _

theorem declare_continues (hroom : room ≤ env.limits.depth) (name : String)
    (traits : List String) : Continues (env.declare room name traits) := by
  intro run
  rw [outcome_declare]
  cases hlookup : run.narrative.lookup name with
  | some id =>
    rw [Narrative.declare_eq_none hlookup]
    exact .of_sameCast ⟨rfl, rfl⟩
  | none =>
    rw [Narrative.declare_eq_some hlookup]
    exact (onward_introduced hlookup traits).trans (introduce_continues hroom _ _)

theorem diluteBy_continues (head : Option String) (value amount : Value) :
    Continues (diluteBy head value amount) := by
  intro run
  unfold diluteBy
  cases divisor amount <;> exact .of_sameCast ⟨rfl, rfl⟩

theorem callInside_continues {kernel : String} {positional : List Expr}
    {keywords : List (String × Expr)} (hroom : room ≤ env.limits.depth)
    (hpositional : Continues (env.evaluateAll room positional))
    (hkeywords : Continues (env.evaluateKeywords room keywords)) :
    Continues (env.callInside room kernel positional keywords) := by
  unfold callInside
  split
  case h_1 traits _ => exact declare_continues hroom kernel traits
  case h_2 =>
    exact hpositional.bind fun _ => hkeywords.bind fun _ =>
      (dispatchRecovering_continues hroom _ _).bind fun _ => .pure _

mutual

/-- No evaluation loses a character, also if a bound was crossed before. -/
theorem evaluate_continues : ∀ (e : Expr) {room : Nat}, room ≤ env.limits.depth →
    Continues (env.evaluate room e)
  | .name word, room, _ => by
    simp only [evaluate]
    exact Run.Onward.refl
  | .text words, room, _ => Run.Onward.refl
  | .number x, room, _ => Run.Onward.refl
  | .list items, room, hroom => (evaluateAll_continues items hroom).bind fun _ => .pure _
  | .binary .compose left right, room, hroom =>
    (evaluate_continues left hroom).bind fun _ =>
      (evaluate_continues right hroom).bind fun _ => Run.Onward.refl
  | .binary .dilute left right, room, hroom =>
    (evaluate_continues left hroom).bind fun _ =>
      (evaluate_continues right hroom).bind fun _ => diluteBy_continues _ _ _
  | .call kernel positional keywords, room, hroom => by
    intro run
    rw [outcome_call]
    split
    case isTrue =>
      have hinside : room - 1 ≤ env.limits.depth := Nat.le_trans (Nat.sub_le room 1) hroom
      exact callInside_continues hinside (evaluateAll_continues positional hinside)
        (evaluateKeywords_continues keywords hinside) run
    case isFalse =>
      exact .of_sameCast (run.sameStory_cross (.depth env.limits.depth)).sameWorld.sameCast

theorem evaluateAll_continues : ∀ (items : List Expr) {room : Nat}, room ≤ env.limits.depth →
    Continues (env.evaluateAll room items)
  | [], _, _ => Run.Onward.refl
  | first :: rest, _, hroom =>
    (evaluate_continues first hroom).bind fun _ =>
      (evaluateAll_continues rest hroom).bind fun _ => .pure _

theorem evaluateKeywords_continues : ∀ (keywords : List (String × Expr)) {room : Nat},
    room ≤ env.limits.depth → Continues (env.evaluateKeywords room keywords)
  | [], _, _ => Run.Onward.refl
  | (_, first) :: rest, _, hroom =>
    (evaluate_continues first hroom).bind fun _ =>
      (evaluateKeywords_continues rest hroom).bind fun _ => .pure _

end

/-- No telling loses a character. -/
theorem tell_continues (statements : List Expr) : Continues (env.tell statements) := by
  induction statements with
  | nil => exact Run.Onward.refl
  | cons statement rest ih =>
    exact (evaluate_continues statement (Nat.le_refl _)).bind fun value =>
      (emitAll_continues value.generated).bind fun _ => ih

/-! ## What expressions speak of -/

/-- What the value of an expression has to do with the characters, where the expression is
evaluated in the state `before` and leaves the state `after`. -/
structure Refers (env : Environment) (e : Expr) (before : Run) (value : Value) (after : Run) :
    Prop where
  /-- A name is the character that has it, or else a word in small letters. -/
  name : ∀ word, e = .name word → after = before ∧ value =
    match before.narrative.lookup word with
    | some id => .character id
    | none => .concept (Text.lowercase word)
  /-- A declaration is the character that has the declared name, also if the name was taken. -/
  declaration : ∀ name traits keywords, e = .call name (.name characterMarker :: traits) keywords →
    ∃ id, value = .character id ∧ after.narrative.lookup name = some id
  /-- A character that the value speaks of is known, and from then on it reads as its name, which
  leads to it. -/
  mentions : ∀ id ∈ value.mentions, ∃ c, after.narrative.character id = some c ∧
    ∀ levels pending later m, env.Course ⟨after, levels, pending⟩ later m →
      (Value.character id).phrase m.run.cast = c.name ∧
        m.run.narrative.lookup c.name = some id

section

variable {room : Nat} {run later : Run}

/-- A step that has a result behind another one has it where the first one ended. -/
theorem outcome_bind_ok {α β : Type} {step : Step α} {following : α → Step β} {value : β}
    (h : (step >>= following).outcome run = (.ok value, later)) :
    ∃ first between, step.outcome run = (.ok first, between) ∧
      (following first).outcome between = (.ok value, later) := by
  rw [Step.outcome_bind] at h
  split at h
  case h_1 first between hstep => exact ⟨first, between, hstep, h⟩
  case h_2 => cases h

/-- What a declaration does behind the declaration itself does not change its value. -/
theorem outcome_introduce {id : CharacterId} {value : Value}
    (h : (env.introduce room id).outcome run = (.ok value, later)) : value = .character id := by
  unfold introduce at h
  split at h
  case isTrue =>
    obtain ⟨introduction, between, -, h⟩ := outcome_bind_ok h
    obtain ⟨_, between, -, h⟩ := outcome_bind_ok h
    cases h
    rfl
  case isFalse =>
    cases h
    rfl

/-- A declaration is the character that has the declared name afterwards. -/
theorem declare_refers (hroom : room ≤ env.limits.depth) (hidentified : run.narrative.Identified)
    {name : String} {traits : List String} {value : Value}
    (h : (env.declare room name traits).outcome run = (.ok value, later)) :
    ∃ id, value = .character id ∧ later.narrative.lookup name = some id := by
  rw [outcome_declare] at h
  cases hlookup : run.narrative.lookup name with
  | some id =>
    rw [Narrative.declare_eq_none hlookup] at h
    cases h
    exact ⟨id, by simp only [Narrative.resolve, hlookup], hlookup⟩
  | none =>
    rw [Narrative.declare_eq_some hlookup] at h
    obtain rfl := outcome_introduce h
    refine ⟨_, rfl, ?_⟩
    -- the introduction goes on from a story in which the name is known
    have hintroduced : (run.narrative.introduced name traits).Identified :=
      Narrative.identified_introduced hlookup traits hidentified
    have hknown : (run.narrative.introduced name traits).lookup name =
        some run.narrative.characters.length := by
      rw [Narrative.lookup_introduced, if_pos rfl]
    exact ((introduce_continues hroom _).of_outcome h).lookup_eq hintroduced hknown

end

section

variable {room levels : Nat} {run later : Run}

/-- A step that has a result leaves a state in which no bound was crossed, at the end of its
history. -/
theorem Traced.continues {α : Type} {step : Step α} {history : Run → History} {value : α}
    (h : env.Traced room step history) (hrun : run.exceeded = none)
    (hlevels : levels + room = env.limits.depth)
    (houtcome : step.outcome run = (.ok value, later)) :
    later.exceeded = none ∧ env.Course ⟨run, levels, []⟩ (history run) ⟨later, levels, []⟩ := by
  have hexceeded := h.halts run hrun
  have hcourse := h.course run levels hrun hlevels
  rw [houtcome] at hexceeded hcourse
  exact ⟨hexceeded, hcourse⟩

theorem generated_dilute (cast : List Character) (value : Value) (d : Float) :
    (dilute cast value d).Generated := by
  unfold dilute
  split
  case h_1 only _ => exact .fragment only
  case h_2 => exact .composition _

theorem generated_of_diluteBy {head : Option String} {value amount result : Value}
    (h : (diluteBy head value amount).outcome run = (.ok result, later)) : result.Generated := by
  unfold diluteBy at h
  cases hdivisor : divisor amount with
  | ok d =>
    rw [hdivisor] at h
    cases h
    exact generated_dilute _ _ _
  | error message =>
    rw [hdivisor] at h
    cases h
    exact .fragment _

/-- The value of an operator is generated text. -/
theorem generated_of_binary {op : Operator} {left right : Expr} {value : Value}
    (h : (env.evaluate room (.binary op left right)).outcome run = (.ok value, later)) :
    value.Generated := by
  cases op with
  | compose =>
    obtain ⟨_, _, _, h⟩ := outcome_bind_ok h
    obtain ⟨_, _, _, h⟩ := outcome_bind_ok h
    cases h
    exact .composition _
  | dilute =>
    obtain ⟨_, _, _, h⟩ := outcome_bind_ok h
    obtain ⟨_, _, _, h⟩ := outcome_bind_ok h
    exact generated_of_diluteBy h

/-- A call that has a value is a declaration, or its value is generated text. -/
theorem outcome_call_ok {kernel : String} {positional : List Expr}
    {keywords : List (String × Expr)} {value : Value}
    (h : (env.evaluate room (.call kernel positional keywords)).outcome run =
      (.ok value, later)) :
    match declaredTraits? positional with
    | some traits => (env.declare (room - 1) kernel traits).outcome run = (.ok value, later)
    | none => value.Generated := by
  rw [outcome_call] at h
  split at h
  case isFalse => cases h
  case isTrue =>
    unfold callInside at h
    cases hdeclared : declaredTraits? positional with
    | some traits =>
      rw [hdeclared] at h
      exact h
    | none =>
      rw [hdeclared] at h
      obtain ⟨_, _, _, h⟩ := outcome_bind_ok h
      obtain ⟨_, _, _, h⟩ := outcome_bind_ok h
      obtain ⟨_, _, _, h⟩ := outcome_bind_ok h
      cases h
      exact .fragment _

mutual

/-- The value of an expression speaks of known characters only. -/
theorem evaluate_knows : ∀ (e : Expr) {room : Nat} {run later : Run} {value : Value},
    room ≤ env.limits.depth → run.narrative.Identified →
    (env.evaluate room e).outcome run = (.ok value, later) → Knows later value.mentions
  | .name word, room, run, later, value, _, hidentified, h => by
    simp only [evaluate] at h
    cases h
    unfold Narrative.resolve
    split
    case h_1 id hlookup => exact knows_of_lookup hidentified hlookup
    case h_2 => exact nofun
  | .text words, room, run, later, value, _, _, h => by
    cases h
    exact nofun
  | .number x, room, run, later, value, _, _, h => by
    cases h
    exact nofun
  | .list items, room, run, later, value, hroom, hidentified, h => by
    obtain ⟨values, between, hitems, h⟩ := outcome_bind_ok h
    cases h
    exact evaluateAll_knows items hroom hidentified hitems
  | .binary op left right, room, run, later, value, _, _, h => by
    rw [(generated_of_binary h).mentions_eq]
    exact nofun
  | .call kernel positional keywords, room, run, later, value, hroom, hidentified, h => by
    have hcall := outcome_call_ok h
    split at hcall
    case h_1 traits _ =>
      have hinside : room - 1 ≤ env.limits.depth := Nat.le_trans (Nat.sub_le room 1) hroom
      obtain ⟨id, rfl, hlookup⟩ := declare_refers hinside hidentified hcall
      have honward := (declare_continues hinside kernel traits).of_outcome hcall
      exact knows_of_lookup (honward.identified hidentified) hlookup
    case h_2 =>
      rw [hcall.mentions_eq]
      exact nofun

theorem evaluateAll_knows :
    ∀ (items : List Expr) {room : Nat} {run later : Run} {values : List Value},
    room ≤ env.limits.depth → run.narrative.Identified →
    (env.evaluateAll room items).outcome run = (.ok values, later) →
    Knows later (Value.mentionsOf values)
  | [], room, run, later, values, _, _, h => by
    cases h
    exact nofun
  | first :: rest, room, run, later, values, hroom, hidentified, h => by
    obtain ⟨value, between, hfirst, h⟩ := outcome_bind_ok h
    obtain ⟨others, after, hrest, h⟩ := outcome_bind_ok h
    cases h
    have hidentified' := ((evaluate_continues first hroom).of_outcome hfirst).identified hidentified
    -- what the first value speaks of is known before the others are evaluated, and stays known
    have hothers := (evaluateAll_continues rest hroom).of_outcome hrest
    have hknown := hothers.knows (evaluate_knows first hroom hidentified hfirst)
    intro id hid
    rcases List.mem_append.1 hid with hid | hid
    · exact hknown id hid
    · exact evaluateAll_knows rest hroom hidentified' hrest id hid

end

/-- Whatever an expression evaluates to refers to the characters as it should. -/
theorem evaluate_refers {e : Expr} {value : Value} (hrun : run.exceeded = none)
    (hlevels : levels + room = env.limits.depth) (hidentified : run.narrative.Identified)
    (h : (env.evaluate room e).outcome run = (.ok value, later)) :
    env.Refers e run value later where
  name word heq := by
    subst heq
    simp only [evaluate] at h
    cases h
    exact ⟨rfl, rfl⟩
  declaration name traits keywords heq := by
    subst heq
    have hinside : room - 1 ≤ env.limits.depth := by omega
    exact declare_refers hinside hidentified (outcome_call_ok h)
  mentions id hid := by
    have hcourse := ((evaluate_traced room e).continues hrun hlevels h).2
    have hlater := hcourse.identified hidentified
    obtain ⟨c, hc⟩ := Option.isSome_iff_exists.1
      (evaluate_knows e (by omega) hidentified h id hid)
    refine ⟨c, hc, fun levels pending rest m hrest => ?_⟩
    have hlookup := hrest.lookup_eq hlater ((hlater.lookup_iff c.name id).2 ⟨c, hc, rfl⟩)
    obtain ⟨d, hd, hname⟩ := ((hrest.identified hlater).lookup_iff c.name id).1 hlookup
    exact ⟨(Value.phrase_character hd).trans hname, hlookup⟩

/-- While statements are told from the beginning, names are distinct, the id of a character is its
place, and the catalogue of names leads from a name to the character that has it and to no other.
The characters only grow at their end, nothing about them changes but their emotions, and a name
that leads to a character leads to it for good. Whatever an expression evaluates to at any moment
refers to the characters as it should. -/
theorem names_keep_characters (env : Environment) (statements : List Expr) (seed : UInt64)
    (clamp : Clamp) :
    let start := Run.start (.start seed clamp)
    let history := env.history statements start
    let moment (i : Nat) := env.replay (.outside start) (history.take i)
    env.Course (.outside start) history (.outside ((env.tell statements).outcome start).2) ∧
    (∀ i, (moment i).run.narrative.Identified) ∧
    (∀ i j, i ≤ j →
      (moment i).run.narrative.identities <+: (moment j).run.narrative.identities ∧
      ∀ name id, (moment i).run.narrative.lookup name = some id →
        (moment j).run.narrative.lookup name = some id) ∧
    ∀ i room e value later, room ≤ env.limits.depth → (moment i).run.exceeded = none →
      (env.evaluate room e).outcome (moment i).run = (.ok value, later) →
      env.Refers e (moment i).run value later := by
  intro start history moment
  have hcourse : env.Course (.outside start) history
      (.outside ((env.tell statements).outcome start).2) := tell_course statements rfl
  have hidentified (i : Nat) : (moment i).run.narrative.Identified :=
    (hcourse.take i).identified (Narrative.identified_start seed clamp)
  refine ⟨hcourse, hidentified, fun i j hij => ?_,
    fun i room e value later hroom hexceeded h => ?_⟩
  · have hbetween := hcourse.between hij
    exact ⟨hbetween.identities_prefix,
      fun name id hlookup => hbetween.lookup_eq (hidentified i) hlookup⟩
  · exact evaluate_refers hexceeded (Nat.sub_add_cancel hroom) (hidentified i) h

end

end Environment

end Evaluation

end Storyweave
