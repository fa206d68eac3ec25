import Storyweave.Proofs.Evaluation.Faults
import Storyweave.Proofs.Evaluation.Wording

/-!
# Stories of the starter pack

Result: `starter_faults_have_causes` says what can go wrong in a story that the starter kernels tell
with the starter templates.
-/

namespace Storyweave

open Storyweave.Story Storyweave.Kernel Storyweave.Evaluation Storyweave.Language

/-- What was recorded while a story was told. -/
def recorded : Except TaleError Tale → List Diagnostic
  | .ok tale => tale.diagnostics
  | .error error => error.diagnostics

namespace Engine

variable {e : Engine} {refuses : String → Scene → Args → String → Prop}

theorem recorded_tellStatements (e : Engine) (statements : List Expr) (seed : UInt64) :
    recorded (e.tellStatements statements seed) =
      ((e.environment.tell statements).outcome
        (.start (.start seed e.config.clamp))).2.narrative.diagnostics := by
  unfold tellStatements Step.outcome
  dsimp only
  rcases (e.environment.tell statements).run.run (Run.start (.start seed e.config.clamp)) with
    ⟨error | _, run⟩ <;> rfl

/-- What is recorded of a story is what the events of its history record. -/
theorem recorded_eq_flatMap (e : Engine) (statements : List Expr) (seed : UInt64) :
    recorded (e.tellStatements statements seed) =
      (e.environment.history statements (.start (.start seed e.config.clamp))).flatMap
        e.environment.records := by
  rw [recorded_tellStatements]
  exact (Environment.tell_course statements rfl).diagnostics_eq

/-- What happens in a story is justified by the expressions that are evaluated. -/
theorem history_justified (h : e.environment.Agrees refuses) (statements : List Expr)
    (seed : UInt64) :
    let start : Run := .start (.start seed e.config.clamp)
    Justified e.environment.templates
      (e.environment.FaultFrom refuses (e.environment.VisitsTelling statements start))
      (e.environment.history statements start) :=
  Environment.tell_justified h statements (Narrative.identified_start seed e.config.clamp)

/-- What is recorded of a justified history is no missing template, and a fault in the shape of
arguments has a cause. -/
theorem cause_of_mem_records {env : Environment} {cause : String → String → Prop}
    {history : History} (h : Justified env.templates cause history) {d : Diagnostic}
    (hd : d ∈ history.flatMap env.records) :
    d.kind ≠ .missingTemplateCategory ∧
      (d.kind = .invalidArgumentShape → ∃ subject, d.subject = some subject ∧
        cause subject d.message) := by
  obtain ⟨event, hevent, hd⟩ := List.mem_flatMap.1 hd
  have hjustified := h event hevent
  cases event with
  | crossed error =>
    obtain rfl := List.mem_singleton.1 hd
    exact ⟨nofun, nofun⟩
  | unknown kernel =>
    obtain rfl := List.mem_singleton.1 hd
    exact ⟨nofun, nofun⟩
  | recovered subject message =>
    obtain rfl := List.mem_singleton.1 hd
    exact ⟨nofun, fun _ => ⟨subject, rfl, hjustified⟩⟩
  | filled category slots =>
    rw [Environment.records, if_pos hjustified.contains] at hd
    cases hd
  | _ => cases hd

/-- Where every handler answers, what is recorded of a story is no missing template, and a fault in
the shape of arguments has a cause in an expression that was evaluated. -/
theorem cause_of_mem_recorded (h : e.environment.Agrees refuses) {source : String}
    {seed : UInt64} {d : Diagnostic} (hd : d ∈ recorded (e.generateWith source seed)) :
    d.kind ≠ .missingTemplateCategory ∧
      (d.kind = .invalidArgumentShape → ∃ statements, parse source = .ok statements ∧
        ∃ subject, d.subject = some subject ∧
          e.environment.FaultFrom refuses (e.environment.VisitsTelling statements
            (.start (.start seed e.config.clamp))) subject d.message) := by
  unfold generateWith at hd
  cases hparse : parse source with
  | error error =>
    rw [hparse] at hd
    obtain rfl := List.mem_singleton.1 hd
    exact ⟨nofun, nofun⟩
  | ok statements =>
    rw [hparse] at hd
    have hd : d ∈ recorded (e.tellStatements statements seed) := hd
    rw [recorded_eq_flatMap] at hd
    obtain ⟨hkind, hcause⟩ := cause_of_mem_records (history_justified h statements seed) hd
    exact ⟨hkind, fun hshape => ⟨statements, rfl, hcause hshape⟩⟩

/-! ## The starter pack -/

theorem starter_agrees (config : Config) (own : UInt64) :
    (Engine.environment ⟨Starter.registry, Starter.templates, config, own⟩).Agrees
      Starter.Refuses where
  answers := Starter.answers_registry
  introduces scene id message hrefused := by
    have hnobody := hrefused.characters_eq
    cases hnobody

theorem divisor_message_ne {amount : Value} {message : String}
    (h : divisor amount = .error message) : message ≠ "unknown character" := by
  have hfirst : message.toList.head? = some 'c' ∨ message.toList.head? = some 'd' := by
    unfold divisor at h
    split at h
    · split at h
      · cases h
      · rw [← Except.error.inj h, String.toList_append]
        exact .inl rfl
    · rw [← Except.error.inj h, String.toList_append]
      exact .inr rfl
  rintro rfl
  revert hfirst
  decide

/-- No fault of the starter pack is that a character is unknown. -/
theorem fault_message_ne {env : Environment} {site : Site} {subject message : String}
    (h : env.Fault Starter.Refuses site subject message) : message ≠ "unknown character" := by
  cases h with
  | redeclared _ _ _ =>
    intro heq
    have hfirst := congrArg (fun text => text.toList.head?) heq
    simp only [String.toList_append] at hfirst
    cases hfirst
  | dilution _ _ _ hdivisor => exact divisor_message_ne hdivisor
  | refused _ _ _ _ hrefused => cases hrefused <;> decide

/-- The starter kernels and the starter templates agree, whatever the settings, the source and the
seed. No template category is missing, and a fault in the shape of arguments is one of these: a name
was declared again, a divisor was no positive number, or, as `Starter.Refuses` says, Friendship was
called where no character was at hand or Character without a character among its arguments. Every
template that is filled has a value for each of its slots, and the character of an introduction is
never unknown. -/
theorem starter_faults_have_causes (config : Config) (own : UInt64) :
    let engine : Engine := ⟨Starter.registry, Starter.templates, config, own⟩
    let env := engine.environment
    let start (seed : UInt64) : Run := .start (.start seed config.clamp)
    build [Starter.registry] [Starter.templates] (some config) own =
      config.check.map (fun _ => engine) ∧
    (∀ source seed, ∀ d ∈ recorded (engine.generateWith source seed),
      d.kind ≠ .missingTemplateCategory ∧
      (d.kind = .invalidArgumentShape → ∃ statements, parse source = .ok statements ∧
        ∃ subject site, d.subject = some subject ∧
          env.VisitsTelling statements (start seed) site ∧
          env.Fault Starter.Refuses site subject d.message)) ∧
    ∀ statements seed,
      (∀ category slots, .filled category slots ∈ env.history statements (start seed) →
        Starter.templates.Serves category slots) ∧
      ∀ subject, .recovered subject "unknown character" ∉ env.history statements (start seed) := by
  intro engine env start
  have hagrees : engine.environment.Agrees Starter.Refuses := starter_agrees config own
  have hjustified := history_justified hagrees
  refine ⟨build_starter config own, fun source seed d hd => ?_, fun statements seed => ⟨?_, ?_⟩⟩
  · obtain ⟨hkind, hcause⟩ := cause_of_mem_recorded hagrees hd
    refine ⟨hkind, fun hshape => ?_⟩
    obtain ⟨statements, hparse, subject, hsubject, site, hsite, hfault⟩ := hcause hshape
    exact ⟨statements, hparse, subject, site, hsubject, hsite, hfault⟩
  · exact fun category slots hfilled => hjustified statements seed _ hfilled
  · intro subject hrecovered
    obtain ⟨site, -, hfault⟩ := hjustified statements seed _ hrecovered
    exact fault_message_ne hfault rfl

end Engine

end Storyweave
