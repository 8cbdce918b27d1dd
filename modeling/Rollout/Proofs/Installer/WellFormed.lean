import Rollout.Proofs.Installer.Document

namespace Rollout.Installer

open Check

/-! What an accepted document is good for.

The phases of an installation, the terminal and the form of the questions rely on a
well-formed specification and check nothing again.
-/

/-- What is waited for can come, and there is time for it. -/
structure AutoAnswer.WellFormed (answer : AutoAnswer) : Prop where
  timeout : 0 < answer.timeout
  waitFor : answer.waitFor ≠ some ""

/-- A step that types has a terminal and a command to type to. -/
structure Step.WellFormed (step : Step) : Prop where
  condition : Text.Tight step.condition.toList
  terminal : step.terminal.autoAnswers ≠ [] →
    step.terminal.enabled = true ∧ Text.isBlankText step.run = false
  autoAnswers : ∀ answer ∈ step.terminal.autoAnswers, answer.WellFormed

structure Question.WellFormed (question : Question) : Prop where
  identified : question.id ≠ ""
  id : Text.Tight question.id.toList
  choices : question.kind = .choice → question.choices ≠ []

structure RecordTemplate.WellFormed (record : RecordTemplate) : Prop where
  tight : Text.Tight record.recordType.toList
  upper : ∀ char ∈ record.recordType.toList, char.isLower = false

structure Spec.WellFormed (spec : Spec) : Prop where
  named : spec.app ≠ ""
  app : Text.Tight spec.app.toList
  ram : spec.requirement.ramMb < Text.wordLimit
  disk : spec.requirement.diskGb < Text.wordLimit
  records : ∀ record ∈ spec.records, record.WellFormed
  questions : ∀ question ∈ spec.questions, question.WellFormed
  steps : ∀ step ∈ spec.steps, step.WellFormed

section Accepted

variable {spec : Spec} {index : Nat}

theorem DocumentAnswer.toAnswer_wellFormed (answer : DocumentAnswer) :
    answer.toAnswer.WellFormed := by
  refine ⟨?timeout, ?waitFor⟩
  case timeout =>
    show 0 < (answer.timeoutMs.filter (0 < ·)).getD defaultTimeout
    cases set : answer.timeoutMs.filter (0 < ·) with
    | none => decide
    | some time => simpa using (Option.filter_eq_some_iff.mp set).2
  case waitFor =>
    intro empty
    have kept := (Option.filter_eq_some_iff.mp empty).2
    simp at kept

theorem DocumentStep.Gives.wellFormed {written : DocumentStep} {step : Step}
    (gives : written.Gives step) (faultless : written.faults index = []) : step.WellFormed := by
  refine ⟨?condition, ?terminal, ?autoAnswers⟩
  case condition =>
    rw [gives.condition]
    exact Text.tight_trimmed _
  case terminal =>
    intro typing
    have scripted : written.answers ≠ [] := by simpa [gives.autoAnswers] using typing
    refine ⟨gives.enabled.mpr (Or.inr ?_), ?_⟩
    · unfold answers at scripted
      split at scripted
      next answers given => exact ⟨answers, given⟩
      next => exact absurd rfl scripted
    · rw [gives.run, Bool.eq_false_iff]
      intro blank
      simp [faults, scripted, blank] at faultless
  case autoAnswers =>
    rw [gives.autoAnswers]
    intro answer member
    obtain ⟨written, -, rfl⟩ := List.mem_map.mp member
    exact written.toAnswer_wellFormed

theorem DocumentQuestion.Gives.wellFormed {written : DocumentQuestion} {question : Question}
    (gives : written.Gives question) (faultless : written.faults = []) : question.WellFormed := by
  obtain ⟨named, chosen⟩ := List.append_eq_nil_iff.mp faultless
  refine ⟨?identified, ?id, ?choices⟩
  case identified =>
    rw [gives.id, ne_eq, ← Text.isBlankText_iff]
    intro blank
    simp [blank] at named
  case id =>
    rw [gives.id]
    exact Text.tight_trimmed _
  case choices =>
    rw [gives.kind, gives.choices]
    intro choice none
    simp [choice, none] at chosen

theorem tight_trimmedUpper (text : String) :
    Text.Tight (Text.upper (Text.trimmed text)).toList := by
  rw [Text.upper, String.toList_ofList, Text.tight_map_iff Text.isBlank_toUpper]
  exact Text.tight_trimmed text

theorem isLower_upper {text : String} {char : Char} (member : char ∈ (Text.upper text).toList) :
    char.isLower = false := by
  rw [Text.upper, String.toList_ofList] at member
  obtain ⟨letter, -, rfl⟩ := List.mem_map.mp member
  exact Text.isLower_toUpper letter

theorem Document.wellFormed_of_toSpec {document : Document}
    (accepted : document.toSpec = .ok spec) : spec.WellFormed := by
  obtain ⟨gives, ram, disk⟩ := gives_of_toSpec accepted
  have faultless := (toSpec_eq_ok_iff.mp accepted).1
  simp only [faults, List.append_eq_nil_iff, List.flatMap_eq_nil_iff] at faultless
  obtain ⟨named, -, -, asked, done⟩ := faultless
  refine ⟨?named, ?app, ram, disk, ?records, ?questions, ?steps⟩
  case named =>
    rw [gives.app, ne_eq, ← Text.isBlankText_iff]
    intro blank
    simp [blank] at named
  case app =>
    rw [gives.app]
    exact Text.tight_trimmed _
  case records =>
    rw [gives.records]
    intro record member
    obtain ⟨written, -, rfl⟩ := List.mem_map.mp member
    exact ⟨tight_trimmedUpper _, fun char => isLower_upper⟩
  case questions =>
    intro question member
    obtain ⟨written, among, given⟩ := exists_of_mem_right gives.questions question member
    exact given.wellFormed (asked written among)
  case steps =>
    intro step member
    obtain ⟨written, among, given⟩ := exists_of_mem_right gives.steps step member
    obtain ⟨index, placed⟩ := List.mem_iff_getElem?.mp among
    exact given.wellFormed (done (written, index) (List.mk_mem_zipIdx_iff_getElem?.mpr placed))

end Accepted

section Refused

variable {document : Document} {index : Nat} {name : String} {fault : StepFault}

theorem DocumentStep.of_mem_faults {step : DocumentStep} {error : DocumentError}
    (member : error ∈ step.faults index) :
    ∃ fault, error = .invalidStep index step.name fault := by
  rcases List.mem_append.mp member with pause | typing
  · unfold sleepFaults at pause
    split at pause
    · cases pause
    · split at pause
      · cases pause
      · exact ⟨_, List.mem_singleton.mp pause⟩
  · split at typing
    · exact ⟨_, List.mem_singleton.mp typing⟩
    · cases typing

theorem not_invalidStep_of_capacityFaults {which : Capacity}
    {read : String → Except Quantity.Error Nat} {scalar : Option Scalar} :
    .invalidStep index name fault ∉ capacityFaults which read scalar := by
  unfold capacityFaults
  split
  · simp
  · split <;> simp

theorem DocumentQuestion.not_invalidStep (question : DocumentQuestion) :
    .invalidStep index name fault ∉ question.faults := by
  unfold faults
  split <;> split <;> simp

/-- The first fault of a document that is one of a step comes from the first step that has
any. -/
theorem Document.first_faulty_step
    (first : document.faults.head? = some (.invalidStep index name fault)) :
    ∃ step, document.steps[index]? = some step ∧ step.name = name ∧
      (step.faults index).head? = some (.invalidStep index name fault) ∧
      ∀ earlier other, earlier < index → document.steps[earlier]? = some other →
        other.faults earlier = [] := by
  have inSteps : (document.steps.zipIdx.flatMap fun placed => placed.1.faults placed.2).head? =
      some (.invalidStep index name fault) := by
    have named : .invalidStep index name fault ∉
        (if Text.isBlankText document.app then [DocumentError.missingApp] else []) := by
      split <;> simp
    have asked : .invalidStep index name fault ∉ document.questions.flatMap (·.faults) := by
      simp [DocumentQuestion.not_invalidStep]
    -- Whatever is checked before the steps has no fault of a step.
    have behindName := head?_of_append first named
    have behindRam := head?_of_append behindName not_invalidStep_of_capacityFaults
    have behindDisk := head?_of_append behindRam not_invalidStep_of_capacityFaults
    exact head?_of_append behindDisk asked
  rw [List.head?_flatMap, List.findSome?_eq_some_iff] at inSteps
  obtain ⟨sound, ⟨step, place⟩, rest, split, faulty, faultless⟩ := inSteps
  simp only at faulty
  obtain ⟨_, same⟩ := step.of_mem_faults (List.mem_of_head? faulty)
  cases same
  have placed {other : DocumentStep} {place : Nat} :
      document.steps.zipIdx[place]? = some (other, place) ↔ document.steps[place]? = some other := by
    simp [List.getElem?_zipIdx]
  have here : document.steps.zipIdx[sound.length]? = some (step, index) := by simp [split]
  have length : sound.length = index := by
    rw [List.getElem?_zipIdx] at here
    obtain ⟨other, -, same⟩ := Option.map_eq_some_iff.mp here
    simpa using congrArg Prod.snd same
  refine ⟨step, placed.mp (length ▸ here), rfl, faulty, ?_⟩
  intro earlier other before found
  have member : (other, earlier) ∈ sound := by
    have listed := placed.mpr found
    rw [split, List.getElem?_append_left (by omega)] at listed
    exact List.mem_of_getElem? listed
  simpa using faultless _ member

end Refused

/-- The phase of a step and its guard go by one text, the guard without the blanks around
it. -/
structure DocumentStep.Guards (written : DocumentStep) (step : Step) : Prop where
  phase : step.phase = .ssl ↔ Text.isBlankText written.condition = false
  seen : Text.trimmed step.condition = step.condition
  runs : ∀ context, step.runsIn .ssl context =
    (!Text.isBlankText written.condition && context.evaluate (Text.trimmed written.condition))

theorem DocumentStep.Gives.guards {written : DocumentStep} {step : Step}
    (gives : written.Gives step) : written.Guards step := by
  have phase : step.phase = .ssl ↔ Text.isBlankText written.condition = false := by
    rw [Step.phase, gives.condition, Text.isBlankText_trimmed]
    split <;> simp [*]
  refine ⟨phase, ?seen, ?runs⟩
  case seen => rw [gives.condition, Text.trimmed_trimmed]
  case runs =>
    intro context
    rw [Bool.eq_iff_iff, Step.runsIn, gives.condition]
    simp [phase]

/-- A document is accepted if it has no fault and is then turned into the well-formed
specification that it gives.  Otherwise its first fault is reported, and that of a step with
the position of the first faulty step. -/
theorem Document.toSpec_faithful (document : Document) :
    (∀ spec, document.toSpec = .ok spec ↔ document.faults = [] ∧ document.Gives spec) ∧
    (∀ spec, document.toSpec = .ok spec →
      spec.WellFormed ∧ List.Forall₂ DocumentStep.Guards document.steps spec.steps) ∧
    (∀ error, document.toSpec = .error error ↔ document.faults.head? = some error) ∧
    ∀ index name fault, document.toSpec = .error (.invalidStep index name fault) →
      ∃ step, document.steps[index]? = some step ∧ step.name = name ∧
        (step.faults index).head? = some (.invalidStep index name fault) ∧
        ∀ earlier other, earlier < index → document.steps[earlier]? = some other →
          other.faults earlier = [] := by
  refine ⟨?gives, ?wellFormed, ?first, ?position⟩
  case gives => exact fun spec => toSpec_eq_ok_iff
  case wellFormed =>
    intro spec accepted
    refine ⟨wellFormed_of_toSpec accepted, ?_⟩
    exact (gives_of_toSpec accepted).1.steps.imp fun _ _ => DocumentStep.Gives.guards
  case first => exact document.toSpec_reports
  case position =>
    intro index name fault refused
    exact first_faulty_step ((document.toSpec_reports _).mp refused)

end Rollout.Installer
