import Rollout.Installer.Document
import Rollout.Installer.Run
import Rollout.Proofs.Check
import Rollout.Proofs.Quantity
import Rollout.Proofs.Text.Blank

namespace Rollout.Installer

open Check

/-! Documents that are accepted, and why others are not.

A document has faults of its application name, its capacities, its questions and its steps,
in this order.  It is accepted just if it has none, and otherwise refused for the first one.
An accepted document gives one specification, which is well formed.
-/

section Faults

def capacityFaults (which : Capacity) (read : String → Except Quantity.Error Nat) :
    Option Scalar → List DocumentError
  | none => []
  | some value =>
      match read value.toText with
      | .ok _ => []
      | .error cause => [.invalidSize which cause]

def DocumentQuestion.faults (question : DocumentQuestion) : List DocumentError :=
  (if Text.isBlankText question.id then [.invalidQuestion question.name .missingId] else []) ++
    if question.kind = .choice ∧ question.choices = [] then
      [.invalidQuestion (Text.trimmed question.id) .noChoices]
    else []

def sleepFaults (index : Nat) (name : String) : Option Scalar → List DocumentError
  | none => []
  | some value =>
      match Quantity.parseDuration value.toText with
      | .ok _ => []
      | .error cause => [.invalidStep index name (.sleep cause)]

def DocumentStep.answers (step : DocumentStep) : List DocumentAnswer :=
  match step.terminal with
  | some (.scripted answers) => answers
  | _ => []

def DocumentStep.faults (step : DocumentStep) (index : Nat) : List DocumentError :=
  sleepFaults index step.name step.sleep ++
    if step.answers ≠ [] ∧ Text.isBlankText step.run then
      [.invalidStep index step.name .answersWithoutRun]
    else []

/-- All that is wrong with a document, in the order in which it is checked. -/
def Document.faults (document : Document) : List DocumentError :=
  (if Text.isBlankText document.app then [.missingApp] else []) ++
    (capacityFaults .ram Quantity.parseMegabytes document.ram ++
      (capacityFaults .disk Quantity.parseGigabytes document.disk ++
        (document.questions.flatMap (·.faults) ++
          document.steps.zipIdx.flatMap fun (step, index) => step.faults index)))

end Faults

section Descriptions

/-- The amount that is written for a capacity, exactly.  None counts as nothing. -/
inductive Sized (scale : Quantity.CapacityUnit → Nat → Nat) : Option Scalar → Nat → Prop where
  | absent : Sized scale none 0
  | given {value : Scalar} {amount : Nat} {unit : Quantity.CapacityUnit}
      (read : Quantity.capacity? value.toText = some (amount, unit)) :
      Sized scale (some value) (scale unit amount)

/-- The milliseconds that are written for a pause in seconds. -/
inductive Paused : Option Scalar → Option Nat → Prop where
  | absent : Paused none none
  | given {value : Scalar} {seconds : Nat}
      (read : Quantity.parseDuration value.toText = .ok seconds) :
      Paused (some value) (some (seconds * 1000))

structure DocumentQuestion.Gives (written : DocumentQuestion) (question : Question) : Prop where
  id : question.id = Text.trimmed written.id
  name : question.name = written.name
  kind : question.kind = written.kind
  required : question.required = written.required
  default : question.default = written.default.map Scalar.toText
  choices : question.choices = written.choices

structure DocumentStep.Gives (written : DocumentStep) (step : Step) : Prop where
  name : step.name = written.name
  condition : step.condition = Text.trimmed written.condition
  run : step.run = written.run
  sleep : Paused written.sleep step.sleep
  log : step.log = written.log
  enabled : step.terminal.enabled = true ↔
    written.terminal = some (.flag true) ∨ ∃ answers, written.terminal = some (.scripted answers)
  autoAnswers : step.terminal.autoAnswers = written.answers.map (·.toAnswer)

/-- What the specification says of each part of a document. -/
structure Document.Gives (document : Document) (spec : Spec) : Prop where
  app : spec.app = Text.trimmed document.app
  description : spec.description = document.description
  domainHint : spec.domainHint = document.domainHint
  cpu : spec.requirement.cpu = document.cpu.getD 1
  ram : Sized Quantity.CapacityUnit.inMegabytes document.ram spec.requirement.ramMb
  disk : Sized Quantity.CapacityUnit.inGigabytes document.disk spec.requirement.diskGb
  records : spec.records = document.records.map fun record =>
    { record with recordType := Text.upper (Text.trimmed record.recordType) }
  dnsPolicy : spec.dnsPolicy = document.dnsPolicy
  questions : List.Forall₂ DocumentQuestion.Gives document.questions spec.questions
  steps : List.Forall₂ DocumentStep.Gives document.steps spec.steps

variable {scale : Quantity.CapacityUnit → Nat → Nat} {scalar : Option Scalar}

theorem Sized.unique {amount other : Nat} (sized : Sized scale scalar amount)
    (also : Sized scale scalar other) : amount = other := by
  cases sized with
  | absent =>
      cases also
      rfl
  | given read =>
      obtain _ | reread := also
      cases read.symm.trans reread
      rfl

theorem Paused.unique {time other : Option Nat} (paused : Paused scalar time)
    (also : Paused scalar other) : time = other := by
  cases paused with
  | absent =>
      cases also
      rfl
  | given read =>
      obtain _ | reread := also
      cases read.symm.trans reread
      rfl

theorem DocumentQuestion.Gives.unique {written : DocumentQuestion} {question other : Question}
    (gives : written.Gives question) (also : written.Gives other) : question = other := by
  cases question
  cases other
  obtain ⟨rfl, rfl, rfl, rfl, rfl, rfl⟩ := gives
  obtain ⟨rfl, rfl, rfl, rfl, rfl, rfl⟩ := also
  rfl

theorem DocumentStep.Gives.unique {written : DocumentStep} {step other : Step}
    (gives : written.Gives step) (also : written.Gives other) : step = other := by
  have sleep := gives.sleep.unique also.sleep
  have enabled : step.terminal.enabled = other.terminal.enabled := by
    rw [Bool.eq_iff_iff, gives.enabled, also.enabled]
  obtain ⟨_, _, _, _, _, ⟨_, _⟩⟩ := step
  obtain ⟨_, _, _, _, _, ⟨_, _⟩⟩ := other
  obtain ⟨rfl, rfl, rfl, -, rfl, -, rfl⟩ := gives
  obtain ⟨rfl, rfl, rfl, -, rfl, -, rfl⟩ := also
  cases sleep
  cases enabled
  rfl

theorem Document.Gives.unique {document : Document} {spec other : Spec}
    (gives : document.Gives spec) (also : document.Gives other) : spec = other := by
  have ram := gives.ram.unique also.ram
  have disk := gives.disk.unique also.disk
  have askedOnce : Relator.RightUnique DocumentQuestion.Gives :=
    fun _ _ _ => DocumentQuestion.Gives.unique
  have doneOnce : Relator.RightUnique DocumentStep.Gives := fun _ _ _ => DocumentStep.Gives.unique
  have questions := List.right_unique_forall₂' askedOnce gives.questions also.questions
  have steps := List.right_unique_forall₂' doneOnce gives.steps also.steps
  obtain ⟨_, _, ⟨_, _, _⟩, _, _, _, _, _⟩ := spec
  obtain ⟨_, _, ⟨_, _, _⟩, _, _, _, _, _⟩ := other
  obtain ⟨rfl, rfl, rfl, rfl, -, -, rfl, rfl, -, -⟩ := gives
  obtain ⟨rfl, rfl, rfl, rfl, -, -, rfl, rfl, -, -⟩ := also
  cases ram
  cases disk
  cases questions
  cases steps
  rfl

end Descriptions

section Checking

variable {which : Capacity} {read : String → Except Quantity.Error Nat} {scalar : Option Scalar}
  {index : Nat}

theorem capacity_reports : Reports (capacity which read scalar) (capacityFaults which read scalar) := by
  cases scalar with
  | none => exact reports_ok 0
  | some value =>
      cases parsed : read value.toText with
      | ok amount =>
          simp only [capacity, capacityFaults, parsed]
          exact reports_ok amount
      | error cause =>
          simp only [capacity, capacityFaults, parsed]
          exact reports_error _

theorem sized_of_capacity {scale : Quantity.CapacityUnit → Nat → Nat} {amount : Nat}
    (exactly : ∀ text capacity, read text = .ok capacity ↔ ∃ amount unit,
      Quantity.capacity? text = some (amount, unit) ∧ capacity = scale unit amount ∧
        capacity < Text.wordLimit)
    (checked : capacity which read scalar = .ok amount) :
    Sized scale scalar amount ∧ amount < Text.wordLimit := by
  cases scalar with
  | none =>
      cases checked
      exact ⟨.absent, by decide⟩
  | some value =>
      cases parsed : read value.toText with
      | error cause => simp [capacity, parsed] at checked
      | ok given =>
          obtain ⟨written, unit, spelled, rfl, fits⟩ := (exactly _ _).mp parsed
          simp only [capacity, parsed, Except.ok.injEq] at checked
          subst checked
          exact ⟨.given spelled, fits⟩

theorem DocumentQuestion.toQuestion_reports (question : DocumentQuestion) :
    Reports question.toQuestion question.faults := by
  unfold DocumentQuestion.toQuestion DocumentQuestion.faults
  simp only [Text.isEmpty_trimmed]
  exact (reports_guarded _).behind_refusal

theorem DocumentQuestion.gives_of_toQuestion {written : DocumentQuestion} {question : Question}
    (checked : written.toQuestion = .ok question) : written.Gives question := by
  simp only [DocumentQuestion.toQuestion] at checked
  split at checked
  · cases checked
  · split at checked
    · cases checked
    · cases checked
      exact ⟨rfl, rfl, rfl, rfl, rfl, rfl⟩

theorem readSleep_reports {name : String} :
    Reports (readSleep index name scalar) (sleepFaults index name scalar) := by
  cases scalar with
  | none => exact reports_ok none
  | some value =>
      cases parsed : Quantity.parseDuration value.toText with
      | ok seconds =>
          simp only [readSleep, sleepFaults, parsed]
          exact reports_ok _
      | error cause =>
          simp only [readSleep, sleepFaults, parsed]
          exact reports_error _

theorem paused_of_readSleep {name : String} {time : Option Nat}
    (checked : readSleep index name scalar = .ok time) : Paused scalar time := by
  cases scalar with
  | none =>
      cases checked
      exact .absent
  | some value =>
      cases parsed : Quantity.parseDuration value.toText with
      | ok seconds =>
          simp only [readSleep, parsed, Except.ok.injEq] at checked
          subst checked
          exact .given parsed
      | error cause => simp [readSleep, parsed] at checked

theorem DocumentStep.givenTerminal_autoAnswers (step : DocumentStep) :
    step.givenTerminal.autoAnswers = step.answers.map (·.toAnswer) := by
  unfold givenTerminal answers
  cases step.terminal with
  | none => rfl
  | some terminal => cases terminal <;> rfl

theorem DocumentStep.givenTerminal_enabled_iff (step : DocumentStep) :
    step.givenTerminal.enabled = true ↔
      step.terminal = some (.flag true) ∨ ∃ answers, step.terminal = some (.scripted answers) := by
  unfold givenTerminal
  cases step.terminal with
  | none => simp [Terminal.off]
  | some terminal => cases terminal <;> simp [DocumentTerminal.toTerminal]

theorem DocumentStep.toStep_reports (step : DocumentStep) (index : Nat) :
    Reports (step.toStep index) (step.faults index) := by
  have scripted : (!step.givenTerminal.autoAnswers.isEmpty && Text.isBlankText step.run) = true ↔
      step.answers ≠ [] ∧ Text.isBlankText step.run = true := by
    simp [givenTerminal_autoAnswers]
  unfold toStep faults
  simp only [scripted]
  exact readSleep_reports.bind fun sleep _ => reports_guarded _

theorem DocumentStep.gives_of_toStep {written : DocumentStep} {step : Step}
    (checked : written.toStep index = .ok step) : written.Gives step := by
  obtain ⟨sleep, rests, checked⟩ := bind_eq_ok_iff.mp checked
  obtain ⟨rfl, -⟩ := guarded_eq_ok_iff.mp checked
  exact {
    name := rfl
    condition := rfl
    run := rfl
    sleep := paused_of_readSleep rests
    log := rfl
    enabled := written.givenTerminal_enabled_iff
    autoAnswers := written.givenTerminal_autoAnswers }

theorem stepsFrom_eq (steps : List DocumentStep) :
    stepsFrom index steps = (steps.zipIdx index).mapM fun (step, place) => step.toStep place := by
  induction steps generalizing index with
  | nil => rfl
  | cons step steps ih =>
      rw [List.zipIdx_cons, List.mapM_cons, ← ih]
      rfl

theorem stepsFrom_reports (steps : List DocumentStep) :
    Reports (stepsFrom index steps)
      ((steps.zipIdx index).flatMap fun (step, place) => step.faults place) := by
  rw [stepsFrom_eq]
  exact Reports.mapM fun (step, place) _ => step.toStep_reports place

theorem gives_of_stepsFrom {written : List DocumentStep} {steps : List Step}
    (checked : stepsFrom index written = .ok steps) :
    List.Forall₂ DocumentStep.Gives written steps := by
  induction written generalizing index steps with
  | nil =>
      cases checked
      exact .nil
  | cons first written ih =>
      obtain ⟨step, begins, checked⟩ := bind_eq_ok_iff.mp checked
      obtain ⟨others, later, checked⟩ := bind_eq_ok_iff.mp checked
      cases checked
      exact .cons (DocumentStep.gives_of_toStep begins) (ih later)

theorem Document.toSpec_reports (document : Document) : Reports document.toSpec document.faults := by
  unfold toSpec faults
  simp only [Text.isEmpty_trimmed]
  apply Reports.behind_refusal
  apply capacity_reports.bind
  intro ramMb _
  apply capacity_reports.bind
  intro diskGb _
  apply (Reports.mapM fun question _ => question.toQuestion_reports).bind
  intro questions _
  rw [← List.append_nil (List.flatMap _ document.steps.zipIdx)]
  apply (stepsFrom_reports document.steps).bind
  intro steps _
  exact reports_ok _

theorem Document.gives_of_toSpec {document : Document} {spec : Spec}
    (accepted : document.toSpec = .ok spec) : document.Gives spec ∧
      spec.requirement.ramMb < Text.wordLimit ∧ spec.requirement.diskGb < Text.wordLimit := by
  simp only [toSpec] at accepted
  split at accepted
  · cases accepted
  · obtain ⟨ramMb, ram, accepted⟩ := bind_eq_ok_iff.mp accepted
    obtain ⟨diskGb, disk, accepted⟩ := bind_eq_ok_iff.mp accepted
    obtain ⟨questions, asked, accepted⟩ := bind_eq_ok_iff.mp accepted
    obtain ⟨steps, done, accepted⟩ := bind_eq_ok_iff.mp accepted
    cases accepted
    obtain ⟨ram, ramFits⟩ := sized_of_capacity (fun _ _ => Quantity.parseMegabytes_eq_ok_iff) ram
    obtain ⟨disk, diskFits⟩ := sized_of_capacity (fun _ _ => Quantity.parseGigabytes_eq_ok_iff) disk
    refine ⟨?_, ramFits, diskFits⟩
    exact {
      app := rfl
      description := rfl
      domainHint := rfl
      cpu := rfl
      ram := ram
      disk := disk
      records := rfl
      dnsPolicy := rfl
      questions := (mapM_eq_ok_iff.mp asked).imp fun _ _ => DocumentQuestion.gives_of_toQuestion
      steps := gives_of_stepsFrom done }

theorem Document.toSpec_eq_ok_iff {document : Document} {spec : Spec} :
    document.toSpec = .ok spec ↔ document.faults = [] ∧ document.Gives spec := by
  have verdict := document.toSpec_reports.succeeds_iff
  constructor
  · intro accepted
    exact ⟨verdict.mp ⟨spec, accepted⟩, (gives_of_toSpec accepted).1⟩
  · intro ⟨faultless, gives⟩
    obtain ⟨other, accepted⟩ := verdict.mpr faultless
    rw [accepted, gives.unique (gives_of_toSpec accepted).1]

end Checking

end Rollout.Installer
