import Rollout.Installer.Error
import Rollout.Installer.Spec
import Rollout.Yaml.Shape

namespace Rollout.Installer

/-! Installer documents as they are written, and the specifications they give.

`Document.ofText?` reads the YAML; `Document.toSpec` checks what was read, in the
order application name, memory, disk, questions, steps, and reports the first
fault.
-/

/-- A value that may be written as a truth value, a number or a text. -/
inductive Scalar where
  | bool (value : Bool)
  | whole (value : Nat)
  | text (value : String)
deriving Repr, DecidableEq

def Scalar.toText : Scalar → String
  | .bool true => "true"
  | .bool false => "false"
  | .whole value => toString value
  | .text value => value

def Scalar.ofValue? : Yaml.Value → Option Scalar
  | .bool value => some (.bool value)
  | .whole (.ofNat value) => some (.whole value)
  | .text value => some (.text value)
  | _ => none

def Scalar.ofNode? (node : Yaml.Node) : Option Scalar :=
  (Yaml.Value.ofNode? node).bind Scalar.ofValue?

structure DocumentAnswer where
  value : Scalar
  waitFor : Option String
  isRegex : Bool
  timeoutMs : Option Nat
  delayMs : Option Nat
deriving Repr, DecidableEq

inductive DocumentTerminal where
  | flag (value : Bool)
  | scripted (answers : List DocumentAnswer)
deriving Repr, DecidableEq

structure DocumentStep where
  name : String
  condition : String
  run : String
  terminal : Option DocumentTerminal
  sleep : Option Scalar
  log : String
deriving Repr, DecidableEq

structure DocumentQuestion where
  id : String
  name : String
  kind : QuestionKind
  required : Bool
  default : Option Scalar
  choices : List Choice
deriving Repr, DecidableEq

structure Document where
  app : String
  description : String
  domainHint : String
  cpu : Option Nat
  ram : Option Scalar
  disk : Option Scalar
  dnsPolicy : DnsPolicy
  records : List RecordTemplate
  questions : List DocumentQuestion
  steps : List DocumentStep
deriving Repr, DecidableEq

section Reading

open Yaml

private def answerOfItems? : List Value → Option DocumentAnswer
  | [value, waitFor, isRegex, timeoutMs, delayMs] => do
      some
        { value := ← Scalar.ofValue? value
          waitFor := ← waitFor.optional? Value.text?
          isRegex := ← isRegex.bool?
          timeoutMs := ← timeoutMs.optional? (Value.below? Text.wordLimit)
          delayMs := ← delayMs.optional? (Value.below? Text.wordLimit) }
  | _ => none

private def answer? : Value → Option DocumentAnswer
  | .sequence items => answerOfItems? items
  | value => do
      let fields ← value.fields? ["value", "wait_for", "wait_for_regex", "timeout_ms", "delay_ms"]
      let get? (name : String) : Option Value := (fields.find? (·.1 == name)).map (·.2)
      let optional {α} (name : String) (read : Value → Option α) : Option (Option α) :=
        ((get? name).getD .null).optional? read
      some
        { value := ← (get? "value").bind Scalar.ofValue?
          waitFor := ← optional "wait_for" Value.text?
          isRegex := ← ((get? "wait_for_regex").getD (.bool false)).bool?
          timeoutMs := ← optional "timeout_ms" (Value.below? Text.wordLimit)
          delayMs := ← optional "delay_ms" (Value.below? Text.wordLimit) }

private def terminal? (node : Node) : Option DocumentTerminal := do
  match ← Value.ofNode? node with
  | .bool value => some (.flag value)
  | value =>
      let fields ← value.fields? ["auto_answer"]
      match fields.head? with
      | some (_, answers) => do some (.scripted (← (← answers.items?).mapM answer?))
      | none => some (.scripted [])

private def step? (node : Node) : Option DocumentStep := do
  let fields ← node.fields? ["name", "if", "run", "tty", "sleep", "log"]
  some
    { name := ← fields.default? "name" "" Node.text?
      condition := ← fields.default? "if" "" Node.text?
      run := ← fields.default? "run" "" Node.text?
      terminal := ← fields.optional? "tty" terminal?
      sleep := ← fields.optional? "sleep" Scalar.ofNode?
      log := ← fields.default? "log" "" Node.text? }

private def choice? (node : Node) : Option Choice := do
  let fields ← node.fields? ["name", "default"]
  some
    { name := ← fields.required? "name" Node.text?
      preselected := ← fields.default? "default" false Node.bool? }

private def question? (node : Node) : Option DocumentQuestion := do
  let fields ← node.fields? ["id", "name", "type", "required", "default", "choices"]
  let kinds := [("boolean", QuestionKind.boolean), ("text", .text), ("choice", .choice)]
  some
    { id := ← fields.default? "id" "" Node.text?
      name := ← fields.default? "name" "" Node.text?
      kind := ← fields.required? "type" (Node.choice? kinds)
      required := ← fields.default? "required" false Node.bool?
      default := ← fields.optional? "default" Scalar.ofNode?
      choices := ← fields.default? "choices" [] (Node.list? choice?) }

private def record? (node : Node) : Option RecordTemplate := do
  let fields ← node.fields? ["type", "name", "content", "ttl", "proxied"]
  some
    { recordType := ← fields.required? "type" Node.text?
      name := ← fields.default? "name" "" Node.text?
      content := ← fields.default? "content" "" Node.text?
      ttl := ← fields.default? "ttl" 0 (Node.below? Text.smallWordLimit)
      proxied := ← fields.optional? "proxied" Node.bool? }

private def nested? : List String → Node → Option (Option Node)
  | [], node => some (some node)
  | name :: names, node => do
      let fields ← node.fields? [name]
      match fields.get? name with
      | some inner => nested? names inner
      | none => some none

def Document.ofNode? (node : Node) : Option Document := do
  let fields ← node.fields?
    ["app", "description", "domain_hint", "min_spec", "dns", "wizard", "steps"]
  let minSpec : Fields ← fields.default? "min_spec" ([] : Fields) (Node.fields? ["cpu", "ram", "disk"])
  let dns : Fields ← fields.default? "dns" ([] : Fields) (Node.fields? ["auto", "records"])
  let policies :=
    [("provider_match", DnsPolicy.providerMatch), ("always", .always), ("never", .never)]
  let questions ← fields.default? "wizard" none
    (nested? ["steps", "application", "custom_questions"])
  some
    { app := ← fields.default? "app" "" Node.text?
      description := ← fields.default? "description" "" Node.text?
      domainHint := ← fields.default? "domain_hint" "" Node.text?
      cpu := ← minSpec.optional? "cpu" (Node.below? Text.smallWordLimit)
      ram := ← minSpec.optional? "ram" Scalar.ofNode?
      disk := ← minSpec.optional? "disk" Scalar.ofNode?
      dnsPolicy := ← dns.default? "auto" .providerMatch (Node.choice? policies)
      records := ← dns.default? "records" [] (Node.list? record?)
      questions := ← (questions.map (Node.list? question?)).getD (some [])
      steps := ← fields.default? "steps" [] (Node.list? step?) }

/-- Reads a text that holds one document; an empty text holds an empty one. -/
def Document.ofText? (text : String) : Option Document :=
  match Node.documents? text with
  | some [] => Document.ofNode? Node.blank
  | some [node] => Document.ofNode? node
  | _ => none

end Reading

def defaultTimeout : Nat := 600000

def defaultDelay : Nat := 350

def trimmedUpper (text : String) : String :=
  Text.upper (Text.trimmed text)

def DocumentAnswer.toAnswer (answer : DocumentAnswer) : AutoAnswer :=
  { value := answer.value.toText
    waitFor := answer.waitFor.filter (!·.isEmpty)
    isRegex := answer.isRegex
    timeout := (answer.timeoutMs.filter (0 < ·)).getD defaultTimeout
    delay := answer.delayMs.getD defaultDelay }

def DocumentTerminal.toTerminal : DocumentTerminal → Terminal
  | .flag value => { enabled := value, autoAnswers := [] }
  | .scripted answers => { enabled := true, autoAnswers := answers.map (·.toAnswer) }

/-- The terminal of a step; without a mention there is none. -/
def DocumentStep.givenTerminal (step : DocumentStep) : Terminal :=
  (step.terminal.map (·.toTerminal)).getD .off

/-- Reads the pause of a step, which is written in seconds. -/
def readSleep (index : Nat) (name : String) : Option Scalar → Except DocumentError (Option Nat)
  | none => .ok none
  | some value =>
      match Quantity.parseDuration value.toText with
      | .ok seconds => .ok (some (seconds * 1000))
      | .error cause => .error (.invalidStep index name (.sleep cause))

def DocumentStep.toStep (step : DocumentStep) (index : Nat) : Except DocumentError Step := do
  let sleep ← readSleep index step.name step.sleep
  if !step.givenTerminal.autoAnswers.isEmpty && Text.isBlankText step.run then
    .error (.invalidStep index step.name .answersWithoutRun)
  else
    .ok
      { name := step.name
        condition := Text.trimmed step.condition
        run := step.run
        sleep
        log := step.log
        terminal := step.givenTerminal }

def DocumentQuestion.toQuestion (question : DocumentQuestion) : Except DocumentError Question :=
  let id := Text.trimmed question.id
  if id.isEmpty then .error (.invalidQuestion question.name .missingId)
  else if question.kind = .choice ∧ question.choices = [] then
    .error (.invalidQuestion id .noChoices)
  else
    .ok
      { id
        name := question.name
        kind := question.kind
        required := question.required
        default := question.default.map Scalar.toText
        choices := question.choices }

/-- Reads a capacity of the requirement; a missing one is zero. -/
def capacity (which : Capacity) (read : String → Except Quantity.Error Nat) :
    Option Scalar → Except DocumentError Nat
  | none => .ok 0
  | some value =>
      match read value.toText with
      | .ok amount => .ok amount
      | .error cause => .error (.invalidSize which cause)

def stepsFrom (index : Nat) : List DocumentStep → Except DocumentError (List Step)
  | [] => .ok []
  | step :: steps => do
      let first ← step.toStep index
      let others ← stepsFrom (index + 1) steps
      .ok (first :: others)

def Document.toSpec (document : Document) : Except DocumentError Spec := do
  let app := Text.trimmed document.app
  if app.isEmpty then .error .missingApp
  else
    let ramMb ← capacity .ram Quantity.parseMegabytes document.ram
    let diskGb ← capacity .disk Quantity.parseGigabytes document.disk
    let questions ← document.questions.mapM DocumentQuestion.toQuestion
    let steps ← stepsFrom 0 document.steps
    .ok
      { app
        description := document.description
        requirement := { cpu := document.cpu.getD 1, ramMb, diskGb }
        domainHint := document.domainHint
        records := document.records.map fun record =>
          { record with recordType := trimmedUpper record.recordType }
        dnsPolicy := document.dnsPolicy
        questions
        steps }

def Spec.ofText (text : String) : Except DocumentError Spec :=
  match Document.ofText? text with
  | some document => document.toSpec
  | none => .error .malformed

end Rollout.Installer
