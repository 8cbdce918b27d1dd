import Rollout.Text.Blank

namespace Rollout

/-! What an installer document says about one application: the server it needs,
its DNS records, the questions that a caller may answer, and the steps that
install it.  Times are in milliseconds.
-/

/-- The least that a server must have. -/
structure Requirement where
  cpu : Nat
  ramMb : Nat
  diskGb : Nat
deriving Repr, DecidableEq

namespace Installer

inductive DnsPolicy where
  | providerMatch
  | always
  | never
deriving Repr, DecidableEq

structure RecordTemplate where
  recordType : String
  name : String
  content : String
  ttl : Nat
  proxied : Option Bool
deriving Repr, DecidableEq

inductive QuestionKind where
  | boolean
  | text
  | choice
deriving Repr, DecidableEq

structure Choice where
  name : String
  preselected : Bool
deriving Repr, DecidableEq

structure Question where
  id : String
  name : String
  kind : QuestionKind
  required : Bool
  default : Option String
  choices : List Choice
deriving Repr, DecidableEq

/-- The answer to use when none is given.  A preselected choice goes before the
default of the question. -/
def Question.defaultAnswer (question : Question) : Option String :=
  let preselected :=
    if question.kind = .choice then question.choices.find? (·.preselected) else none
  match preselected with
  | some choice => some choice.name
  | none => question.default

/-- Keystrokes for a step that asks: what to type, and what to wait for first. -/
structure AutoAnswer where
  value : String
  waitFor : Option String
  isRegex : Bool
  timeout : Nat
  delay : Nat
deriving Repr, DecidableEq

structure Terminal where
  enabled : Bool
  autoAnswers : List AutoAnswer
deriving Repr, DecidableEq

def Terminal.off : Terminal := { enabled := false, autoAnswers := [] }

structure Step where
  name : String
  condition : String
  run : String
  sleep : Option Nat
  log : String
  terminal : Terminal
deriving Repr, DecidableEq

/-- Steps without a guard install the application, guarded ones set up TLS. -/
inductive Phase where
  | install
  | ssl
deriving Repr, DecidableEq

def Phase.name : Phase → String
  | .install => "install"
  | .ssl => "ssl"

def Step.phase (step : Step) : Phase :=
  if Text.isBlankText step.condition then .install else .ssl

structure Spec where
  app : String
  description : String
  requirement : Requirement
  domainHint : String
  records : List RecordTemplate
  dnsPolicy : DnsPolicy
  questions : List Question
  steps : List Step
deriving Repr, DecidableEq

def Spec.stepsIn (spec : Spec) (phase : Phase) : List Step :=
  spec.steps.filter (·.phase = phase)

end Installer

end Rollout
