import Rollout.Quantity

namespace Rollout.Installer

/-! Why a document is refused. -/

inductive StepFault where
  | sleep (cause : Quantity.Error)
  | answersWithoutRun
deriving Repr, DecidableEq

def StepFault.message : StepFault → String
  | .sleep cause => cause.message
  | .answersWithoutRun => "auto_answer requires a run command"

inductive QuestionFault where
  | missingId
  | noChoices
deriving Repr, DecidableEq

def QuestionFault.message : QuestionFault → String
  | .missingId => "missing id"
  | .noChoices => "choice question without choices"

inductive Capacity where
  | ram
  | disk
deriving Repr, DecidableEq

def Capacity.name : Capacity → String
  | .ram => "ram"
  | .disk => "disk"

inductive DocumentError where
  | malformed
  | missingApp
  | invalidSize (capacity : Capacity) (cause : Quantity.Error)
  | invalidStep (index : Nat) (name : String) (fault : StepFault)
  | invalidQuestion (id : String) (fault : QuestionFault)
deriving Repr, DecidableEq

/-- A malformed document is not described further than by `<detail>`. -/
def DocumentError.message : DocumentError → String
  | .malformed => "failed to parse installer document: <detail>"
  | .missingApp => "installer document is missing 'app'"
  | .invalidSize capacity cause => "invalid min_spec." ++ capacity.name ++ ": " ++ cause.message
  | .invalidStep index name fault =>
      "step " ++ toString index ++ " ('" ++ name ++ "') is invalid: " ++ fault.message
  | .invalidQuestion id fault => "wizard question '" ++ id ++ "' is invalid: " ++ fault.message

end Rollout.Installer
