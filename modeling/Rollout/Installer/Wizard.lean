import Rollout.Installer.Spec
import Std.Data.ExtTreeMap

namespace Rollout.Installer

/-! Answering the questions of a document.

Questions are taken in order; one without an answer takes its default.  The
first required question that is left without any answer ends the matter.
-/

abbrev Answers := Std.ExtTreeMap String String

structure MissingAnswer where
  id : String
  name : String
deriving Repr, DecidableEq

def MissingAnswer.message (missing : MissingAnswer) : String :=
  "missing answer for required question '" ++ missing.id ++ "' (" ++ missing.name ++ ")"

def isAnswered (answers : Answers) (id : String) : Bool :=
  answers[id]?.any (!Text.isBlankText ·)

/-- Fills in the defaults of the questions in order.  The answers come back also
when one is missing, with the defaults before it filled in. -/
def fillDefaults : List Question → Answers → Answers × Option MissingAnswer
  | [], answers => (answers, none)
  | question :: questions, answers =>
      if isAnswered answers question.id then fillDefaults questions answers
      else match question.defaultAnswer with
        | some value => fillDefaults questions (answers.insert question.id value)
        | none =>
            if question.required then
              (answers, some { id := question.id, name := question.name })
            else fillDefaults questions answers

def Spec.withDefaults (spec : Spec) (answers : Answers) : Answers × Option MissingAnswer :=
  fillDefaults spec.questions answers

end Rollout.Installer
