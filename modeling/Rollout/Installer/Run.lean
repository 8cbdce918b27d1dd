import Rollout.Procedure
import Rollout.Regex.Reader
import Rollout.Terminal.Session

namespace Rollout.Installer

/-! Running the steps of a phase on a machine.

The steps of the phase run in declared order, and the first that fails ends the
phase.  What a machine does with a command is left open: the steps are a
procedure that asks for each command to be run.
-/

inductive Action where
  | emit (line : Progress.Line)
  | pause (time : Nat)
  | command (text : String)
  | terminal (command : String) (answers : List Terminal.Answer)

abbrev Action.Result : Action → Type
  | .emit _ => Unit
  | .pause _ => Unit
  | .command _ => Except Remote.Error Remote.Output
  | .terminal .. => Terminal.Reply

inductive StepError where
  | commandFailed (step status stderr : String)
  | terminalFailed (step status : String)
  | unreachable (step : String) (cause : Remote.Error)
  | terminalLost (step : String) (cause : Terminal.Error)
deriving Repr, DecidableEq

def StepError.message : StepError → String
  | .commandFailed step status stderr => s!"step '{step}' exited with status {status}: {stderr}"
  | .terminalFailed step status => s!"interactive step '{step}' exited with status {status}"
  | .unreachable step cause => s!"step '{step}' could not run: {cause.message}"
  | .terminalLost step cause => s!"step '{step}' lost its terminal: {cause.message}"

abbrev Steps := ExceptT StepError (Procedure Action Action.Result)

def ask (action : Action) : Steps action.Result :=
  ExceptT.lift (Procedure.query action)

def say (text : String) : Steps Unit := ask (.emit (.plain text))

def statusText : Option Int → String
  | some code => toString code
  | none => "unknown"

/-- A step without a name is known by its place in the document. -/
def Step.label (step : Step) (index : Nat) : String :=
  if Text.isBlankText step.name then s!"#{index + 1}" else step.name

def shownLines (text : String) : List (List Char) :=
  (Text.lines text.toList).filter fun line => !line.all Text.isBlank

def stderrTail (stderr : String) : String :=
  let lines := shownLines stderr
  String.ofList (List.intercalate ['\n'] (lines.drop (lines.length - 5)))

def relay (output : Remote.Output) : Steps Unit :=
  (shownLines output.stdout ++ shownLines output.stderr).forM fun line => say (String.ofList line)

def runCommand (label command : String) : Steps Unit := do
  match ← ask (.command command) with
  | .error cause => throw (.unreachable label cause)
  | .ok output =>
      relay output
      if output.isSuccess then pure ()
      else throw (.commandFailed label (statusText output.code) (stderrTail output.stderr))

def runTerminal (label command : String) (answers : List Terminal.Answer) :
    Steps Unit := do
  match ← ask (.terminal command answers) with
  | .unopened cause => throw (.terminalLost label (.opening cause))
  | .ran transcript result =>
      transcript.lines.forM fun line => ask (.emit line)
      match result with
      | .error cause => throw (.terminalLost label cause)
      | .ok code => if code = some 0 then pure () else throw (.terminalFailed label (statusText code))

def Step.remarks (step : Step) (context : Template.Context) : List String :=
  (if Text.isBlankText step.name then [] else [s!"==> {step.name}"]) ++
    if step.log.isEmpty then [] else [context.render step.log]

def Step.rest (step : Step) : Steps Unit :=
  match step.sleep with
  | some (time + 1) => do
      say s!"waiting {(time + 1) / 1000}s"
      ask (.pause (time + 1))
  | _ => pure ()

def Step.carryOut (step : Step) (index : Nat) (context : Template.Context) : Steps Unit :=
  if Text.isBlankText step.run then pure ()
  else
    let command := Remote.stepCommand (context.render step.run)
    if step.terminal.enabled then
      runTerminal (step.label index) command
        (step.terminal.autoAnswers.map (.of Regex.Pattern.compile? context))
    else runCommand (step.label index) command

def Step.perform (step : Step) (index : Nat) (context : Template.Context) : Steps Unit := do
  (step.remarks context).forM say
  step.rest
  step.carryOut index context

/-- Whether a step is to run in a phase.  Only the steps of the TLS phase have a
guard. -/
def Step.runsIn (step : Step) (phase : Phase) (context : Template.Context) : Bool :=
  step.phase = phase && (phase = .install || context.evaluate step.condition)

def runSteps (phase : Phase) (context : Template.Context) (index : Nat) :
    List Step → Steps Nat
  | [] => pure 0
  | step :: rest =>
      if step.runsIn phase context then do
        step.perform index context
        let count ← runSteps phase context (index + 1) rest
        pure (count + 1)
      else runSteps phase context (index + 1) rest

def Spec.runPhase (spec : Spec) (phase : Phase) (context : Template.Context) : Steps Nat :=
  runSteps phase context 0 spec.steps

end Rollout.Installer
