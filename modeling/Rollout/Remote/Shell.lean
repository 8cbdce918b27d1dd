import Rollout.Progress.Line
import Rollout.Text.ShellWord

namespace Rollout.Remote

/-! Commands on a remote machine, and what comes back from them. -/

inductive Error where
  | spawn (program reason : String)
  | missingStream (stream : String)
  | broken (reason : String)
deriving Repr, DecidableEq

def Error.message : Error → String
  | .spawn program reason => s!"failed to spawn {program}: {reason}"
  | .missingStream stream => s!"remote session is missing its {stream} stream"
  | .broken reason => s!"remote session failed: {reason}"

/-- What a command printed, and its exit code unless it was killed. -/
structure Output where
  code : Option Int
  stdout : String
  stderr : String
deriving Repr, DecidableEq

def Output.isSuccess (output : Output) : Bool := output.code = some 0

def Output.silent : Output := { code := some 0, stdout := "", stderr := "" }

/-- The command that runs a script and stops at its first failure.  The script is
quoted as one word of the outer shell. -/
def stepCommand (script : String) : String :=
  "bash -lc " ++ String.ofList (Text.ShellWord.quote ("set -e\n" ++ script).toList)

end Rollout.Remote
