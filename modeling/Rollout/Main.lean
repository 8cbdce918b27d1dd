import Rollout.CommandLine.Run
import Rollout.Progress.Stream

namespace Rollout.Console

/-! The program itself: it reads the environment and the files of a command, runs the
command, and prints.  It reaches no network and starts no other program; commands
that ask for that learn so from the answer. -/

def readPath (tree : Files.Tree) (path : String) : IO Files.Tree := do
  let working ← IO.currentDir
  let place := working / path
  let location := Files.locate (tree.working.getD []) path
  if ← place.isDir then
    let tree := { tree with directories := location :: tree.directories }
    (← place.readDir).foldlM (fun tree entry => do
      if ← entry.path.isDir then pure tree
      else pure (tree.place location entry.fileName (← IO.FS.readBinFile entry.path).toList)) tree
  else if ← place.pathExists then
    pure { tree with files := (location, (← IO.FS.readBinFile place).toList) :: tree.files }
  else pure tree

def readSetting (arguments : List String) : IO CommandLine.Setting := do
  let environment ← CommandLine.variableNames.filterMapM fun name => do
    pure ((← IO.getEnv name).map (name, ·))
  let working := Files.names (toString (← IO.currentDir))
  let tree := { Files.Tree.empty with directories := [working], working := some working }
  let files ← (Configuration.candidates environment).foldlM readPath tree
  let setting : CommandLine.Setting := { environment, files }
  pure { setting with files := ← (setting.paths arguments).foldlM readPath files }

def printText (text : String) : IO Unit := do
  let output ← IO.getStdout
  output.putStr text
  output.flush

def printLine (text : String) : IO Unit :=
  printText (String.ofList (Progress.frame text.toList))

/-- Sleeps, and prints a keep-alive line whenever its interval has passed.  Every
sleep takes some of the time, so as many turns as there are milliseconds suffice. -/
def sleep (every : Option Nat) : (turns time : Nat) → IO Unit
  | 0, _ => pure ()
  | turns + 1, time => do
      let part := min time (min (max (every.getD time) 1) 1000000)
      IO.sleep part.toUInt32
      if time > part then
        if every.isSome then printLine Progress.Stream.keepAliveLine
        sleep every turns (time - part)

def hexDigits (bytes : List UInt8) : String :=
  String.ofList (bytes.flatMap fun byte =>
    [Nat.digitChar (byte.toNat / 16), Nat.digitChar (byte.toNat % 16)])

def reply (every : Option Nat) :
    (action : Deployment.Live.Action) → IO (action.Result × Option Nat)
  | .emit line => do pure (← printLine line.text, every)
  | .network (.send _) => pure (.error "the network is not reached from here", every)
  | .network (.pause time) => do pure (← sleep every time time, every)
  | .network .now => do pure (← IO.monoMsNow, every)
  | .nameSuffix => do pure (hexDigits (← IO.getRandomBytes 4).toList, every)
  | .dial _ _ _ => pure ({ isConnected := false, time := 0, time_le := Nat.zero_le _ }, every)
  | .execute program _ =>
      pure (.error (.spawn program "programs are not started from here"), every)
  | .terminal program _ _ =>
      pure (.unopened (.spawn program "programs are not started from here"), every)
  | .keepAlive next => pure ((), next)
  | .halt => throw (IO.userError "a moment is out of the range of the clock")

def perform {α : Type} (every : Option Nat) : Deployment.Live α → IO α
  | .done value => pure value
  | .ask action next => do
      let (answer, every) ← reply every action
      perform every (next answer)

end Rollout.Console

open Rollout.Console in
def main (arguments : List String) : IO UInt32 := do
  let exit ← perform none (Rollout.CommandLine.run (← readSetting arguments) arguments)
  printText exit.output
  (← IO.getStderr).putStr exit.errors
  pure exit.code.toUInt32
