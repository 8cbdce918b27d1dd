import Rollout.Installer.Run
import Rollout.Rehearsal.Program

namespace Rollout.Rehearsal

/-! A remote machine that answers commands from a script.

Outputs and terminal programs are used up in order; after that, commands succeed
in silence and terminal programs exit at once.
-/

abbrev Terminal := Except Remote.Error Program

structure Shell where
  outputs : List (Except Remote.Error Remote.Output)
  terminals : List Terminal
  commands : List String
  typed : List String
  lines : List Progress.Line
  sessions : Terminal.Sessions
  count : Nat
  now : Nat

namespace Shell

def ofScript (outputs : List (Except Remote.Error Remote.Output)) (terminals : List Terminal) :
    Shell where
  outputs := outputs
  terminals := terminals
  commands := []
  typed := []
  lines := []
  sessions := .empty
  count := 0
  now := 0

/-- The keyboard of a scripted program takes all that the play hands to it. -/
def keyboard : Terminal.Handle where
  calls := []
  received := []
  isShut := false
  reception _ bytes := .ok bytes.length
  flushing _ := .ok ()
  shutting _ := .ok ()

def play? (shell : Shell) (program : Program) (answers : List Terminal.Answer)
    (entries : List Entry) : Option Play :=
  let id := s!"<session-{shell.count + 1}>"
  let opening := Terminal.Session.start shell.sessions id shell.now answers
  (Play.start (opening.run [.opened (.ok keyboard), .proceed]) program entries).finish?

private def takeFirst {α : Type} (fallback : α) : List α → α × List α
  | [] => (fallback, [])
  | first :: rest => (first, rest)

/-- Does what a step asks for; nothing if a terminal session would never end. -/
def reply? (shell : Shell) : (action : Installer.Action) → Option (action.Result × Shell)
  | .emit line => some ((), { shell with lines := shell.lines ++ [line] })
  | .pause time => some ((), { shell with now := shell.now + time })
  | .command text =>
      let (output, outputs) := takeFirst (.ok .silent) shell.outputs
      some (output, { shell with outputs, commands := shell.commands ++ [text] })
  | .terminal command answers => do
      let (terminal, terminals) := takeFirst (.ok .silent) shell.terminals
      let shell := { shell with terminals, commands := shell.commands ++ [command] }
      match terminal with
      | .error cause => some (.unopened cause, shell)
      | .ok program =>
          let play ← shell.play? program answers []
          let result ← play.session.result?
          some (.ran play.session.transcript result,
            { shell with
              typed := shell.typed ++ play.typed
              sessions := play.session.sessions
              count := shell.count + 1
              now := play.now })

end Shell

end Rollout.Rehearsal
