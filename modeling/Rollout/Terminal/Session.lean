import Rollout.Progress.Line
import Rollout.Remote.Shell
import Rollout.Terminal.Automation
import Rollout.Terminal.Sessions

namespace Rollout.Terminal

/-! A terminal session, event by event.

The events say what the surroundings do: the terminal opens or fails to, a read gives bytes
or the end of a stream or fails, the program exits, the clock moves on, an input handle is let
to the automation, takes bytes, has flushed them or refuses, operators use the directory of
sessions, or the session is abandoned.
`step` says what the session makes of each of them, so a run is a fold over any sequence
of events, in whatever order readers, automation and operators come to act.

The automation is a task of its own.  The end of the session calls it off, but it goes on until
it is dropped, so an answer in flight may still be typed after the id was taken out.
-/

inductive Error where
  | opening (cause : Remote.Error)
  | reading (reason : String)
  | exiting (cause : Remote.Error)
deriving Repr, DecidableEq

def Error.message : Error → String
  | .opening cause => s!"failed to open terminal: {cause.message}"
  | .reading reason => s!"failed to read terminal output: {reason}"
  | .exiting cause => s!"terminal session failed: {cause.message}"

inductive Source where
  | stdout
  | stderr
deriving Repr, DecidableEq

inductive Event where
  | opened (outcome : Except Remote.Error Handle)
  | clock (time : Nat)
  /-- What a read gives: bytes, or none at the end of the stream. -/
  | read (source : Source) (outcome : Except String (List UInt8))
  | exited (outcome : Except Remote.Error (Option Int))
  | answer
  /-- The handle that was found for an answer is free, and the automation holds it. -/
  | acquired
  | taken (count : Nat)
  | flushed
  | refused
  /-- The automation, which the end of the session has called off, is dropped. -/
  | dropped
  | operator (operation : Sessions.Operation)
  /-- The session goes on by itself. -/
  | proceed
  | abandoned

/-- A receiver of output beside the progress, by what it was given from each session. -/
structure Sink where
  chunks : List (String × List UInt8)
deriving Repr, DecidableEq

def Sink.take (sink : Sink) (id : String) (bytes : List UInt8) : Sink :=
  { chunks := sink.chunks ++ [(id, bytes)] }

inductive Session.Stage where
  | opening
  /-- No terminal was opened: it failed, or the session was abandoned before. -/
  | unopened (cause : Option Remote.Error)
  | registered
  | live
  /-- The id is closed, and the handle it was bound to is about to be shut down. -/
  | closing (handle : Option Nat)
  /-- The id is removed for good, and the end is about to be announced. -/
  | leaving
  | ended
deriving DecidableEq

def Session.Stage.isClosed : Stage → Bool
  | .closing _ | .leaving | .ended => true
  | _ => false

/-- A session has begun once it is live. -/
def Session.Stage.isBegun : Stage → Bool
  | .live | .closing _ | .leaving | .ended => true
  | .opening | .unopened _ | .registered => false

structure Session where
  id : String
  now : Nat
  answers : List Answer
  sessions : Sessions
  window : Window
  lines : List Progress.Line
  sinks : List Sink
  automation : Automation
  stdout : Option (Except Error Unit)
  stderr : Option (Except Error Unit)
  exit : Option (Except Error (Option Int))
  stage : Session.Stage

namespace Session

def start (sessions : Sessions) (id : String) (now : Nat) (answers : List Answer) : Session where
  id := id
  now := now
  answers := answers
  sessions := sessions
  window := .empty
  lines := []
  sinks := []
  automation := .stopped
  stdout := none
  stderr := none
  exit := none
  stage := .opening

def withSink (session : Session) (sink : Sink) : Session :=
  { session with sinks := session.sinks ++ [sink] }

def isOver (session : Session) : Bool :=
  match session.stage with
  | .unopened _ | .ended => true
  | _ => false

/-- The result once both streams and the program have ended.  A failure to read
counts before the exit. -/
def result? (session : Session) : Option (Except Error (Option Int)) :=
  match session.stage with
  | .unopened cause => cause.map fun cause => .error (.opening cause)
  | _ => do
      let stdout ← session.stdout
      let stderr ← session.stderr
      let exit ← session.exit
      some do
        stdout
        stderr
        exit

/-- A session is registered before it is announced and before any answer. -/
def register (session : Session) (handle : Handle) : Session :=
  { session with
    sessions := session.sessions.register session.id handle
    stage := .registered }

def announce (session : Session) : Session :=
  { session with
    lines := session.lines ++ [.sessionStarted session.id]
    automation := .start session.now session.answers
    stage := .live }

/-- Once nothing more is to come, the automation is called off and the id is taken out of the
directory.  Its handle is shut down later, as another task may hold it. -/
def settled (session : Session) : Session :=
  match session.result? with
  | some _ =>
      { session with
        sessions := (session.sessions.remove session.id).1
        stage := .closing session.sessions.bound[session.id]? }
  | none => session

/-- Whatever ends a session, its id is removed, once more if need be. -/
def leave (session : Session) : Session :=
  { session with
    sessions := (session.sessions.remove session.id).1
    stage := .leaving }

def shutDown (session : Session) (handle : Option Nat) : Session :=
  match handle with
  | some number =>
      let handles := session.sessions.handles.modify number (·.shutdown.1)
      { session with sessions := { session.sessions with handles } }
  | none => session

def announceEnd (session : Session) : Session :=
  { session with
    lines := session.lines ++ [.sessionEnded session.id]
    stage := .ended }

def read (session : Session) (bytes : List UInt8) : Session :=
  { session with
    window := session.window.append bytes
    lines := session.lines ++ [.terminalOutput bytes]
    sinks := session.sinks.map (·.take session.id bytes) }

def ending? (session : Session) : Source → Option (Except Error Unit)
  | .stdout => session.stdout
  | .stderr => session.stderr

def endStream (session : Session) (source : Source) (ending : Except Error Unit) : Session :=
  match source with
  | .stdout => settled { session with stdout := some ending }
  | .stderr => settled { session with stderr := some ending }

/-- A stream is read until a read fails or gives no bytes. -/
def pump (session : Session) (source : Source) (outcome : Except String (List UInt8)) : Session :=
  match session.ending? source, outcome with
  | some _, _ => session
  | none, .error reason => session.endStream source (.error (.reading reason))
  | none, .ok [] => session.endStream source (.ok ())
  | none, .ok bytes => session.read bytes

def exited (session : Session) (outcome : Except Remote.Error (Option Int)) : Session :=
  match session.exit with
  | some _ => session
  | none => settled { session with exit := some (outcome.mapError .exiting) }

/-- The handle of a closed id is shut down once the automation does not hold it. -/
def shutsDown (session : Session) (handle : Option Nat) : Bool :=
  !handle.any session.automation.holds

/-- Starts the next answer if its gate lets it through and the session can still
be found. -/
def beginAnswer (session : Session) : Session :=
  match session.automation with
  | .waiting since next later =>
      if next.gate.lets session.window (session.now - since) then
        match session.sessions.find? session.id with
        | some (handle, _) => { session with automation := .reaching handle next.keys later }
        | none => { session with automation := .stopped }
      else session
  | _ => session

def holdHandle (session : Session) : Session :=
  match session.automation with
  | .reaching handle keys later => { session with automation := .typing handle keys later }
  | _ => session

def typeKeys (session : Session) (count : Nat) : Session :=
  match session.automation with
  | .typing handle left later =>
      { session with
        sessions := session.sessions.deliver handle (left.take count)
        automation := .typing handle (left.drop count) later }
  | _ => session

/-- An answer is over once its handle has taken all of it and is flushed. -/
def finishAnswer (session : Session) : Session :=
  match session.automation with
  | .typing _ [] later => { session with automation := .start session.now later }
  | _ => session

def stopTyping (session : Session) : Session :=
  match session.automation with
  | .typing .. => { session with automation := .stopped }
  | _ => session

/-- Only the end of a session calls its automation off. -/
def dropAutomation (session : Session) : Session :=
  if session.stage.isClosed then { session with automation := .stopped } else session

/-- What the automation does, from the announcement of a session on until it is dropped. -/
def automate (session : Session) : Event → Session
  | .answer => session.beginAnswer
  | .acquired => session.holdHandle
  | .taken count => session.typeKeys count
  | .flushed => session.finishAnswer
  | .refused => session.stopTyping
  | .dropped => session.dropAutomation
  | _ => session

/-- Between its registration and its announcement, and while it leaves, a session cannot
be abandoned. -/
def step (session : Session) (event : Event) : Session :=
  match event, session.stage with
  | .clock time, _ => { session with now := max session.now time }
  | .operator operation, _ => { session with sessions := (session.sessions.apply operation).1 }
  | .opened (.ok handle), .opening => session.register handle
  | .opened (.error cause), .opening => { session with stage := .unopened (some cause) }
  | .abandoned, .opening => { session with stage := .unopened none }
  | .proceed, .registered => session.announce
  | .read source outcome, .live => session.pump source outcome
  | .exited outcome, .live => session.exited outcome
  | .abandoned, .live => session.leave
  | .abandoned, .closing _ => session.leave
  | .proceed, .closing handle =>
      if session.shutsDown handle then (session.shutDown handle).leave else session
  | .proceed, .leaving => session.announceEnd
  | event, stage => if stage.isBegun then session.automate event else session

def run (session : Session) (events : List Event) : Session :=
  events.foldl step session

end Session

structure Transcript where
  id : String
  chunks : List (List UInt8)
deriving Repr, DecidableEq

def Transcript.lines (transcript : Transcript) : List Progress.Line :=
  .sessionStarted transcript.id :: transcript.chunks.map .terminalOutput ++
    [.sessionEnded transcript.id]

def Session.transcript (session : Session) : Transcript :=
  { id := session.id
    chunks := session.lines.filterMap fun
      | .terminalOutput bytes => some bytes
      | _ => none }

inductive Reply where
  | unopened (cause : Remote.Error)
  | ran (transcript : Transcript) (result : Except Error (Option Int))

end Rollout.Terminal
