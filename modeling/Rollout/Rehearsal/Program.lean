import Rollout.Terminal.Session
import Rollout.Text.Utf8

namespace Rollout.Rehearsal

/-! A terminal session played against a scripted program.

The program prints, reads lines, pauses and may close its input.  Its screen and
its keyboard hold a bounded number of bytes.  At every instant the program, the
readers of its output, the automation and the operator act in turn until none of
them can go on; then the clock jumps to the next time somebody waits for.
-/

inductive Instruction where
  | print (bytes : List UInt8)
  | read
  | pause (time : Nat)
  | closeInput
deriving Repr, DecidableEq

structure Program where
  instructions : List Instruction
  exit : Except Remote.Error (Option Int)
  /-- The stream that cannot be read. -/
  unreadable : Option Terminal.Source

def Program.silent : Program :=
  { instructions := [], exit := .ok (some 0), unreadable := none }

structure Entry where
  after : Nat
  bytes : List UInt8
deriving Repr, DecidableEq

inductive Operator where
  | waiting (due : Nat) (bytes : List UInt8) (later : List Entry)
  | typing (left : List UInt8) (later : List Entry)
  | done
deriving Repr, DecidableEq

def Operator.start (now : Nat) : List Entry → Operator
  | [] => .done
  | entry :: later => .waiting (now + entry.after) entry.bytes later

/-- Who is handing bytes to the keyboard.  One payload is finished before the
next one begins. -/
inductive Writer where
  | automation
  | operator
deriving Repr, DecidableEq

structure Play where
  session : Terminal.Session
  program : Program
  isRunning : Bool
  /-- When the pause that the program makes is over. -/
  wakes : Option Nat
  /-- What the program is printing and the screen has no room for yet. -/
  unsent : List UInt8
  screen : List UInt8
  keyboard : List UInt8
  keyboardOpen : Bool
  writer : Option Writer
  line : List UInt8
  typed : List String
  operator : Operator
  outcomes : List (Except Terminal.SessionError Unit)

namespace Play

def screenCapacity : Nat := 65536
def keyboardCapacity : Nat := 1024

def start (session : Terminal.Session) (program : Program) (entries : List Entry) : Play where
  session := session
  program := program
  isRunning := true
  wakes := none
  unsent := []
  screen := []
  keyboard := []
  keyboardOpen := true
  writer := none
  line := []
  typed := []
  operator := .start session.now entries
  outcomes := []

def now (play : Play) : Nat := play.session.now

def tell (play : Play) (event : Terminal.Event) : Play :=
  { play with session := play.session.step event }

private def stop (play : Play) : Play :=
  { play with isRunning := false, keyboardOpen := false, keyboard := [] }

/-- Puts on the screen what fits.  A screen that nobody can read ends the program. -/
private def display (play : Play) : Play :=
  if play.program.unreadable = some .stdout then { play.stop with unsent := [] }
  else
    let room := screenCapacity - play.screen.length
    { play with
      screen := play.screen ++ play.unsent.take room
      unsent := play.unsent.drop room }

private def hear (play : Play) : Play × Bool :=
  let isEnd (byte : UInt8) := byte = 10 || byte = 13
  let heard := play.line ++ play.keyboard.takeWhile (!isEnd ·)
  match play.keyboard.dropWhile (!isEnd ·) with
  | [] => ({ play with line := heard, keyboard := [] }, false)
  | _ :: rest =>
      ({ play with
        line := []
        keyboard := rest
        typed := play.typed ++ [Text.Utf8.textOf heard] }, true)

private def perform (play : Play) : List Instruction → Play
  | [] =>
      if play.unsent.isEmpty then
        { play.stop with program := { play.program with instructions := [] } }
      else { play with program := { play.program with instructions := [] } }
  | instruction :: rest =>
      let waiting := { play with
        program := { play.program with instructions := instruction :: rest } }
      if !play.isRunning || !play.unsent.isEmpty then waiting
      else
        match instruction with
        | .print bytes => (display { play with unsent := bytes }).perform rest
        | .read =>
            if play.keyboardOpen then
              let (heard, isRead) := hear waiting
              if isRead then heard.perform rest else heard
            else waiting.stop
        | .pause time =>
            let wakes := play.wakes.getD (play.now + time)
            if wakes ≤ play.now then { play with wakes := none }.perform rest
            else { waiting with wakes := some wakes }
        | .closeInput => { play with keyboardOpen := false, keyboard := [] }.perform rest

private def act (play : Play) : Play :=
  (if play.unsent.isEmpty then play else display play).perform play.program.instructions

def chunkSize : Nat := 4096

private def chunks (bytes : List UInt8) : List (List UInt8) :=
  match bytes with
  | [] => []
  | byte :: rest =>
      (byte :: rest.take (chunkSize - 1)) :: chunks (rest.drop (chunkSize - 1))
termination_by bytes.length
decreasing_by simp only [List.length_drop, List.length_cons]; omega

/-- Reads what is on the screen, notices the ends of the streams, waits for the exit of
the program, and lets the session end.  The automation is dropped as soon as it is called off. -/
private def readOutput (play : Play) : Play :=
  let isUnreadable (source : Terminal.Source) := play.program.unreadable = some source
  let last (source : Terminal.Source) :=
    if isUnreadable source then .error "terminal gone" else .ok []
  let play := (chunks play.screen).foldl (fun play bytes => play.tell (.read .stdout (.ok bytes)))
    { play with screen := [] }
  let play := play.tell (.read .stderr (last .stderr))
  let play :=
    if !play.isRunning || isUnreadable .stdout then play.tell (.read .stdout (last .stdout))
    else play
  let play := if !play.isRunning then play.tell (.exited play.program.exit) else play
  ((play.tell .dropped).tell .proceed).tell .proceed

private def isTyping (play : Play) : Writer → Bool
  | .automation => match play.session.automation with | .reaching .. | .typing .. => true | _ => false
  | .operator => match play.operator with | .typing .. => true | _ => false

private def release (play : Play) (writer : Writer) : Play :=
  let other := match writer with | .automation => Writer.operator | .operator => .automation
  { play with writer := if play.isTyping other then some other else none }

private def room (play : Play) : Nat := keyboardCapacity - play.keyboard.length

private def typeAnswers (play : Play) : Play :=
  let play := play.tell .answer
  let play := if play.writer = some .operator then play else play.tell .acquired
  match play.session.automation with
  | .typing _ left _ =>
      if play.keyboardOpen then
        let count := min left.length play.room
        let play := { (play.tell (.taken count)) with
          keyboard := play.keyboard ++ left.take count, writer := some .automation }
        if count < left.length then play else (play.tell .flushed).release .automation
      else (play.tell .refused).release .automation
  | _ => play

private def report (play : Play) (outcome : Except Terminal.SessionError Unit)
    (later : List Entry) : Play :=
  { play with operator := .start play.now later, outcomes := play.outcomes ++ [outcome] }

private def operate (play : Play) : Play :=
  let play := match play.operator with
    | .waiting due bytes later =>
        if due ≤ play.now then
          if play.session.sessions.contains play.session.id then
            { play with operator := .typing bytes later }
          else play.report (.error (.unknownSession play.session.id)) later
        else play
    | _ => play
  match play.operator with
  | .typing left later =>
      if play.writer = some .automation then play
      else if left.isEmpty then (play.report (.ok ()) later).release .operator
      else if play.keyboardOpen then
        let count := min left.length play.room
        let play := { play.tell (.operator (.write play.session.id (left.take count))) with
          keyboard := play.keyboard ++ left.take count
          writer := some .operator
          operator := .typing (left.drop count) later }
        if count < left.length then play
        else (play.report (.ok ()) later).release .operator
      else (play.report (.error (.write "broken pipe")) later).release .operator
  | _ => play

private def total {α : Type} (work : α → Nat) (list : List α) : Nat :=
  list.foldr (fun item sum => work item + sum) 0

/-- What is left to do before everybody waits. -/
private def work (play : Play) : Nat :=
  let instruction : Instruction → Nat
    | .print bytes => 1 + 2 * bytes.length
    | .read | .pause _ | .closeInput => 1
  let answers := total fun (answer : Terminal.Answer) => 3 + 2 * answer.keys.length
  let entries := total fun (entry : Entry) => 3 + 2 * entry.bytes.length
  total instruction play.program.instructions + 2 * play.unsent.length +
    play.screen.length + play.keyboard.length + play.isRunning.toNat +
    play.session.stdout.isNone.toNat + play.session.stderr.isNone.toNat +
    play.session.exit.isNone.toNat +
    (match play.session.automation with
      | .waiting _ next later => answers (next :: later)
      | .reaching _ keys later => 2 + 2 * keys.length + answers later
      | .typing _ left later => 1 + 2 * left.length + answers later
      | .stopped => 0) +
    (match play.operator with
      | .waiting _ bytes later => 2 + 2 * bytes.length + entries later
      | .typing left later => 1 + 2 * left.length + entries later
      | .done => 0)

/-- Lets all act in turn as long as that leaves less to do. -/
private def settle (play : Play) : Play :=
  let next := play.act.readOutput.typeAnswers.operate
  if next.work < play.work then settle next else next
termination_by play.work

private def next? (play : Play) : Option Nat :=
  let times := play.wakes.toList ++
    (match play.session.automation with
      | .waiting since next _ => [since + next.gate.limit]
      | _ => []) ++
    (match play.operator with
      | .waiting due _ _ => [due]
      | _ => [])
  (times.filter (play.now < ·)).min?

private def isOver (play : Play) : Bool :=
  play.session.isOver && play.operator = .done

/-- Goes from instant to instant.  Nothing is left when the session would wait for
ever. -/
private def proceed (play : Play) : Option Play :=
  if play.isOver then some play
  else
    match play.next? with
    | none => none
    | some time =>
        let next := settle (play.tell (.clock time))
        if next.work < play.work then proceed next else none
termination_by play.work

/-- Plays a session to its end.  The answers whose gates are open at once are typed
before any output is read. -/
def finish? (play : Play) : Option Play :=
  proceed (settle play.act.typeAnswers)

end Play

end Rollout.Rehearsal
