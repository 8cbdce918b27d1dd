import Rollout.Installer.Spec
import Rollout.Template.Context
import Rollout.Terminal.Window

namespace Rollout.Terminal

/-! Answers that are typed without an operator.

The answers of a step are typed in declared order.  Each one waits at its gate
until the prompt is seen or its time is over.  The values are rendered before the
session starts, so an answer is its gate and the bytes to type.  How patterns are
read is left open.
-/

/-- The keystrokes of an answer: `true` and `false` are typed as `y` and `n`, and
an answer without a line break of its own is followed by a carriage return. -/
def answerKeystrokes (answer : String) : String :=
  let keys := if answer = "true" then "y" else if answer = "false" then "n" else answer
  if keys.toList.any fun char => char = '\n' || char = '\r' then keys else keys ++ "\r"

inductive Gate where
  | prompt (wanted : Prompt) (limit : Nat)
  | delay (time : Nat)
  | immediate

def Gate.lets (gate : Gate) (window : Window) (waited : Nat) : Bool :=
  match gate with
  | .prompt wanted limit => limit ≤ waited || window.shows wanted
  | .delay time => time ≤ waited
  | .immediate => true

def Gate.limit : Gate → Nat
  | .prompt _ limit => limit
  | .delay time => time
  | .immediate => 0

/-- A pattern that cannot be read holds nothing back. -/
def Gate.of (patterns : Patterns) (answer : Installer.AutoAnswer) : Gate :=
  match answer.waitFor with
  | none | some "" => .delay answer.delay
  | some wanted =>
      if answer.isRegex then
        match patterns wanted with
        | some occurs => .prompt (.pattern occurs) answer.timeout
        | none => .immediate
      else .prompt (.text wanted) answer.timeout

structure Answer where
  gate : Gate
  keys : List UInt8

def Answer.of (patterns : Patterns) (context : Template.Context) (answer : Installer.AutoAnswer) :
    Answer :=
  { gate := .of patterns answer
    keys := Text.Utf8.bytesOf (answerKeystrokes (context.render answer.value)) }

/-- Where the typing of answers has got to: at a gate since some time, at a handle that was
found for an answer and may be held by others, in the middle of an answer on the handle that
it holds, or at its end. -/
inductive Automation where
  | waiting (since : Nat) (next : Answer) (later : List Answer)
  | reaching (handle : Nat) (keys : List UInt8) (later : List Answer)
  | typing (handle : Nat) (left : List UInt8) (later : List Answer)
  | stopped

namespace Automation

def start (now : Nat) : List Answer → Automation
  | [] => .stopped
  | next :: later => .waiting now next later

def holds (automation : Automation) (number : Nat) : Bool :=
  match automation with
  | .typing handle _ _ => handle = number
  | _ => false

end Automation

end Rollout.Terminal
