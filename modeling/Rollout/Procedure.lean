namespace Rollout

/-! Computations that ask their surroundings questions.

A procedure is done, or it asks a question and goes on with the answer.  It says
nothing about who answers, so every statement about a procedure holds for every
behaviour of the network, the remote machine and the clock.  `Traces` relates a
procedure to all that may be asked and answered in it; `run` answers the questions
from a state that each question may change.
-/

inductive Procedure (Question : Type) (Answer : Question → Type) (α : Type) where
  | done (value : α)
  | ask (question : Question) (next : Answer question → Procedure Question Answer α)

namespace Procedure

variable {Question : Type} {Answer : Question → Type} {State α β : Type}

def bind : Procedure Question Answer α → (α → Procedure Question Answer β) →
    Procedure Question Answer β
  | .done value, after => after value
  | .ask question next, after => .ask question fun answer => (next answer).bind after

instance : Monad (Procedure Question Answer) where
  pure := done
  bind := bind

def query (question : Question) : Procedure Question Answer (Answer question) :=
  .ask question done

abbrev Trace (Question : Type) (Answer : Question → Type) :=
  List ((question : Question) × Answer question)

/-- A procedure can ask the questions of a trace, get its answers and end with a value. -/
inductive Traces : Procedure Question Answer α → Trace Question Answer → α → Prop where
  | done (value : α) : Traces (.done value) [] value
  | ask {question : Question} {answer : Answer question}
      {next : Answer question → Procedure Question Answer α} {trace : Trace Question Answer}
      {value : α} (later : Traces (next answer) trace value) :
      Traces (.ask question next) (⟨question, answer⟩ :: trace) value

def run (reply : State → (question : Question) → Answer question × State) :
    Procedure Question Answer α → State → α × State
  | .done value, state => (value, state)
  | .ask question next, state =>
      let (answer, state) := reply state question
      (next answer).run reply state

def run? (reply : State → (question : Question) → Option (Answer question × State)) :
    Procedure Question Answer α → State → Option (α × State)
  | .done value, state => some (value, state)
  | .ask question next, state => do
      let (answer, state) ← reply state question
      (next answer).run? reply state

def interpret {Question' : Type} {Answer' : Question' → Type}
    (reply : (question : Question) → Procedure Question' Answer' (Answer question)) :
    Procedure Question Answer α → Procedure Question' Answer' α
  | .done value => .done value
  | .ask question next => (reply question).bind fun answer => (next answer).interpret reply

end Procedure

end Rollout
