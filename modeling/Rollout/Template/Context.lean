import Rollout.Template.Condition
import Rollout.Template.Render

namespace Rollout.Template

/-! What the placeholders and the guards of a deployment refer to.

A field is a name such as `Domain`; placeholders and guards write it with the
leading `opts.`.  Every text variable also sets a flag of its own name, which
tells whether the text is non-empty.
-/

def keyOf (field : String) : String :=
  "opts." ++ field

structure Context where
  strings : Variables
  flags : Flags
deriving DecidableEq

namespace Context

def empty : Context := { strings := ∅, flags := ∅ }

instance : Inhabited Context := ⟨empty⟩

def insertString (context : Context) (field value : String) : Context :=
  { strings := context.strings.insert (keyOf field) value
    flags := context.flags.insert (keyOf field) (!value.isEmpty) }

def insertFlag (context : Context) (field : String) (value : Bool) : Context :=
  { context with flags := context.flags.insert (keyOf field) value }

/-- Answers are texts; `true` and `false` in any case also set the flag to what
they say. -/
def insertAnswer (context : Context) (field value : String) : Context :=
  let answered := context.insertString field value
  if Text.sameLetters value "true" then answered.insertFlag field true
  else if Text.sameLetters value "false" then answered.insertFlag field false
  else answered

def mergeAnswers (context : Context) (answers : Variables) : Context :=
  answers.foldl insertAnswer context

def get? (context : Context) (field : String) : Option String :=
  context.strings[keyOf field]?

def render (context : Context) (text : String) : String :=
  Template.render context.strings text

def evaluate (context : Context) (expression : String) : Bool :=
  Template.evaluate context.flags expression

end Context

end Rollout.Template
