import Rollout.Terminal.Automation

namespace Rollout.Terminal

/-! When an answer may be typed.

An answer that waits for a prompt is released once the prompt is shown or its time is over, and
at once if its pattern cannot be read; any other answer is released after its delay.  Which
patterns can be read, and where they occur, is left to whoever reads them.
-/

variable {patterns : Patterns}

end Rollout.Terminal
