namespace Rollout.Progress

/-! Progress lines handed from one task to another.  Once the receiver is closed,
lines are dropped in silence. -/

structure Channel where
  received : List String
  closed : Bool
deriving Repr

namespace Channel

def opened : Channel := { received := [], closed := false }

def send (channel : Channel) (line : String) : Channel :=
  if channel.closed then channel
  else { channel with received := channel.received ++ [line] }

def close (channel : Channel) : Channel := { channel with closed := true }

end Channel

end Rollout.Progress
