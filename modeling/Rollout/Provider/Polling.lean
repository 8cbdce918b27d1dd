import Rollout.Provider.Basic

namespace Rollout.Provider

/-! Waiting for a new server.

The server is looked at again and again, with a pause behind every look.  The wait
is over when the server has both the ready status and an address, or when looking
fails, and it is given up when its time has passed.
-/

structure Polling where
  interval : Nat
  timeout : Nat
deriving Repr, DecidableEq

/-- Every five seconds for five minutes. -/
def Polling.usual : Polling := { interval := 5000, timeout := 300000 }

def Polling.looks (polling : Polling) : Nat := polling.timeout / max polling.interval 1 + 1

/-- A server that was ready lacks nothing but an address. -/
def givenUp (id : String) (wasReady : Bool) : Error :=
  if wasReady then .missingAddress id else .timeout "wait_for_server" id

def poll (look : Network Error (Option Server)) (ready id : String)
    (interval deadline : Nat) : (wasReady : Bool) → (looks : Nat) → Network Error Server
  | wasReady, 0 => throw (givenUp id wasReady)
  | wasReady, looks + 1 => do
      if deadline < (← Network.now) then throw (givenUp id wasReady)
      else
        match (← look).filter (·.status = ready) with
        | some server =>
            if server.address.isSome then pure server
            else
              Network.pause interval
              poll look ready id interval deadline true looks
        | none =>
            Network.pause interval
            poll look ready id interval deadline wasReady looks

def Polling.await (polling : Polling) (look : Network Error (Option Server)) (ready id : String) :
    Network Error Server := do
  let start ← Network.now
  poll look ready id polling.interval (start + polling.timeout) false polling.looks

end Rollout.Provider
