import Rollout.Provider.Choice

namespace Rollout.Rehearsal

/-! A provider whose servers exist only on paper, with a log of what it was asked. -/

inductive Arrival where
  | ready
  | late
  | rejected
  | unreachable
deriving Repr, DecidableEq

structure Cloud where
  sizes : List Provider.Size := [
    { id := "fake-small", vcpus := 1, memoryMb := 1024, diskGb := 25, price := 5, regions := [] },
    { id := "fake-medium", vcpus := 2, memoryMb := 2048, diskGb := 25, price := 10, regions := [] },
    { id := "fake-large", vcpus := 4, memoryMb := 8192, diskGb := 25, price := 40, regions := [] }]
  address : Option Address := some .localhost
  dnsHost : Dns.Host := .unknown "ns1.fake.test"
  requiresToken : Bool := false
  token : Option String := none
  refusesOrders : Option String := none
  refusesDomains : Option String := none
  arrival : Arrival := .ready

structure CloudLog where
  calls : List String := []
  orders : List Provider.Order := []

namespace Cloud

open Provider (Error Call Settings applySettings chooseSize)

def name : String := "fake"

abbrev Logged (α : Type) := ExceptT Error (StateM CloudLog) α

private def note (call : String) : Logged Unit :=
  modify fun log => { log with calls := log.calls ++ [call] }

private def refuse : Option String → Logged Unit
  | some reason => throw (.api name reason)
  | none => pure ()

/-- An order is logged before it is refused. -/
private def createServer (cloud : Cloud) (order : Provider.Order) : Logged Provider.Server := do
  note s!"create_server:{order.name}"
  modify fun log => { log with orders := log.orders ++ [order] }
  refuse cloud.refusesOrders
  pure { id := "srv-1", name := order.name, address := none, status := "starting" }

/-- The server has the name of the last order. -/
private def awaitServer (cloud : Cloud) (id : String) : Logged Provider.Server := do
  note s!"wait_for_server:{id}"
  let orders := (← get).orders
  let some address := cloud.address | throw (.missingAddress id)
  let server : Provider.Server := {
    id
    name := (orders.getLast?.map (·.name)).getD ""
    address := some address
    status := "running" }
  match cloud.arrival with
  | .ready => pure server
  | .late => throw (.timeout "wait_for_server" id)
  | .rejected => throw (.api name "wait rejected")
  | .unreachable => pure { server with address := none }

def perform (cloud : Cloud) : (call : Call) → Logged call.Result
  | .listRegions => do
      note "list_regions"
      pure [{ id := "fake-1", name := "Fake One" }]
  | .listSizes => pure cloud.sizes
  | .listSizesIn region => pure (cloud.sizes.filter (·.isOfferedIn region))
  | .chooseSize requirement => do
      note s!"get_size_for_specs:{requirement.cpu}/{requirement.ramMb}"
      (chooseSize cloud.sizes requirement : Except Error String)
  | .createServer order => createServer cloud order
  | .awaitServer id => awaitServer cloud id
  | .destroyServer id => note s!"destroy_server:{id}"
  | .pointDomain domain address => do
      note s!"setup_dns:{domain}:{address.toText}"
      refuse cloud.refusesDomains

private def set (cloud : Cloud) (key value : String) : Except Error Cloud :=
  if key = "token" then .ok { cloud with token := some value }
  else .error (.unknownSetting name key)

def configure (cloud : Cloud) (settings : Settings) : Cloud × Except Error Unit :=
  applySettings set cloud settings

def provider (cloud : Cloud) : Provider Cloud where
  name := Cloud.name
  dnsHost := cloud.dnsHost
  needsConfig := cloud.requiresToken && cloud.token.isNone
  backend := cloud

def factory (cloud : Cloud) (settings : Settings) : Except Error (Provider Cloud) := do
  let (cloud, configured) := cloud.configure settings
  configured
  pure cloud.provider

end Cloud

end Rollout.Rehearsal
