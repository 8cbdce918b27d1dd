import Rollout.Deployment.Action
import Rollout.Deployment.Plan
import Rollout.Deployment.Summary
import Rollout.Dns.Nameservers

namespace Rollout.Deployment

/-! Pointing the domain at the new server.

Nothing here can fail a deployment: what goes wrong is part of the outcome.
-/

variable {Backend : Type}

inductive Route where
  | none (reason : String)
  | provider
  | registrar (credentials : Dns.Credentials)

/-- The provider is the way only if it is who answers for the domain. -/
def detectRoute (provider : Provider Backend) (domain : String) : Course Backend Route := do
  let lookup (name : String) : Stage Backend Dns.Error (List String) :=
    ExceptT.mk (Procedure.query (Action.nameservers name))
  match ← (Dns.detect lookup domain).run with
  | .ok host =>
      pure (if host = provider.dnsHost then .provider
        else .none s!"{domain} is served by {host.name}, not {provider.name}")
  | .error cause => pure (.none s!"could not detect DNS host: {cause.message}")

def chooseRoute (plan : Plan Backend) (options : Options) (domain : String) :
    Course Backend Route :=
  match Dns.decide options.dnsMode plan.spec.dnsPolicy options.registrar with
  | .skip reason => pure (.none reason)
  | .provider => pure .provider
  | .registrar credentials => pure (.registrar credentials)
  | .detect => detectRoute plan.provider domain

def setRecords (registrar : Dns.Registrar) (domain : String) :
    List Dns.Record → Stage Backend Dns.Error Unit
  | [] => pure ()
  | record :: rest => do
      ExceptT.mk (Procedure.query (Action.setRecord registrar domain record))
      say (s!"Created {record.recordType} record {record.name} -> {record.content} via " ++
        registrar.name)
      setRecords registrar domain rest

/-- Sets the records of the application one by one, up to the first that fails, and
names the registrar. -/
def useRegistrar (plan : Plan Backend) (credentials : Dns.Credentials) (domain : String)
    (address : Address) (context : Template.Context) : Stage Backend Dns.Error String := do
  let registrar ← ExceptT.mk (Procedure.query (Action.registrar credentials))
  setRecords registrar domain (Dns.resolveRecords plan.spec.records domain address context)
  pure registrar.name

def concluded : Except String String → Course Backend DnsOutcome
  | .ok via => pure (.configured via)
  | .error message => do
      Procedure.query (Action.emit (.plain s!"warning: DNS setup failed: {message}"))
      pure (.failed message)

def pointDomain (plan : Plan Backend) (options : Options) (address : Address)
    (context : Template.Context) : Course Backend DnsOutcome := do
  let domain := Text.trimmed options.domain
  if domain.isEmpty then pure (.skipped "no domain supplied")
  else
    match ← chooseRoute plan options domain with
    | .none reason =>
        Procedure.query (Action.emit (.plain s!"Skipping DNS: {reason}"))
        pure (.skipped reason)
    | .provider =>
        let name := plan.provider.name
        Procedure.query (Action.emit (.plain s!"Pointing {domain} at {address.toText} via {name}"))
        let done ← (perform plan.provider (.pointDomain domain address)).run
        concluded ((done.map fun () => name).mapError (·.message))
    | .registrar credentials =>
        let done ← (useRegistrar plan credentials domain address context).run
        concluded (done.mapError (·.message))

end Rollout.Deployment
