import Rollout.Deployment.Action
import Rollout.Deployment.Plan
import Rollout.Provider.Choice

namespace Rollout.Deployment

/-! From a plan to a running server. -/

/-- The name of an application in lower case letters, digits and hyphens, from which a server
that was given no name takes its own. -/
def nameStem (app : String) : String :=
  let chars := (Text.lower (Text.trimmed app)).toList.map fun char =>
    if char.isAlphanum then char else '-'
  let stem := Text.stripChar '-' chars
  if stem.isEmpty then "app" else String.ofList stem

def serverName (app suffix : String) : String := s!"{nameStem app}-{suffix}"

variable {Backend : Type}

def chooseSize (plan : Plan Backend) (options : Options) : Stage Backend Error String := do
  if options.wantsAnySize then
    let requirement := plan.spec.requirement
    let size ← (Provider.recommendSize (perform plan.provider) requirement options.region).adapt
      Error.provisioning
    say s!"Selected size {size} for {requirement.cpu} vCPU / {requirement.ramMb} MB"
    pure size
  else pure (Text.trimmed options.size)

def chooseName (plan : Plan Backend) (options : Options) : Stage Backend Error String := do
  if Text.isBlankText options.serverName then
    pure (serverName plan.spec.app (← ask .nameSuffix))
  else pure (Text.trimmed options.serverName)

/-- A server that is late or has no address is not ready; all other failures are
failures to provide one. -/
def Error.ofWait : Provider.Error → Error
  | .timeout action server => .notReady (.server (.timeout action server))
  | .missingAddress server => .notReady (.server (.missingAddress server))
  | cause => .provisioning cause

def orderOf (plan : Plan Backend) (options : Options) (size name : String) : Provider.Order where
  name := name
  region := Text.trimmed options.region
  size := size
  image := none
  userData := plan.userData
  tags := ["selfhosted", s!"app:{plan.spec.app}"]

def announce (server : Provider.Server) : Stage Backend Error Unit :=
  match server.address with
  | some address => say s!"Server {server.name} is active at {address.toText}"
  | none => pure ()

def provision (plan : Plan Backend) (options : Options) (size : String) :
    Stage Backend Error Provider.Server := do
  let name ← chooseName plan options
  say s!"Creating server {name} ({size}) on {plan.provider.name}"
  let created ← (perform plan.provider (.createServer (orderOf plan options size name))).adapt
    Error.provisioning
  say s!"Waiting for server {created.id} to become active"
  let server ← (perform plan.provider (.awaitServer created.id)).adapt Error.ofWait
  announce server
  pure server

end Rollout.Deployment
