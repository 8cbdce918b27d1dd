import Rollout.CloudInit
import Rollout.Installer.Registry
import Rollout.Installer.Run
import Rollout.Installer.Wizard
import Rollout.Provider.Basic

namespace Rollout.Deployment

/-! Why a deployment fails, and at what stage. -/

inductive Misconfiguration where
  | app (cause : Installer.RegistryError)
  | answer (missing : Installer.MissingAnswer)
  | provider (cause : Provider.Error)
  | credentials (name : String)
  | registrar
  | publicKey (cause : CloudInit.Error)
deriving Repr, DecidableEq

def Misconfiguration.message : Misconfiguration → String
  | .app cause => cause.message
  | .answer missing => missing.message
  | .provider cause => cause.message
  | .credentials name => s!"{name} needs credentials before it can deploy"
  | .registrar => "DNS mode cloudflare requires registrar credentials"
  | .publicKey cause => cause.message

inductive Unready where
  | server (cause : Provider.Error)
  | noAddress (id : String)
  | ssh (endpoint : String) (seconds : Nat)
deriving Repr, DecidableEq

def Unready.message : Unready → String
  | .server cause => cause.message
  | .noAddress id => s!"server {id} has no public address"
  | .ssh endpoint seconds => s!"SSH on {endpoint} unreachable after {seconds}s"

/-- A failure of the TLS phase ends no deployment; it is reported as a warning. -/
inductive Error where
  | configuration (cause : Misconfiguration)
  | provisioning (cause : Provider.Error)
  | notReady (cause : Unready)
  | install (cause : Installer.StepError)
  | terminal (step : String) (cause : Terminal.Error)
  | tls (cause : Installer.StepError)
deriving Repr, DecidableEq

def Error.message : Error → String
  | .configuration cause => s!"configuration error: {cause.message}"
  | .provisioning cause => s!"provisioning failed: {cause.message}"
  | .notReady cause => s!"server not ready: {cause.message}"
  | .install cause => s!"install phase failed: {cause.message}"
  | .terminal step cause => s!"install phase failed: step '{step}' lost its terminal: {cause.message}"
  | .tls cause => s!"SSL setup failed: {cause.message}"

/-- A terminal that is lost is told apart from all other failures of a step. -/
def Error.ofStep : Installer.StepError → Error
  | .terminalLost step cause => .terminal step cause
  | cause => .install cause

end Rollout.Deployment
