import Rollout.Deployment.Error
import Rollout.Deployment.Options

namespace Rollout.Deployment

/-! What a deployment draws on, and all that is settled before the first server is
asked for. -/

/-- How long to wait for SSH, how long between two attempts, and how long after
the one that succeeds. -/
structure Patience where
  timeout : Nat := 300000
  retry : Nat := 5000
  settle : Nat := 5000
deriving Repr, DecidableEq

structure Site (Backend : Type) where
  apps : Installer.Registry
  providers : Provider.Registry Backend
  files : Files.Tree
  home : Option String
  sshPort : UInt16
  patience : Patience

structure Plan (Backend : Type) where
  spec : Installer.Spec
  provider : Provider Backend
  answers : Installer.Answers
  userData : Option String

variable {Backend : Type}

def findProvider (site : Site Backend) (options : Options) :
    Except Misconfiguration (Provider Backend) := do
  let factory ← (site.providers.create options.provider).mapError .provider
  let provider ← (factory options.providerSettings).mapError .provider
  if provider.needsConfig then .error (.credentials provider.name) else .ok provider

def userData (site : Site Backend) (options : Options) :
    Except Misconfiguration (Option String) := do
  if Text.isBlankText options.sshPublicKey then .ok none
  else
    let key ← (CloudInit.resolvePublicKey site.files site.home options.sshPublicKey).mapError
      .publicKey
    .ok (some (CloudInit.userData [key]))

/-- Settles the application, its answers, the provider and the key, in this order. -/
def plan (site : Site Backend) (options : Options) : Except Misconfiguration (Plan Backend) := do
  let spec ← (site.apps.get options.app).mapError .app
  let (answers, missing) := spec.withDefaults options.answers
  if let some missing := missing then .error (.answer missing)
  let provider ← findProvider site options
  if options.dnsMode = .cloudflare ∧ options.registrar.isNone then .error .registrar
  let userData ← userData site options
  .ok { spec, provider, answers, userData }

end Rollout.Deployment
