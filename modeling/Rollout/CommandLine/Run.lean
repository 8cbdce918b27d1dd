import Rollout.CommandLine.Arguments
import Rollout.CommandLine.Error
import Rollout.Configuration.Load
import Rollout.Decimal.Binary64
import Rollout.Deployment.Live
import Rollout.Deployment.Run
import Rollout.Installer.Spec
import Rollout.Provider.Accounts
import Rollout.Provider.Choice

namespace Rollout.CommandLine

/-! The commands of the program.

Those that list something print a table, row by row.  A cell is filled up with blanks to the
width of its column; one that is wider than its column is not cut.
-/

open Rollout.Configuration (Environment)

section Rows

private def blanks (count : Nat) : String := String.ofList (List.replicate count ' ')

private def atLeft (width : Nat) (text : String) : String := text ++ blanks (width - text.length)

private def atRight (width : Nat) (text : String) : String := blanks (width - text.length) ++ text

def appRow (spec : Installer.Spec) : String :=
  s!"{atLeft 16 spec.app} {spec.requirement.cpu}cpu/{spec.requirement.ramMb}MB  {spec.description}"

def regionRow (region : Provider.Region) : String := s!"{atLeft 12 region.id} {region.name}"

def sizeRow (recommended : String) (size : Provider.Size) : String :=
  let marker := if size.id = recommended then "*" else " "
  let vcpus := atRight 2 (toString size.vcpus)
  let memory := atRight 6 (toString size.memoryMb)
  let price := atRight 8 (Decimal.fixed 2 size.price)
  s!"{marker} {atLeft 20 size.id} {vcpus} vCPU {memory} MB {price}/mo"

def sizeRows (requirement : Requirement) (recommended : String) (sizes : List Provider.Size) :
    List String :=
  (sizes.filter (·.meets requirement)).map (sizeRow recommended)

end Rows

structure Setting where
  environment : Environment
  files : Files.Tree

namespace Setting

def loadDeploy (setting : Setting) : Except Error DeploySettings := do
  let settings ← (Configuration.loadDeploy setting.files setting.environment).mapError .malformed
  settings.validate.mapError .setting
  pure settings

private def loadSsh (setting : Setting) : Except Error SshSettings := do
  let settings ← (Configuration.loadSsh setting.files setting.environment).mapError .malformed
  settings.validate.mapError .setting
  pure settings

def loadApps (setting : Setting) (settings : DeploySettings) :
    Except Error Installer.Registry := do
  let (bundled, failure) := Installer.Registry.bundled
  if let some failure := failure then .error (.installer failure)
  match settings.appsDirectory with
  | none => pure bundled
  | some directory =>
      let (registry, loaded) := bundled.loadDirectory setting.files directory
      discard (loaded.mapError Error.installer)
      pure registry

def loadProviders (setting : Setting) :
    Except Error (Provider.Registry Provider.Service) := do
  let scaleway ← (Configuration.loadScaleway setting.files setting.environment).mapError .malformed
  let digitalOcean ←
    (Configuration.loadDigitalOcean setting.files setting.environment).mapError .malformed
  let accounts : Provider.Accounts := { scaleway, digitalOcean }
  pure accounts.registry

def provider (setting : Setting) (name : String) :
    Except Error (Provider Provider.Service) := do
  let providers ← setting.loadProviders
  let factory ← (providers.create name).mapError .provider
  let provider ← (factory ∅).mapError .provider
  if provider.needsConfig then .error (.credentials name) else pure provider

end Setting

/-- Reads arguments of the form `KEY=VALUE`.  The key must not be blank. -/
def readPairs (texts : List String) : Except Error (Std.ExtTreeMap String String) := do
  let pairs ← texts.mapM fun text =>
    match Text.cutAt? '=' text.toList with
    | some (key, value) =>
        if key.all Text.isBlank then .error (Error.argument (.pair text))
        else pure (String.ofList (Text.trim key), String.ofList value)
    | none => .error (Error.argument (.pair text))
  pure (.ofList pairs)

/-- The options of a deployment.  The settings have a key for when no argument
gives one. -/
def DeployArguments.options (arguments : DeployArguments) (settings : DeploySettings) :
    Except Error Deployment.Options := do
  let mode ← (Dns.Mode.ofText arguments.dns).mapError (Error.argument ∘ InvalidArgument.mode)
  let token := arguments.cloudflareToken.filter fun token => !Text.isBlankText token
  pure {
    app := arguments.app
    provider := arguments.provider
    region := arguments.region
    size := arguments.size
    serverName := arguments.name
    domain := arguments.domain
    sshPublicKey := (arguments.sshKey.or settings.sshPublicKey).getD ""
    email := arguments.email
    sslCertificate := arguments.sslCertificate
    sslKey := arguments.sslKey
    httpsRedirect := arguments.httpsRedirect
    dnsMode := mode
    registrar := token.map fun token => { registrar := Dns.Cloudflare.name, token }
    providerSettings := ← readPairs arguments.providerSettings
    answers := ← readPairs arguments.answers }

def patienceOf (settings : DeploySettings) : Deployment.Patience where
  timeout := 1000 * settings.sshTimeout.toNat
  retry := 1000 * settings.sshRetry.toNat
  settle := 1000 * settings.sshSettle.toNat

abbrev Outcome := Except Error (List String)

abbrev Attempt (ε α : Type) :=
  ExceptT ε (Procedure Deployment.Live.Action Deployment.Live.Action.Result) α

private def ask {ε : Type} (action : Deployment.Live.Action) : Attempt ε action.Result :=
  ExceptT.lift (Procedure.query action)

def perform (provider : Provider Provider.Service) (call : Provider.Call) :
    Attempt Provider.Error call.Result :=
  ExceptT.mk (Deployment.Live.ofNetwork (provider.backend call))

private def runDeployment (setting : Setting) (arguments : DeployArguments) :
    Deployment.Live Outcome := ExceptT.run do
  let settings ← setting.loadDeploy
  let ssh ← setting.loadSsh
  let options ← arguments.options settings
  let home := setting.environment.find? "HOME"
  let site : Deployment.Site Provider.Service := {
    apps := ← setting.loadApps settings
    providers := ← setting.loadProviders
    files := setting.files
    home
    sshPort := ssh.port
    patience := patienceOf settings }
  ask (.keepAlive (some (1000 * settings.keepAlive.toNat)))
  let outcome ← ExceptT.lift (Deployment.Live.ofCourse ssh home (Deployment.run site options))
  ask (.keepAlive none)
  match outcome with
  | .ok _ => pure []
  | .error cause => throw (.deployment cause)

private def listApps (setting : Setting) : Outcome := do
  let registry ← setting.loadApps (← setting.loadDeploy)
  pure (registry.values.map appRow)

def showSizes (setting : Setting) (app provider region : String) :
    Deployment.Live Outcome := ExceptT.run do
  let registry ← setting.loadApps (← setting.loadDeploy)
  let spec ← ((registry.get app).mapError .installer : Except Error Installer.Spec)
  let provider ← setting.provider provider
  let requirement := spec.requirement
  let recommended ← (Provider.recommendSize (perform provider) requirement region).adapt .provider
  let sizes ← (if Text.isBlankText region then perform provider .listSizes
    else perform provider (.listSizesIn region)).adapt Error.provider
  pure (sizeRows requirement recommended sizes)

private def listRegions (setting : Setting) (provider : String) : Deployment.Live Outcome :=
  ExceptT.run do
    let provider ← setting.provider provider
    let regions ← (perform provider .listRegions).adapt Error.provider
    pure (regions.map regionRow)

def Command.run (setting : Setting) : Command → Deployment.Live Outcome
  | .deploy arguments => runDeployment setting arguments
  | .apps => pure (listApps setting)
  | .sizes app provider region => showSizes setting app provider region
  | .regions provider => listRegions setting provider

def version : String := "selfhosted 0.1.0"

def usage : String := "usage: selfhosted <deploy|apps|sizes|regions> [arguments]"

def tokenVariable : String := "CLOUDFLARE_API_TOKEN"

def variableNames : List String := tokenVariable :: Configuration.variableNames

/-- The paths that a command reads apart from the settings file, from which the
setting has to be read first. -/
def Setting.paths (setting : Setting) (arguments : List String) : List String :=
  let settings := (Configuration.loadDeploy setting.files setting.environment).toOption.getD {}
  let given : Option String := match Invocation.ofArguments none arguments with
    | .run (.deploy arguments) => arguments.sshKey
    | _ => none
  settings.appsDirectory.toList ++ ((given.or settings.sshPublicKey).map fun path =>
    Files.expandTilde (setting.environment.find? "HOME") (Text.trimmed path)).toList

structure Exit where
  code : UInt8
  output : String
  errors : String
deriving Repr, DecidableEq

private def ended (lines : List String) : String := String.join (lines.map (· ++ "\n"))

private def Exit.ofOutcome : Outcome → Exit
  | .ok rows => { code := 0, output := ended rows, errors := "" }
  | .error error => { code := 1, output := "", errors := ended [error.message] }

def run (setting : Setting) (arguments : List String) : Deployment.Live Exit :=
  match Invocation.ofArguments (setting.environment.find? tokenVariable) arguments with
  | .run command => do pure (.ofOutcome (← command.run setting))
  | .version => pure { code := 0, output := ended [version], errors := "" }
  | .help => pure { code := 0, output := ended [usage], errors := "" }
  | .misused => pure { code := 2, output := "", errors := ended [usage] }

end Rollout.CommandLine
