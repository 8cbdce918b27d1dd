import Rollout.Configuration.Value
import Rollout.Deployment.Error
import Rollout.Dns.Policy
import Rollout.Settings

namespace Rollout.CommandLine

/-! What a command can fail with. -/

inductive InvalidArgument where
  | mode (unknown : Dns.Mode.Unknown)
  | pair (text : String)
deriving Repr, DecidableEq

def InvalidArgument.message : InvalidArgument → String
  | .mode unknown => unknown.message
  | .pair text => s!"expected KEY=VALUE, got '{text}'"

inductive Error where
  | malformed (cause : Configuration.Malformed)
  | setting (cause : SettingError)
  | credentials (provider : String)
  | installer (cause : Installer.RegistryError)
  | provider (cause : Provider.Error)
  | deployment (cause : Deployment.Error)
  | argument (cause : InvalidArgument)
deriving Repr, DecidableEq

private def ofConfiguration (message : String) : String := s!"configuration error: {message}"

def Error.message : Error → String
  | .malformed cause => ofConfiguration cause.message
  | .setting cause => ofConfiguration cause.message
  | .credentials name =>
      ofConfiguration s!"{name} needs credentials; set them in selfhosted.toml or the environment"
  | .installer cause => cause.message
  | .provider cause => cause.message
  | .deployment cause => cause.message
  | .argument cause => s!"invalid argument: {cause.message}"

end Rollout.CommandLine
