import Rollout.Configuration.Environment
import Rollout.Configuration.Toml
import Rollout.Files
import Rollout.Provider.DigitalOcean
import Rollout.Provider.Scaleway.Account
import Rollout.Settings

namespace Rollout.Configuration

/-! Loading settings.

A setting comes from the environment, else from the settings file, else it has its
default.  All settings share one file, but each group has variables of its own.
-/

def pathVariable : String := "SELFHOSTED_CONFIG_PATH"

private def fileName : String := "selfhosted.toml"

/-- The places of the settings file; the first that exists counts. -/
def candidates (environment : Environment) : List String :=
  let home := environment.find? "HOME"
  let under (directory : Option String) (path : String) : List String :=
    (directory.map (Files.join · path)).toList
  (environment.find? pathVariable).toList ++
    under (environment.find? "XDG_CONFIG_HOME") ("selfhosted/" ++ fileName) ++
    under home (".config/selfhosted/" ++ fileName) ++
    under home ("." ++ fileName) ++ [fileName]

private def firstTable (files : Files.Tree) : List String → Except Malformed Table
  | [] => .ok []
  | path :: rest =>
      match files.readPath path with
      | .error .notFound | .error .notDirectory => firstTable files rest
      | .error _ => .error {}
      | .ok text =>
          match Toml.parse? text with
          | some table => .ok table
          | none => .error {}

def groups : List (String × List String) :=
  [("SELFHOSTED", ["apps_dir", "ssh_public_key", "keepalive_secs", "ssh_wait_timeout_secs",
      "ssh_retry_secs", "ssh_settle_secs"]),
    ("SELFHOSTED_SSH", ["bin", "user", "port", "known_hosts_file", "identity_file"]),
    ("SCW", ["secret_key", "default_project_id", "default_organization_id", "default_zone",
      "default_image", "default_architecture"]),
    ("DIGITALOCEAN", ["token", "default_image"])]

def variableNames : List String :=
  [pathVariable, "HOME", "XDG_CONFIG_HOME"] ++ groups.flatMap fun (group, names) =>
    names.map fun name => s!"{group}_{Text.upper name}"

def sources (files : Files.Tree) (environment : Environment) (group : String) :
    Except Malformed Sources := do
  pure [environment.table group, ← firstTable files (candidates environment)]

/-- The options of the client that are on or off can only be set by a caller:
loaded settings have both of them off. -/
def loadSsh (files : Files.Tree) (environment : Environment) : Except Malformed SshSettings := do
  let sources ← sources files environment "SELFHOSTED_SSH"
  let default : SshSettings := {}
  pure {
    bin := ← sources.text "bin" default.bin
    user := ← sources.text "user" default.user
    port := (← sources.below (Nat.pow 2 16) "port" default.port.toNat).toUInt16
    batchMode := false
    strictHostKeyChecking := false
    knownHostsFile := ← sources.text "known_hosts_file" default.knownHostsFile
    identityFile := ← sources.text? "identity_file" }

def loadDeploy (files : Files.Tree) (environment : Environment) :
    Except Malformed DeploySettings := do
  let sources ← sources files environment "SELFHOSTED"
  let default : DeploySettings := {}
  let seconds (name : String) (default : UInt64) : Except Malformed UInt64 := do
    pure (← sources.below Text.wordLimit name default.toNat).toUInt64
  pure {
    appsDirectory := ← sources.text? "apps_dir"
    sshPublicKey := ← sources.text? "ssh_public_key"
    keepAlive := ← seconds "keepalive_secs" default.keepAlive
    sshTimeout := ← seconds "ssh_wait_timeout_secs" default.sshTimeout
    sshRetry := ← seconds "ssh_retry_secs" default.sshRetry
    sshSettle := ← seconds "ssh_settle_secs" default.sshSettle }

def loadScaleway (files : Files.Tree) (environment : Environment) :
    Except Malformed Provider.Scaleway.Account := do
  let sources ← sources files environment "SCW"
  let default : Provider.Scaleway.Account := { secretKey := ← sources.text? "secret_key" }
  pure { default with
    projectId := ← sources.text? "default_project_id"
    organizationId := ← sources.text? "default_organization_id"
    zone := ← sources.text "default_zone" default.zone
    image := ← sources.text "default_image" default.image
    architecture := ← sources.text "default_architecture" default.architecture }

def loadDigitalOcean (files : Files.Tree) (environment : Environment) :
    Except Malformed Provider.DigitalOcean.Account := do
  let sources ← sources files environment "DIGITALOCEAN"
  let default : Provider.DigitalOcean.Account := { token := ← sources.text? "token" }
  pure { default with defaultImage := ← sources.text "default_image" default.defaultImage }

end Rollout.Configuration
