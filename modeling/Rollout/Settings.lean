import Rollout.Text.Blank
import Rollout.Text.Numeral

namespace Rollout

/-! Settings of the SSH client and of deployments, with the checks that they pass
before they are used. -/

inductive SettingError where
  | missingField (field : String)
  | invalidValue (field reason : String)
deriving Repr, DecidableEq

def SettingError.message : SettingError → String
  | .missingField field => s!"missing configuration field: {field}"
  | .invalidValue field reason => s!"invalid configuration value for {field}: {reason}"

private def require (field value : String) : Except SettingError Unit :=
  if Text.isBlankText value then .error (.missingField field) else .ok ()

private def requireNonZero (field : String) (value : Nat) : Except SettingError Unit :=
  if value = 0 then .error (.invalidValue field "must be non-zero") else .ok ()

structure SshSettings where
  bin : String := "ssh"
  user : String := "root"
  port : UInt16 := 22
  batchMode : Bool := true
  strictHostKeyChecking : Bool := false
  knownHostsFile : String := "/dev/null"
  identityFile : Option String := none
deriving Repr, DecidableEq

def SshSettings.validate (settings : SshSettings) : Except SettingError Unit := do
  require "ssh.bin" settings.bin
  require "ssh.user" settings.user
  requireNonZero "ssh.port" settings.port.toNat
  match settings.identityFile with
  | some path => require "ssh.identity_file" path
  | none => .ok ()

/-- Where installer documents and the operator's key are found, and the timing of
deployments in whole seconds. -/
structure DeploySettings where
  appsDirectory : Option String := none
  sshPublicKey : Option String := none
  keepAlive : UInt64 := 15
  sshTimeout : UInt64 := 300
  sshRetry : UInt64 := 5
  sshSettle : UInt64 := 5
deriving Repr, DecidableEq

/-- An interval of zero would never let time pass. -/
def DeploySettings.validate (settings : DeploySettings) : Except SettingError Unit := do
  requireNonZero "keepalive_secs" settings.keepAlive.toNat
  requireNonZero "ssh_retry_secs" settings.sshRetry.toNat

theorem DeploySettings.validate_eq_ok_iff {settings : DeploySettings} :
    settings.validate = .ok () ↔ settings.keepAlive.toNat ≠ 0 ∧ settings.sshRetry.toNat ≠ 0 := by
  unfold DeploySettings.validate requireNonZero
  by_cases keeps : settings.keepAlive.toNat = 0
  · simp [keeps, bind, Except.bind]
  · by_cases retries : settings.sshRetry.toNat = 0
    · simp [keeps, retries, bind, Except.bind]
    · simp [keeps, retries, bind, Except.bind]

end Rollout
