import Rollout.Provider.Basic
import Rollout.Text.Blank
import Rollout.Text.Quoted

namespace Rollout.Provider.Scaleway

/-! Accounts at Scaleway and their settings. -/

def name : String := "scaleway"

def failed (reason : String) : Error := .api name reason

/-- The credentials and the defaults of an account.

Images and the state of servers are asked for by a client with a key of its own.
A blank secret key makes no client, but it is still the secret key; a setting
gives the same key to both.
-/
structure Account where
  secretKey : Option String := none
  clientKey : Option String := secretKey.filter fun key => !Text.isBlankText key
  projectId : Option String := none
  organizationId : Option String := none
  zone : String := "fr-par-1"
  image : String := "Ubuntu 24.04 Noble Numbat"
  architecture : String := "x86_64"

namespace Account

def required (field : String) : Option String → Except Error String
  | some value => .ok value
  | none => .error (.notConfigured name field)

def secretKey? (account : Account) : Except Error String :=
  required "secret_key" account.secretKey

def clientKey? (account : Account) : Except Error String :=
  required "secret_key" account.clientKey

def projectId? (account : Account) : Except Error String :=
  required "project_id" (account.projectId.filter fun id => !Text.isBlankText id)

def needsConfig (account : Account) : Bool :=
  account.clientKey.isNone || account.projectId?.toOption.isNone

def describe (account : Account) : String :=
  "ScalewayProvider \x7b zone: " ++ Text.quoted account.zone ++
    ", configured: " ++ toString (!account.needsConfig) ++ ", .. \x7d"

def set (account : Account) (key value : String) : Except Error Account :=
  match key with
  | "secret_key" | "token" => .ok { account with secretKey := some value, clientKey := some value }
  | "project_id" => .ok { account with projectId := some value }
  | "organization_id" => .ok { account with organizationId := some value }
  | "zone" => .ok { account with zone := value }
  | _ => .error (.unknownSetting name key)

def configure (account : Account) (settings : Settings) : Account × Except Error Unit :=
  applySettings set account settings

end Account

end Rollout.Provider.Scaleway
