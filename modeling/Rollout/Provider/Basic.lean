import Rollout.Address
import Rollout.Dns.Host
import Rollout.Installer.Spec
import Rollout.Network
import Std.Data.ExtTreeMap

namespace Rollout

namespace Provider

/-! What every provider of servers offers: regions and sizes, the life of a
server, and DNS for the domains that it holds. -/

structure Region where
  id : String
  name : String
deriving Repr, DecidableEq

/-- A size of server with its price for a month.  Without regions it is offered
everywhere. -/
structure Size where
  id : String
  vcpus : Nat
  memoryMb : Nat
  diskGb : Nat
  price : Rat
  regions : List String
deriving Repr, DecidableEq

structure Order where
  name : String
  region : String
  size : String
  image : Option String
  userData : Option String
  tags : List String
deriving Repr, DecidableEq

structure Server where
  id : String
  name : String
  address : Option Address
  status : String
deriving Repr, DecidableEq

inductive Error where
  | unknownProvider (name : String)
  | notConfigured (provider field : String)
  | unknownSetting (provider key : String)
  | api (provider reason : String)
  | noMatchingSize (cpu ramMb : Nat)
  | timeout (action server : String)
  | missingAddress (server : String)
deriving Repr, DecidableEq

def Error.message : Error → String
  | .unknownProvider name => s!"unknown provider '{name}'"
  | .notConfigured provider field => s!"{provider} is not configured: missing {field}"
  | .unknownSetting provider key => s!"{provider} does not accept setting '{key}'"
  | .api provider reason => s!"{provider} API error: {reason}"
  | .noMatchingSize cpu ramMb => s!"no matching size for {cpu} vCPU / {ramMb} MB"
  | .timeout action server => s!"timeout waiting for {action} on server {server}"
  | .missingAddress server => s!"server {server} has no public IPv4 address"

inductive Call where
  | listRegions
  | listSizes
  | listSizesIn (region : String)
  | chooseSize (requirement : Requirement)
  | createServer (order : Order)
  | awaitServer (id : String)
  | destroyServer (id : String)
  | pointDomain (domain : String) (address : Address)
deriving Repr, DecidableEq

abbrev Call.Result : Call → Type
  | .listRegions => List Region
  | .listSizes => List Size
  | .listSizesIn _ => List Size
  | .chooseSize _ => String
  | .createServer _ => Server
  | .awaitServer _ => Server
  | .destroyServer _ => Unit
  | .pointDomain .. => Unit

abbrev Service := (call : Call) → Network Error call.Result

abbrev Settings := Std.ExtTreeMap String String

/-- Applies a setting, unless one before it was not accepted. -/
def applySetting {α : Type} (apply : α → String → String → Except Error α)
    (state : α × Except Error Unit) (setting : String × String) : α × Except Error Unit :=
  match state with
  | (account, .ok ()) =>
      match apply account setting.1 setting.2 with
      | .ok account => (account, .ok ())
      | .error error => (account, .error error)
  | stopped => stopped

/-- Applies settings in the order of their names, up to the first that is not
accepted. -/
def applySettings {α : Type} (apply : α → String → String → Except Error α) (account : α)
    (settings : Settings) : α × Except Error Unit :=
  settings.toList.foldl (applySetting apply) (account, .ok ())

end Provider

structure Provider (Backend : Type) where
  name : String
  dnsHost : Dns.Host
  needsConfig : Bool
  backend : Backend

namespace Provider

/-- The providers by name; each is made anew from the settings of a deployment. -/
abbrev Registry (Backend : Type) :=
  Std.ExtTreeMap String (Settings → Except Error (Provider Backend))

namespace Registry

variable {Backend : Type}

def create (registry : Registry Backend) (name : String) :
    Except Error (Settings → Except Error (Provider Backend)) :=
  match registry[name]? with
  | some factory => .ok factory
  | none => .error (.unknownProvider name)

end Registry

end Provider

end Rollout
