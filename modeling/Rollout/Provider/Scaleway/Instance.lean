import Rollout.Address
import Rollout.Provider.Scaleway.Image

namespace Rollout.Provider.Scaleway

/-! Servers as the instance interface shows them. -/

structure Instance where
  id : String
  name : String
  state : String
  address : Option Address
deriving Repr, DecidableEq

namespace Instance

private def publicAddress : Json.Shape :=
  .record [("address", .text), ("dynamic", .flag), ("family", .text), ("gateway", .nullable .text),
    ("id", .text), ("netmask", .text), ("provisioning_mode", .text), ("state", .text),
    ("tags", .list .text)]

private def securityGroup : Json.Shape := .record [("id", .text), ("name", .text)]

def shape : Json.Shape :=
  .record [("id", .text), ("name", .text), ("organization", .text), ("project", .text),
    ("allowed_actions", .list .text), ("tags", .list .text), ("commercial_type", .text),
    ("creation_date", .nullable .text), ("dynamic_ip_required", .flag),
    ("routed_ip_enabled", .flag), ("enable_ipv6", .flag), ("hostname", .text),
    ("image", Image.shape), ("protected", .flag), ("private_ip", .nullable .text),
    ("public_ip", .nullable publicAddress), ("public_ips", .list publicAddress),
    ("mac_address", .text), ("modification_date", .nullable .text), ("state", .text),
    ("location", .nullable .object), ("ipv6", .nullable .object), ("bootscript", .object),
    ("boot_type", .text), ("volumes", .object), ("security_group", securityGroup),
    ("maintenances", .list .object), ("state_detail", .text), ("arch", .text),
    ("placement_group", .nullable .object), ("private_nics", .list .object), ("zone", .text)]

private def address? (json : Json) : Option Address := do
  Address.ofText? (← (← (← json.find? "public_ip").find? "address").text?)

def ofJson? (json : Json) : Option Instance := do
  guard (shape json)
  some {
    id := ← (← json.find? "id").text?
    name := ← (← json.find? "name").text?
    state := ← (← json.find? "state").text?
    address := address? json }

end Instance

end Rollout.Provider.Scaleway
