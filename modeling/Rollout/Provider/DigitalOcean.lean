import Rollout.Dns.Record
import Rollout.Json.Fields
import Rollout.Provider.Choice
import Rollout.Provider.Polling

namespace Rollout.Provider.DigitalOcean

/-! Servers and DNS of DigitalOcean. -/

def name : String := "digitalocean"

def base : String := "https://api.digitalocean.com/v2"

def recordTtl : Nat := 1800

structure Account where
  token : Option String := none
  defaultImage : String := "ubuntu-24-04-x64"

namespace Account

def token? (account : Account) : Except Error String :=
  match account.token.filter fun token => !Text.isBlankText token with
  | some token => .ok token
  | none => .error (.notConfigured name "token")

def needsConfig (account : Account) : Bool := account.token?.toOption.isNone

def describe (account : Account) : String :=
  "DigitalOceanProvider \x7b configured: " ++ toString (!account.needsConfig) ++ ", .. \x7d"

def set (account : Account) (key value : String) : Except Error Account :=
  if key = "token" ∨ key = "api_token" then .ok { account with token := some value }
  else .error (.unknownSetting name key)

def configure (account : Account) (settings : Settings) : Account × Except Error Unit :=
  applySettings set account settings

end Account

def failed (reason : String) : Error := .api name reason

def request (account : Account) (method : Http.Method) (path : String)
    (body : Http.Body) : Network Error Http.Response := do
  let token ← (account.token? : Except Error String)
  Network.send failed { method, url := base ++ path, headers := [Http.bearer token], body }

def call (account : Account) (method : Http.Method) (path : String) (body : Http.Body) :
    Network Error Http.Response := do
  let response ← request account method path body
  if response.isSuccess then pure response
  else throw (failed s!"{Http.statusText response.status}: {response.text}")

def get {α : Type} (account : Account) (read : Json → Option α) (path : String) :
    Network Error α := do
  Network.decode failed read (← call account .get path .empty)

private def region? (json : Json) : Option (Option Region) := do
  let fields ← json.fields? ["slug", "name", "available"]
  let id ← fields.required "slug" Json.text?
  let name ← fields.required "name" Json.text?
  let available ← fields.orElse "available" false Json.bool?
  some (if available then some { id, name } else none)

def smallWord? : Json → Option Nat := Json.below? Text.smallWordLimit
def word? : Json → Option Nat := Json.below? Text.wordLimit

def size? (json : Json) : Option (Option Size) := do
  let fields ← json.fields?
    ["slug", "memory", "vcpus", "disk", "price_monthly", "regions", "available"]
  let size := {
    id := ← fields.required "slug" Json.text?
    vcpus := ← fields.required "vcpus" smallWord?
    memoryMb := ← fields.required "memory" word?
    diskGb := ← fields.required "disk" word?
    price := ← fields.required "price_monthly" Json.number?
    regions := ← fields.orElse "regions" [] (Json.list? Json.text?) }
  let available ← fields.orElse "available" true Json.bool?
  some (if available then some size else none)

def available? {α : Type} (name : String) (read : Json → Option (Option α))
    (json : Json) : Option (List α) := do
  let fields ← json.fields? [name]
  let all ← fields.required name (Json.list? read)
  some (all.filterMap id)

private def network? (json : Json) : Option (String × String) := do
  let fields ← json.fields? ["ip_address", "type"]
  let address ← fields.required "ip_address" Json.text?
  let kind ← fields.required "type" Json.text?
  some (address, kind)

private def networks? (json : Json) : Option (List (String × String)) := do
  (← json.fields? ["v4"]).orElse "v4" [] (Json.list? network?)

/-- Reads a server.  Its address is that of its first public network. -/
def server? (json : Json) : Option Server := do
  let droplet ← (← json.fields? ["droplet"]).required "droplet" some
  let fields ← droplet.fields? ["id", "name", "status", "networks"]
  let id ← fields.required "id" word?
  let name ← fields.required "name" Json.text?
  let status ← fields.required "status" Json.text?
  let networks ← fields.orElse "networks" [] networks?
  let address := (networks.find? fun (_, kind) => kind = "public").bind fun (address, _) =>
    Address.ofText? address
  some { id := toString id, name, address, status }

def listSizes (account : Account) : Network Error (List Size) :=
  get account (available? "sizes" size?) "/sizes?per_page=200"

def createServer (account : Account) (order : Order) : Network Error Server := do
  let body := Json.object ([("name", .text order.name), ("region", .text order.region),
    ("size", .text order.size), ("image", .text (order.image.getD account.defaultImage)),
    ("tags", .array (order.tags.map .text))] ++
    match order.userData with
    | some userData => [("user_data", .text userData)]
    | none => [])
  Network.decode failed server? (← call account .post "/droplets" (.json body))

def createRecord (account : Account) (zone name : String) (address : Address) :
    Network Error Http.Response :=
  request account .post s!"/domains/{zone}/records" (.json (.object
    [("type", .text (Dns.addressType address)), ("name", .text name),
      ("data", .text address.toText), ("ttl", .whole recordTtl)]))

/-- Creates the record of a domain; a zone that does not exist yet is created
first. -/
def pointDomain (account : Account) (domain : String) (address : Address) :
    Network Error Unit := do
  let (zone, sub) := Dns.splitDomain domain
  let name := if sub.isEmpty then "@" else sub
  let first ← createRecord account zone name address
  let response ← if first.status = 404 then do
      discard (call account .post "/domains" (.json (.object [("name", .text zone)])))
      createRecord account zone name address
    else pure first
  if response.isSuccess then pure () else throw (failed response.text)

def look (account : Account) (id : String) : Network Error (Option Server) := do
  pure (some (← get account server? s!"/droplets/{id}"))

def awaitServer (account : Account) (id : String) (polling : Polling := .usual) :
    Network Error Server :=
  polling.await (look account id) "active" id

def service (account : Account) : Service
  | .listRegions => get account (available? "regions" region?) "/regions?per_page=200"
  | .listSizes => listSizes account
  | .listSizesIn region => do pure ((← listSizes account).filter (·.isOfferedIn region))
  | .chooseSize requirement => do
      let sizes ← listSizes account
      (chooseSize sizes requirement : Except Error String)
  | .createServer order => createServer account order
  | .awaitServer id => awaitServer account id
  | .destroyServer id => discard (call account .delete s!"/droplets/{id}" .empty)
  | .pointDomain domain address => pointDomain account domain address

def Account.provider (account : Account) : Provider Service where
  name := DigitalOcean.name
  dnsHost := .digitalOcean
  needsConfig := account.needsConfig
  backend := service account

end Rollout.Provider.DigitalOcean
