import Rollout.Dns.Record
import Rollout.Http.Exchange
import Rollout.Provider.Choice
import Rollout.Provider.Polling
import Rollout.Provider.Scaleway.Account
import Rollout.Provider.Scaleway.Instance
import Rollout.Provider.Scaleway.Size
import Rollout.Provider.Scaleway.Zone

namespace Rollout.Provider.Scaleway

/-! Servers and DNS of Scaleway. -/

def instanceBase : String := "https://api.scaleway.com/instance/v1"
def domainBase : String := "https://api.scaleway.com/domain/v2beta1"

def recordTtl : Nat := 300

def zoneUrl (zone : String) : String := s!"{instanceBase}/zones/{zone}"

def serverUrl (server : Reference) : String := s!"{zoneUrl server.zone}/servers/{server.id}"

def keyHeader (key : String) : String × String := ("x-auth-token", key)

def request (account : Account) (method : Http.Method) (url : String) (body : Http.Body)
    (headers : List (String × String) := []) : Network Error Http.Response := do
  let key ← (account.secretKey? : Except Error String)
  Network.send failed { method, url, headers := keyHeader key :: headers, body }

def accept (response : Http.Response) : Network Error Http.Response :=
  if response.isSuccess then pure response else throw (failed response.text)

private structure Refusal where
  kind : String
  reason : String
  resource : Option String

private def refusal? (json : Json) : Option Refusal := do
  let fields ← json.fields? ["message", "type", "resource", "resource_id"]
  let reason ← fields.required "message" Json.text?
  let kind ← fields.required "type" Json.text?
  let resource ← fields.optional "resource" Json.text?
  let _ ← fields.optional "resource_id" Json.text?
  some { kind, reason, resource }

/-- Sends a request of the client for images and states.  A refusal says of what
kind it is. -/
def ask (account : Account) (method : Http.Method) (url : String)
    (query : List (String × String)) (body : Http.Body) : Network Error Http.Response := do
  let key ← (account.clientKey? : Except Error String)
  let response ← Network.send (fun reason => failed s!"Request: {reason}")
    { method, url, query, headers := [keyHeader key], body }
  if 400 ≤ response.status ∧ response.status < 500 then
    let refusal ← Network.decode failed refusal? response
    throw (failed s!"Api: {refusal.kind} - {refusal.reason}")
  else if 500 ≤ response.status ∧ response.status < 600 then
    let status := Http.statusText response.status
    throw (failed s!"Request: HTTP status server error ({status}) for url ({Http.urlWithQuery url query})")
  else pure response

def act (account : Account) (server : Reference) (action : String) : Network Error Unit :=
  discard (ask account .post (serverUrl server ++ "/action") []
    (.json (.object [("action", .text action)])))

def list? {α : Type} (name : String) (read : Json → Option α) (json : Json) :
    Option (List α) := do
  (← json.fields? [name]).required name (Json.list? read)

def listSizes (account : Account) (zone : String) : Network Error (List Size) := do
  let response ← request account .get (zoneUrl zone ++ "/products/servers?per_page=100") .empty
  Network.decode failed (sizes? zone) (← accept response)

def imageId (account : Account) (zone image : String) : Network Error String :=
  if Image.isId image then pure image
  else do
    let response ← ask account .get (zoneUrl zone ++ "/images")
      [("public", "true"), ("name", image), ("arch", account.architecture)] .empty
    let images ← Network.decode failed (list? "images" Image.ofJson?) response
    match Image.newest? images account.architecture with
    | some newest => pure newest.id
    | none => throw (failed s!"image '{image}' ({account.architecture}) not found in zone {zone}")

def orderJson (account : Account) (order : Order) (image project : String) : Json :=
  .object ([("name", .text order.name), ("commercial_type", .text order.size),
    ("image", .text image), ("project", .text project), ("routed_ip_enabled", .bool true),
    ("dynamic_ip_required", .bool true), ("tags", .array (order.tags.map .text)),
    ("stopped", .bool true)] ++
    match account.organizationId with
    | some organization => [("organization", .text organization)]
    | none => [])

def instance? (json : Json) : Option Instance := do
  (← json.fields? ["server"]).required "server" Instance.ofJson?

def createStopped (account : Account) (zone image : String) (order : Order) :
    Network Error Instance := do
  let project ← (account.projectId? : Except Error String)
  let response ← request account .post (zoneUrl zone ++ "/servers")
    (.json (orderJson account order image project))
  let refused := (response.decode? refusal?).bind (·.resource)
  if !response.isSuccess && refused = some "commercial_type" then
    throw (failed s!"instance type '{order.size}' not available in zone {zone}")
  else Network.decode failed instance? (← accept response)

/-- Creates a server, hands it its user data, and only then starts it. -/
def createServer (account : Account) (order : Order) : Network Error Server := do
  let zone := if order.region.isEmpty then account.zone else order.region
  let image ← imageId account zone (order.image.getD account.image)
  let created ← createStopped account zone image order
  let server : Reference := { zone, id := created.id }
  if let some userData := order.userData then
    discard (accept (← request account .patch (serverUrl server ++ "/user_data/cloud-init")
      (.text userData) [("content-type", "text/plain")]))
  act account server "poweron"
  pure { id := server.toText, name := order.name, address := none, status := created.state }

/-- Reads pages up to the first empty one and gives the last instance seen. -/
def lastInstance (account : Account) (server : Reference) :
    (pages : Nat) → (page : Nat) → Option Instance → Network Error (Option Instance)
  | 0, _, last => pure last
  | pages + 1, page, last => do
      let response ← ask account .get (zoneUrl server.zone ++ "/servers")
        [("servers", server.id), ("per_page", "1"), ("page", toString page)] .empty
      let seen ← Network.decode failed (list? "servers" Instance.ofJson?) response
      match seen.getLast? with
      | some found => lastInstance account server pages (page + 1) (some found)
      | none => pure last

/-- Looks at a server.  Pages are numbered by 32-bit words from 1. -/
def look (account : Account) (server : Reference) : Network Error (Option Server) := do
  let last ← lastInstance account server (Text.smallWordLimit - 1) 1 none
  pure (last.map fun seen =>
    { id := server.toText, name := seen.name, address := seen.address, status := seen.state })

def pointDomain (account : Account) (domain : String) (address : Address) :
    Network Error Unit := do
  let (zone, sub) := Dns.splitDomain domain
  let names := [("name", .text sub), ("type", .text (Dns.addressType address))]
  let record := .object (names ++ [("data", .text address.toText), ("ttl", .whole recordTtl)])
  let change := Json.object [("set", .object
    [("id_fields", .object names), ("records", .array [record])])]
  discard (accept (← request account .patch s!"{domainBase}/dns-zones/{zone}/records"
    (.json (.object [("changes", .array [change])]))))

def awaitServer (account : Account) (id : String) (polling : Polling := .usual) :
    Network Error Server :=
  let server := Reference.ofText account.zone id
  polling.await (look account server) "running" server.toText

def service (account : Account) : Service
  | .listRegions => pure zones
  | .listSizes => listSizes account account.zone
  | .listSizesIn region => listSizes account region
  | .chooseSize requirement => do
      let sizes ← listSizes account account.zone
      (chooseSize sizes requirement : Except Error String)
  | .createServer order => createServer account order
  | .awaitServer id => awaitServer account id
  | .destroyServer id => act account (Reference.ofText account.zone id) "terminate"
  | .pointDomain domain address => pointDomain account domain address

def Account.provider (account : Account) : Provider Service where
  name := Scaleway.name
  dnsHost := .scaleway
  needsConfig := account.needsConfig
  backend := service account

end Rollout.Provider.Scaleway
