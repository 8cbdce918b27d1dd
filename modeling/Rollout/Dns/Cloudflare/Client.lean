import Rollout.Dns.Cloudflare.Zone
import Rollout.Json.Fields
import Rollout.Network
import Rollout.Text.Quoted

namespace Rollout.Dns

/-! Accounts at Cloudflare over the network, with a token that may edit their zones. -/

namespace Cloudflare

structure Client where
  token : String
  base : String := "https://api.cloudflare.com/client/v4"

def Client.describe (client : Client) : String :=
  "CloudflareClient \x7b api_base: " ++ Text.quoted client.base ++ ", .. \x7d"

def Zone.ofJson? (json : Json) : Option Zone := do
  let fields ← json.fields? ["id", "name"]
  some { id := ← fields.required "id" Json.text?, name := ← fields.required "name" Json.text? }

structure Envelope (α : Type) where
  success : Bool
  errors : List String
  result : Option α

def Envelope.ofJson? {α : Type} (read : Json → Option α) (json : Json) :
    Option (Envelope α) := do
  let message? (json : Json) : Option String := do
    (← json.fields? ["message"]).required "message" Json.text?
  let fields ← json.fields? ["success", "errors", "result"]
  some {
    success := ← fields.required "success" Json.bool?
    errors := ← fields.orElse "errors" [] (Json.list? message?)
    result := ← fields.optional "result" read }

namespace Client

def failed (reason : String) : Error := .api name reason

/-- Sends a request and opens the envelope of its response, whatever its status. -/
def call {α : Type} (client : Client) (read : Json → Option α) (method : Http.Method)
    (path : String) (query : List (String × String)) (body : Http.Body) : Network Error α := do
  let response ← Network.send failed {
    method
    url := client.base ++ path
    query
    headers := [Http.bearer client.token]
    body }
  let envelope ← Network.decode failed (Envelope.ofJson? read) response
  if !envelope.success then throw (failed ("; ".intercalate envelope.errors))
  else
    match envelope.result with
    | some result => pure result
    | none => throw (failed "response carried no result")

def recordsPath (zone : Zone) : String := s!"/zones/{zone.id}/dns_records"

def content (record : Record) : Json :=
  .object ([("type", .text record.recordType), ("name", .text record.name),
    ("content", .text record.content), ("ttl", .whole record.ttl)] ++
    match record.proxied with
    | some proxied => [("proxied", .bool proxied)]
    | none => [])

def id? (json : Json) : Option String := do
  (← json.fields? ["id"]).required "id" Json.text?

def perform (client : Client) : (call : Call) → Network Error call.Result
  | .zones name =>
      client.call (Json.list? Zone.ofJson?) .get "/zones" [("name", name)] .empty
  | .records zone recordType name =>
      client.call (Json.list? id?) .get (recordsPath zone)
        [("type", recordType), ("name", name)] .empty
  | .replace zone id record =>
      discard (client.call Json.legible? .put s!"{recordsPath zone}/{id}" [] (.json (content record)))
  | .create zone record =>
      discard (client.call Json.legible? .post (recordsPath zone) [] (.json (content record)))

def run {α : Type} (client : Client) (calls : Calls α) : Network Error α :=
  ExceptT.mk (calls.run.interpret fun call => (client.perform call).run)

end Client

end Cloudflare

/-- Who a registrar's interface is to be used as.  The token is not shown. -/
structure Credentials where
  registrar : String
  token : String
deriving DecidableEq

def Credentials.describe (credentials : Credentials) : String :=
  "RegistrarCredentials \x7b registrar: " ++ Text.quoted credentials.registrar ++
    ", token: \"<redacted>\" \x7d"

structure Registrar where
  name : String
  client : Cloudflare.Client

def registrarFor (credentials : Credentials) : Except Error Registrar :=
  let name := Text.lower credentials.registrar
  if name = Cloudflare.name then .ok { name, client := { token := credentials.token } }
  else .error (.unsupportedRegistrar name)

end Rollout.Dns
