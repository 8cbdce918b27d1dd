import Rollout.Dns.Host
import Rollout.Json.Fields
import Rollout.Network

namespace Rollout.Dns

/-! The nameservers of a domain. -/

/-- Tells who answers for a domain from its first nameserver.  A domain that has
none is answered for by its zone. -/
def detect {m : Type → Type} [Monad m] (lookup : String → ExceptT Error m (List String))
    (domain : String) : ExceptT Error m Host := do
  let found ← lookup domain
  let zone := (splitDomain domain).1
  let found ← (if found.isEmpty ∧ zone ≠ domain then lookup zone else pure found)
  match found with
  | first :: _ => pure (.classify first)
  | [] => throw (.noNameservers domain)

def resolverEndpoint : String := "https://cloudflare-dns.com/dns-query"

private def nameserverType : Nat := 2

private def answer? (json : Json) : Option (Nat × String) := do
  let fields ← json.fields? ["type", "data"]
  let type ← fields.required "type" (Json.below? 65536)
  let data ← fields.required "data" Json.text?
  some (type, data)

private def answers? (json : Json) : Option (List (Nat × String)) := do
  let fields ← json.fields? ["Answer"]
  fields.orElse "Answer" [] (Json.list? answer?)

def lookup (endpoint domain : String) : Network Error (List String) := do
  let failed := Error.lookup domain
  let response ← Network.send failed {
    method := .get
    url := endpoint
    query := [("name", domain), ("type", "NS")]
    headers := [("accept", "application/dns-json")] }
  if response.isSuccess then
    let answers ← Network.decode failed answers? response
    pure <| (answers.filter (·.1 = nameserverType)).map fun (_, data) =>
      Text.lower (String.ofList (Text.stripCharEnd '.' data.toList))
  else throw (failed response.text)

end Rollout.Dns
