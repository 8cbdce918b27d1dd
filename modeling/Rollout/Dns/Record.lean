import Rollout.Address
import Rollout.Installer.Spec
import Rollout.Template.Context

namespace Rollout.Dns

/-! The records of a deployment, made from the templates of its document. -/

/-- A record with its full name.  A time to live of zero leaves the choice to the
registrar. -/
structure Record where
  recordType : String
  name : String
  content : String
  ttl : Nat
  proxied : Option Bool
deriving Repr, DecidableEq

def addressType : Address → String
  | .v4 _ => "A"
  | .v6 _ => "AAAA"

/-- The full name for a rendered name.  Nothing and `@` stand for the domain, and
a name that ends with the domain is full already. -/
def qualify (domain name : String) : String :=
  if name = "" ∨ name = "@" then domain
  else if name = domain ∨ ("." ++ domain).toList.isSuffixOf name.toList then name
  else s!"{name}.{domain}"

def resolve (domain : String) (address : Address) (context : Template.Context)
    (template : Installer.RecordTemplate) : Record :=
  let content := context.render template.content
  let isAddress := template.recordType = "A" ∨ template.recordType = "AAAA"
  { recordType := template.recordType
    name := qualify domain (context.render (Text.trimmed template.name))
    content := if content = "" ∧ isAddress then address.toText else content
    ttl := template.ttl
    proxied := template.proxied }

/-- One record for each template, or the address of the domain if there is none. -/
def resolveRecords (templates : List Installer.RecordTemplate) (domain : String)
    (address : Address) (context : Template.Context) : List Record :=
  if templates.isEmpty then
    [{ recordType := addressType address
       name := domain
       content := address.toText
       ttl := 0
       proxied := none }]
  else templates.map (resolve domain address context)

end Rollout.Dns
