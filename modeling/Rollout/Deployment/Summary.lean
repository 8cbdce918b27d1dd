import Rollout.Provider.Basic

namespace Rollout.Deployment

/-! What a deployment tells when the application is installed. -/

inductive DnsOutcome where
  | configured (via : String)
  | skipped (reason : String)
  | failed (message : String)
deriving Repr, DecidableEq

inductive TlsOutcome where
  | notRequested
  | configured
  | failed (message : String)
deriving Repr, DecidableEq

structure Summary where
  app : String
  server : Provider.Server
  size : String
  url : String
  dns : DnsOutcome
  tls : TlsOutcome
deriving Repr, DecidableEq

def url (tls : TlsOutcome) (host : String) : String :=
  let scheme := if tls = .configured then "https" else "http"
  s!"{scheme}://{host}"

def Summary.report (summary : Summary) (address : Address) : List String :=
  [s!"{summary.app} is deployed",
    s!"Server: {summary.server.name} ({summary.server.id}) at {address.toText}",
    s!"Size: {summary.size}",
    s!"URL: {summary.url}",
    s!"SSH: ssh root@{address.toText}"]

end Rollout.Deployment
