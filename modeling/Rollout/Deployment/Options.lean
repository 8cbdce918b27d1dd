import Rollout.Dns.Cloudflare.Client
import Rollout.Dns.Policy
import Rollout.Installer.Wizard
import Rollout.Provider.Basic

namespace Rollout.Deployment

/-! What the caller of a deployment asks for. -/

structure Options where
  app : String
  provider : String
  region : String := ""
  size : String := ""
  serverName : String := ""
  domain : String := ""
  sshPublicKey : String := ""
  email : String := ""
  sslCertificate : String := ""
  sslKey : String := ""
  httpsRedirect : Bool := false
  dnsMode : Dns.Mode := .auto
  registrar : Option Dns.Credentials := none
  providerSettings : Provider.Settings := ∅
  answers : Installer.Answers := ∅

namespace Options

/-- Any of an address for certificates, a certificate and a redirection asks for
TLS. -/
def wantsTls (options : Options) : Bool :=
  !Text.isBlankText options.email || !Text.isBlankText options.sslCertificate ||
    options.httpsRedirect

/-- The fields that placeholders can name, with their texts as they were given. -/
def fields (options : Options) : List (String × String) :=
  [("AppName", options.app), ("Provider", options.provider), ("Region", options.region),
    ("Size", options.size), ("ServerName", options.serverName), ("Domain", options.domain),
    ("SSHPublicKey", options.sshPublicKey), ("Email", options.email),
    ("SSLCertificate", options.sslCertificate), ("SSLKey", options.sslKey),
    ("DNSMode", options.dnsMode.name)]

def context (options : Options) : Template.Context :=
  let texts := options.fields.foldl
    (fun context (field, value) => context.insertString field value) Template.Context.empty
  (texts.insertFlag "EnableSSL" options.wantsTls).insertFlag "HttpToHttpsRedirection"
    options.httpsRedirect

def wantsAnySize (options : Options) : Bool :=
  Text.isBlankText options.size || Text.sameLetters options.size "auto"

end Options

end Rollout.Deployment
