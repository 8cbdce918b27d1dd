import Rollout.Dns.Domain

namespace Rollout.Dns

/-! Who answers for a domain, told from the name of a nameserver. -/

inductive Host where
  | cloudflare
  | digitalOcean
  | scaleway
  | route53
  | googleCloud
  | azure
  | hetzner
  | linode
  | vultr
  | ovh
  | gandi
  | namecheap
  | goDaddy
  | unknown (nameserver : String)
deriving Repr, DecidableEq

namespace Host

/-- Parts of nameserver names by which hosts are known, in the order in which they
are tried. -/
def signatures : List (String × Host) :=
  [("cloudflare.com", cloudflare), ("digitalocean.com", digitalOcean), ("scw.cloud", scaleway),
    ("awsdns", route53), ("googledomains.com", googleCloud), ("azure-dns", azure),
    ("hetzner", hetzner), ("linode.com", linode), ("vultr.com", vultr), ("ovh.net", ovh),
    ("gandi.net", gandi), ("registrar-servers.com", namecheap), ("domaincontrol.com", goDaddy)]

def classify (nameserver : String) : Host :=
  let name := Text.lower (String.ofList (bareDomain nameserver))
  match signatures.find? fun (part, _) => Text.occursIn part.toList name.toList with
  | some (_, host) => host
  | none => unknown name

def name : Host → String
  | cloudflare => "Cloudflare"
  | digitalOcean => "DigitalOcean"
  | scaleway => "Scaleway"
  | route53 => "Route 53"
  | googleCloud => "Google Cloud DNS"
  | azure => "Azure DNS"
  | hetzner => "Hetzner"
  | linode => "Linode"
  | vultr => "Vultr"
  | ovh => "OVH"
  | gandi => "Gandi"
  | namecheap => "Namecheap"
  | goDaddy => "GoDaddy"
  | unknown nameserver => s!"unknown ({nameserver})"

end Host

end Rollout.Dns
