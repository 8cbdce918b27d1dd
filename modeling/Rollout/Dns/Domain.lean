import Rollout.Text.Blank
import Rollout.Text.Pieces

namespace Rollout.Dns

/-! Domain names as labels between points, and what may go wrong with the DNS of a domain. -/

inductive Error where
  | noNameservers (domain : String)
  | lookup (domain reason : String)
  | noZone (registrar domain : String)
  | api (registrar reason : String)
  | unsupportedRegistrar (name : String)
deriving Repr, DecidableEq

def Error.message : Error → String
  | .noNameservers domain => s!"no nameservers found for {domain}"
  | .lookup domain reason => s!"nameserver lookup for {domain} failed: {reason}"
  | .noZone registrar domain => s!"no {registrar} zone covers {domain}"
  | .api registrar reason => s!"{registrar} API error: {reason}"
  | .unsupportedRegistrar name => s!"unsupported DNS registrar '{name}'"

def bareDomain (domain : String) : List Char :=
  Text.stripCharEnd '.' (Text.trim domain.toList)

def joined (labels : List (List Char)) : String :=
  String.ofList (List.intercalate ['.'] labels)

/-- The zone of a domain, which has its last two labels, and the part before the
zone. -/
def splitDomain (domain : String) : String × String :=
  let labels := Text.splitAt '.' (bareDomain domain)
  let count := labels.length - 2
  (joined (labels.drop count), joined (labels.take count))

/-- The names of the zones that may hold a domain: its last two labels first, and
then every longer part from the whole domain on. -/
def zoneCandidates (domain : String) : List String :=
  let bare := Text.lower (String.ofList (bareDomain domain))
  let labels := Text.splitAt '.' bare.toList
  let longer := (List.range (labels.length - 1)).map fun count => joined (labels.drop count)
  ((splitDomain bare).1 :: longer).eraseDups

end Rollout.Dns
