import Blocklist.Request.Type
import Blocklist.Text.Utf8
import Blocklist.Host.Domain
import Blocklist.Url
/-!
# Requests

What a page asks for: an address, the host that asks, the types the answer
may be used as, and whether the two hosts belong to different sites.
-/

namespace Blocklist

/-- A request as filters see it. -/
structure Request where
  /-- The address, as it was given. -/
  url : String
  /-- The host of the page or frame that asks, in lower case. -/
  sourceHost : String
  /-- The types of the resource. -/
  types : TypeSet
  /-- Whether the address belongs to another site than the page. -/
  thirdParty : Bool
  deriving DecidableEq, Repr

namespace Request

/-- A request of which the party is known. -/
def ofHost (url : String) (types : TypeSet) (sourceHost : String) (thirdParty : Bool) :
    Request where
  url := url
  sourceHost := String.ofList (Text.lower sourceHost.toList)
  types := types
  thirdParty := thirdParty

/-- The address in lower case. -/
def lowerUrl (r : Request) : List Char := Text.lower r.url.toList

/-- The host of the address, in lower case; empty where the address has none. -/
def host (r : Request) : List Char := (Url.host? r.lowerUrl).getD []

/-- A request of the page with this address. It goes to a third party if the page has a host and the
two hosts have different registrable domains. -/
def ofPage (url page : String) (types : TypeSet) : Request :=
  let source := Text.lower ((Url.host? page.toList).getD [])
  let request := ofHost url types (String.ofList source) false
  { request with thirdParty := !source.isEmpty && Host.differ source request.host }

end Request

end Blocklist
