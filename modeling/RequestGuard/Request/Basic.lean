import RequestGuard.Host.Site
import RequestGuard.Request.Resource
import RequestGuard.Url.Parser

/-!
# Requests

A request as the rules see it: address, host, host of the page that makes it, and
what it is for.

* `Request.ofHosts` knows hosts only.
* `Request.ofUrls?` reads the hosts from addresses; a page whose address cannot be
  read is an unknown page, and a request whose address has no host is none.
-/

namespace RequestGuard

/-- A request. -/
structure Request where
  /-- The requested address as it was written, empty where only hosts are known. -/
  url : String
  /-- The requested host. -/
  host : String
  /-- The host of the page, empty where it is not known. -/
  sourceHost : String
  /-- Does the request leave the site of the page? -/
  thirdParty : Bool
  /-- What the request is for. -/
  resources : ResourceSet
  deriving DecidableEq, Repr

namespace Request

/-- A request of which only the hosts are known. -/
def ofHosts (sourceHost host : String) : Request where
  url := ""
  host := host
  sourceHost := sourceHost
  thirdParty := Host.thirdParty sourceHost host
  resources := .single .other

/-- A request from a page. -/
def ofUrls? (url page : String) (resources : ResourceSet) : Option Request :=
  (Url.hostOf? url).map fun host =>
    let sourceHost := (Url.hostOf? page).getD ""
    { url := url
      host := host
      sourceHost := sourceHost
      thirdParty := !sourceHost.isEmpty && Host.thirdParty sourceHost host
      resources := resources }

end Request
end RequestGuard
