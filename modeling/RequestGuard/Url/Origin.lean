import RequestGuard.Url.Parser

/-!
# Origins

The origin of an address is its scheme, host and port.  An address of the scheme
`blob` has the origin of the address that its path writes.

* `origin?` is none for an address that no site owns.
* `originUrl?` is the front page of the origin: what a referrer may always show.
-/

namespace RequestGuard
namespace Url

/-- The origin of an address that at most `depth` others are wrapped around. -/
def originWithin? : Nat → Url → Option Origin
  | 0, _ => none
  | depth + 1, u =>
    if u.scheme = "blob" then
      match parse u.path.text with
      | .ok inner => originWithin? depth inner
      | .error _ => none
    else u.tupleOrigin?

/-- The origin of an address.  Each wrapper takes a character of the path. -/
def origin? (u : Url) : Option Origin :=
  originWithin? (u.path.text.length + 1) u

/-- The address of an origin: scheme, host and port with the path `/`. -/
def originUrl? (u : Url) : Option Url :=
  u.origin?.bind fun o => (parse (o.text ++ "/")).toOption

end Url
end RequestGuard
