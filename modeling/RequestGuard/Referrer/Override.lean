import RequestGuard.Host.Site
import RequestGuard.Referrer.Basic

/-!
# Overriding referrers

When a request leaves the site of its page, the referrer is replaced by the origin
of a page.  A few sites cannot work without it on hosts of their own, and keep it.

* A mask is a scheme, a host and a path, in which stars stand for any of them.
* `isExempt` holds for the requests of those sites to the addresses of their masks.
* `Situation.override?` is the replacement, or none where the referrer is kept;
  `Situation.decide` is what this does to a referrer that is there already.
-/

namespace RequestGuard
namespace Referrer

section Masks

/-- Does a scheme go with the scheme of a mask? -/
def schemeFits (mask : List Char) (scheme : String) : Bool :=
  mask == ['*'] || mask == scheme.toList

/-- Does a host go with the host of a mask?  Behind `*.` stands a domain. -/
def hostFits (mask : List Char) (host : String) : Bool :=
  match mask with
  | '*' :: '.' :: domain => Host.isWithin host (String.ofList domain)
  | _ => mask == ['*'] || mask == host.toList

/-- Does a path go with the path of a mask?  A star at its end stands for any text. -/
def pathFits (mask : List Char) (path : String) : Bool :=
  if mask.getLast? = some '*' then mask.dropLast.isPrefixOf path.toList
  else mask == path.toList

/-- The host and the path of a mask behind its scheme; without a path, any path will do. -/
def cutPath (rest : List Char) : List Char × List Char :=
  match rest.dropWhile (· != '/') with
  | [] => (rest, ['/', '*'])
  | path => (rest.takeWhile (· != '/'), path)

/-- Does an address go with a mask? -/
def maskFits (mask : String) (u : Url) : Bool :=
  match Text.cutAt? [':', '/', '/'] mask.toList with
  | none => false
  | some (scheme, rest) =>
    let (host, path) := cutPath rest
    schemeFits scheme u.scheme && hostFits host (u.hostText?.getD "") &&
      pathFits path u.path.text

end Masks

section Exempt

/-- The pages that keep their referrer, with masks of the addresses that they keep it
for. -/
def exemptions : List (String × List String) :=
  [("https://www.facebook.com/", ["https://*.fbcdn.net/*"]),
    ("https://www.twitch.tv/", ["https://*.ttvnw.net/*"]),
    ("https://www.reddit.com/", ["https://www.redditmedia.com/*"]),
    ("https://www.redditmedia.com/", ["https://cdn.embedly.com/*"]),
    ("https://cdn.embedly.com/", ["https://imgur.com/*"])]

/-- The masks of the addresses that a page may show its whole referrer to. -/
def masksOf (firstParty : Url) : List String :=
  match firstParty.originUrl? with
  | none => []
  | some front => (exemptions.filter fun e => e.1 == front.text).flatMap Prod.snd

/-- May the page show its whole referrer to this address? -/
def isExempt (firstParty subresource : Url) : Bool :=
  (masksOf firstParty).any fun mask => maskFits mask subresource

end Exempt

section Override

/-- A request whose referrer may be replaced. -/
structure Situation where
  /-- Does the user allow overriding at all? -/
  allowReferrers : Bool
  /-- Is protection on for the page? -/
  shieldsUp : Bool
  /-- The referrer as it is. -/
  current : Option Url
  /-- The page in the tab. -/
  tab : Url
  /-- The requested address. -/
  target : Url
  /-- The page whose origin is shown instead. -/
  replacement : Url
  /-- How much may be shown. -/
  policy : Policy

/-- Does the request stay on the site of the tab? -/
def Situation.staysOnSite (s : Situation) : Bool :=
  let tab := s.tab.hostText?.getD ""
  !tab.isEmpty && Host.sameSite tab (s.target.hostText?.getD "")

/-- Is the referrer replaced? -/
def Situation.overrides (s : Situation) : Bool :=
  s.allowReferrers && s.shieldsUp && s.current.isSome && !s.staysOnSite &&
    !isExempt s.tab s.target

/-- The referrer that is sent instead, where the referrer is replaced. -/
def Situation.override? (s : Situation) : Option Referrer :=
  if s.overrides then
    some (sanitize s.target ⟨s.replacement.originUrl?, s.policy⟩)
  else none

/-- Whether the referrer is replaced, and what is written in place of `output`. -/
def Situation.decide (s : Situation) (output : Referrer) : Bool × Referrer :=
  match s.override? with
  | some r => (true, r)
  | none => (false, output)

end Override

end Referrer
end RequestGuard
