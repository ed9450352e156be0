import RequestGuard.Url.Origin

/-!
# Referrers

What a request says about the page it comes from.

* `Policy` says how much a request may show of the referrer.
* `Referrer.sanitize` applies the policy of a referrer to it for one request.  It never
  shows credentials or a fragment, and nothing at all unless both ends are pages of
  the web.
-/

namespace RequestGuard

/-- How much of the referrer a request may show. -/
inductive Referrer.Policy where
  | always
  | default
  | noReferrerWhenDowngrade
  | never
  | origin
  | originWhenCrossOrigin
  | noReferrerWhenDowngradeOriginWhenCrossOrigin
  | sameOrigin
  | strictOrigin
  deriving DecidableEq, Repr

/-- A page that a request comes from, if it is shown at all, and its policy. -/
structure Referrer where
  /-- The address that is shown. -/
  url : Option Url
  /-- How much of it may be shown. -/
  policy : Referrer.Policy
  deriving DecidableEq, Repr

namespace Referrer

section Policy

/-- The names of policies in headers. -/
def Policy.names : List (String × Policy) :=
  [("unsafe-url", .always), ("always", .always), ("", .default), ("default", .default),
    ("no-referrer-when-downgrade", .noReferrerWhenDowngrade), ("no-referrer", .never),
    ("never", .never), ("origin", .origin),
    ("origin-when-cross-origin", .originWhenCrossOrigin),
    ("strict-origin-when-cross-origin", .noReferrerWhenDowngradeOriginWhenCrossOrigin),
    ("same-origin", .sameOrigin), ("strict-origin", .strictOrigin)]

/-- The policy of a name, whatever the case of its letters and the blanks around it. -/
def Policy.ofName? (name : String) : Option Policy :=
  Policy.names.lookup (Text.lower (Text.trim name))

end Policy

section Sanitize

/-- Does a step from `page` to `request` give up encryption? -/
def isDowngrade (page request : Url) : Bool :=
  page.scheme == "https" && request.scheme != "https"

/-- Do the two addresses have different origins? -/
def isCrossOrigin (page request : Url) : Bool :=
  page.origin? != request.origin?

/-- What a policy shows of a page of the web to a request to the web. -/
def Policy.shown (policy : Policy) (request page : Url) : Option Url :=
  match policy with
  | .always => some page
  | .default | .noReferrerWhenDowngrade =>
    if isDowngrade page request then none else some page
  | .never => none
  | .origin => page.originUrl?
  | .originWhenCrossOrigin =>
    if isCrossOrigin page request then page.originUrl? else some page
  | .noReferrerWhenDowngradeOriginWhenCrossOrigin =>
    if isDowngrade page request then none
    else if isCrossOrigin page request then page.originUrl?
    else some page
  | .sameOrigin => if isCrossOrigin page request then none else some page
  | .strictOrigin => if isDowngrade page request then none else page.originUrl?

/-- What the policy of a referrer leaves of it for a request. -/
def sanitize (request : Url) (r : Referrer) : Referrer :=
  match r.url with
  | none => ⟨none, r.policy⟩
  | some page =>
    if request.isWeb && page.isWeb then ⟨r.policy.shown request page.bare, r.policy⟩
    else ⟨none, r.policy⟩

end Sanitize

end Referrer
end RequestGuard
