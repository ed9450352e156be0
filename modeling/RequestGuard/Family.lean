/-!
# Rule families

The four kinds of rule data that are loaded and asked apart from each other.
-/

namespace RequestGuard

/-- A kind of rule data. -/
inductive Family where
  /-- Hosts that follow visitors from site to site. -/
  | tracking
  /-- The filter list that is used everywhere. -/
  | adBlock
  /-- The filter lists for a language. -/
  | regional
  /-- Rules that turn addresses into secure ones. -/
  | https
  deriving DecidableEq, Repr

/-- The name of a family in messages. -/
def Family.name : Family → String
  | .tracking => "tracking-protection"
  | .adBlock => "ad-block"
  | .regional => "ad-block-regional"
  | .https => "httpse"

end RequestGuard
