import RequestGuard.Config.Document
import RequestGuard.Filter.FilterList
import RequestGuard.Loading.Lazy
import RequestGuard.Upgrade.Source
import RequestGuard.Tracking.TrackerList

/-!
# Guards

A guard holds the rules of every family, each loaded when it is first needed, and what
is remembered between questions.

A family that cannot be loaded lets everything pass.
-/

namespace RequestGuard

open Upgrade

/-- The rules of every family, and what is remembered. -/
structure Guard where
  /-- Where the rules are and how much is remembered. -/
  config : Config
  /-- Makes matchers from the data of filter lists. -/
  makeMatcher : Matcher.Factory
  /-- The trackers. -/
  tracking : Lazy TrackerList
  /-- The filter list. -/
  adBlock : Lazy Matcher
  /-- The regional filter lists. -/
  regional : Lazy (List Matcher)
  /-- The upgrade rules. -/
  https : Lazy Source
  /-- What has happened to their source since. -/
  past : Source.Past
  /-- The answers about upgrades. -/
  upgrader : Upgrader
  /-- The hosts of the entities of base hosts asked about last. -/
  related : Recency.Cache String (List String)
  /-- Hosts that are let pass although they are trackers. -/
  allowed : List String

namespace Guard

section Start

/-- Hosts that are always let pass although they are trackers. -/
def alwaysAllowed : List String :=
  ["connect.facebook.net", "connect.facebook.com", "staticxx.facebook.com",
    "www.facebook.com", "scontent.xx.fbcdn.net", "pbs.twimg.com", "platform.twitter.com",
    "syndication.twitter.com", "cdn.syndication.twimg.com"]

/-- The matcher of a filter list. -/
def filterMatcher : Matcher.Factory := fun bytes =>
  (FilterList.ofBytes bytes).map FilterList.matcher

/-- A guard that has loaded nothing. -/
def start (c : Config) (makeMatcher : Matcher.Factory) : Guard where
  config := c
  makeMatcher := makeMatcher
  tracking := .fresh .tracking
  adBlock := .fresh .adBlock
  regional := .fresh .regional
  https := .fresh .https
  past := .none
  upgrader := .empty c
  related := .empty c.siteCapacity
  allowed := alwaysAllowed

/-- A guard that has loaded nothing, if the configuration is usable. -/
def ofConfig (c : Config) (makeMatcher : Matcher.Factory) : Except Failure Guard :=
  c.usable.map fun c => start c makeMatcher

end Start

section Words

/-- The guard, in words. -/
def describe (g : Guard) : String :=
  s!"BlockersWorker \x7b data_dir: {Text.Quoted.encode g.config.dataDir}, " ++
    s!"tp: {g.tracking.isLoaded}, ad_block: {g.adBlock.isLoaded}, " ++
    s!"ad_block_regional: {g.regional.isLoaded}, httpse: {g.https.isLoaded} \x7d"

end Words

end Guard
end RequestGuard
