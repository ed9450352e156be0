import RequestGuard.Guard.Loading

/-!
# What a guard answers

Questions about requests.  A question loads the rules of its family if nobody has tried
before; without rules the answer is to let the request pass as it is.

* `blocksTracker` is about a host that a page asks for: a tracker is blocked unless it
  is on the site of the page, belongs to the same entity, or is allowed.
* `blocksAd` is about an address: the filter list decides first, then, if wanted, the
  regional lists.
* `secureUrl` and `secureUrlFromCache` give the secure form of an address.
-/

namespace RequestGuard
namespace Guard

open Files

section Trackers

/-- The hosts that belong to the entity of a base host, as remembered or from the list. -/
def relatedHosts (g : Guard) (l : TrackerList) (base : String) : List String × Guard :=
  match g.related.peek? base with
  | some hosts => (hosts, g)
  | none =>
    let hosts := l.sameEntity base
    (hosts, { g with related := g.related.insert base hosts })

/-- Is a host, asked for by a page, blocked by a list of trackers?  Both hosts are in
normal form. -/
def blocksListed (g : Guard) (l : TrackerList) (base host : String) : Bool × Guard :=
  if base.isEmpty || host.isEmpty || !Host.thirdParty base host then (false, g)
  else if (l.decide (.ofHosts base host)).isBlock then
    let (hosts, g) := g.relatedHosts l base
    (!(hosts.any fun h => Host.isWithin host h) && !g.allowed.contains host, g)
  else (false, g)

/-- Is a host blocked that a page on a base host asks for? -/
def blocksTracker (g : Guard) (t : Tree) (base host : String) : Bool × List LogLine × Guard :=
  match g.trackingNow t with
  | (none, log, g) => (false, log, g)
  | (some l, log, g) =>
    let (b, g) := g.blocksListed l (Host.normalize base) (Host.normalize host)
    (b, log, g)

/-- Lets a host pass although it is a tracker. -/
def allow (g : Guard) (host : String) : Guard :=
  let host := Host.normalize host
  if host.isEmpty || g.allowed.contains host then g
  else { g with allowed := g.allowed ++ [host] }

end Trackers

section Ads

/-- Do the regional lists block a request? -/
def blocksRegional (g : Guard) (t : Tree) (r : Request) : Bool × List LogLine × Guard :=
  match g.regionalNow t with
  | (none, log, g) => (false, log, g)
  | (some ms, log, g) => (Matcher.anyBlocks ms r, log, g)

/-- Is a request blocked by the filter list, or by the regional lists if they are
asked? -/
def blocksRequest (g : Guard) (t : Tree) (r : Request) (regional : Bool) :
    Bool × List LogLine × Guard :=
  let (m, log, g) := g.adBlockNow t
  if m.any (·.blocks r) then (true, log, g)
  else if regional then
    let (b, more, g) := g.blocksRegional t r
    (b, log ++ more, g)
  else (false, log, g)

/-- Is an address blocked that the page in a tab asks for?  One without a host is
not. -/
def blocksAd (g : Guard) (t : Tree) (tab url : String) (resources : ResourceSet)
    (regional : Bool) : Bool × List LogLine × Guard :=
  match Request.ofUrls? url tab resources with
  | none => (false, [], g)
  | some r => g.blocksRequest t r regional

end Ads

section Upgrades

/-- The secure form of an address, if a rule gives one.  There is no answer if the source of the
rules breaks off. -/
def secureUrl (g : Guard) (t : Tree) (url : String) (request : Nat) :
    Option (Option String) × List LogLine × Guard :=
  match g.httpsNow t with
  | (none, log, g) => (some none, log, g)
  | (some source, log, g) =>
    let (answer, more, upgrader, past) := g.upgrader.upgrade source.ask url request g.past
    (answer, log ++ more, { g with upgrader, past })

/-- The secure form of an address, if it is remembered. -/
def secureUrlFromCache (g : Guard) (url : String) (request : Nat) : Option String × Guard :=
  if g.https.isLoaded then
    let (answer, upgrader) := g.upgrader.upgradeFromCache url request
    (answer, { g with upgrader })
  else (none, g)

/-- How many upgrades a request has had. -/
def redirects (g : Guard) (request : Nat) : Nat × Guard :=
  let (n, redirects) := g.upgrader.redirects.count request
  (n, { g with upgrader := { g.upgrader with redirects } })

/-- Forgets the upgrades of a request that has ended. -/
def forget (g : Guard) (request : Nat) : Guard :=
  { g with
    upgrader := { g.upgrader with redirects := g.upgrader.redirects.forget request } }

/-- The files become other ones, which an open database of upgrade rules shows. -/
def follow (g : Guard) (t : Tree) : Guard :=
  { g with past := (g.https.value?.map fun source => source.follow g.past t).getD g.past }

end Upgrades

end Guard
end RequestGuard
