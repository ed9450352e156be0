import RequestGuard.Config.Document
import RequestGuard.Request.Matcher

/-!
# Tracker lists

Hosts that follow a reader from site to site, and which hosts belong to whom.

* `TrackerList.Document` is a list as it is written: hosts, and for a base host the
  hosts of the same entity.  Of two values under one base the later one counts.
* `TrackerList.ofDocument` keeps hosts in normal form, and entities by the site of
  their base.
* A host is a tracker if it, or a domain above it, is listed.
-/

namespace RequestGuard

/-- A list of trackers. -/
structure TrackerList where
  /-- The listed hosts, each once, in normal form. -/
  trackers : List String
  /-- The hosts that belong to the entity of a site. -/
  entities : List (String × List String)
  deriving DecidableEq, Repr

namespace TrackerList

open Json

section Reading

/-- A list as it is written. -/
structure Document where
  /-- The listed hosts. -/
  trackers : List String
  /-- Hosts of the same entity as a base host. -/
  firstParty : List (String × List String)
  deriving DecidableEq, Repr

/-- The written form of a list. -/
def Document.record : Record Document where
  name := "TrackerData"
  start := ⟨[], []⟩
  members :=
    [.given "trackers" (Reader.list Reader.string) fun a d => { d with trackers := a },
      .given "first_party" (Reader.mapping (Reader.list Reader.string))
        fun a d => { d with firstParty := a }]

/-- Hosts in normal form, without those of which nothing is left. -/
def hostsOf (names : List String) : List String :=
  (names.map Host.normalize).filter fun h => !h.isEmpty

/-- The last value under each key. -/
def lastValues {α : Type} : List (String × α) → List (String × α)
  | [] => []
  | p :: more =>
    if more.any fun q => q.1 == p.1 then lastValues more else p :: lastValues more

/-- The entities by site, without those whose base has none. -/
def entitiesOf (firstParty : List (String × List String)) : List (String × List String) :=
  ((lastValues firstParty).map fun (base, hosts) =>
    (Host.site (Host.normalize base), hostsOf hosts)).filter fun e => !e.1.isEmpty

/-- The list that a document describes. -/
def ofDocument (d : Document) : TrackerList :=
  ⟨(hostsOf d.trackers).eraseDups, entitiesOf d.firstParty⟩

/-- The list of rule data. -/
def ofBytes (bytes : List UInt8) : Except Failure TrackerList :=
  match Document.record.read.ofText bytes with
  | .ok d => .ok (ofDocument d)
  | .error fault => .error (.dataInvalid .tracking (fault.message bytes))

end Reading

section Answers

/-- Is a host, or a domain above it, listed? -/
def isTracker (l : TrackerList) (host : String) : Bool :=
  (Host.chain host).any l.trackers.contains

/-- The hosts that belong to the entity of a host. -/
def sameEntity (l : TrackerList) (host : String) : List String :=
  (l.entities.filter fun e => e.1 == Host.site host).flatMap Prod.snd

/-- The number of listed hosts. -/
def ruleCount (l : TrackerList) : Nat :=
  l.trackers.length

/-- What becomes of a request. -/
def decide (l : TrackerList) (r : Request) : Decision :=
  .blockIf (l.isTracker r.host)

/-- The list as a matcher. -/
def matcher (l : TrackerList) : Matcher :=
  ⟨l.decide, l.ruleCount⟩

end Answers

end TrackerList
end RequestGuard
