import RequestGuard.Files.RuleData
import RequestGuard.Guard.Basic

/-!
# Loading the rules of a guard

What each family loads, and what is told about it.

* A family other than the regional one is one file.
* The regional family is the lists that are meant for the locale; those that cannot be
  loaded are passed, but one must be left.
* Calls whose names start with `init` load a family unless it is loaded.
-/

namespace RequestGuard
namespace Guard

open Files Upgrade

section Loads

/-- The trackers. -/
def trackerList (c : Config) (t : Tree) : Except Failure TrackerList := do
  TrackerList.ofBytes (← c.tracking.load .tracking c.dataDir t)

/-- The matcher of the filter list. -/
def adMatcher (c : Config) (make : Matcher.Factory) (t : Tree) : Except Failure Matcher := do
  make (← c.adBlock.load .adBlock c.dataDir t)

/-- The matcher of a regional list. -/
def regionalMatcher (c : Config) (make : Matcher.Factory) (t : Tree) (l : RegionalList) :
    Except Failure Matcher := do
  make (← l.file.load .regional c.dataDir t)

/-- The matchers of the regional lists that are meant for the locale and can be had. -/
def regionalMatchers (c : Config) (make : Matcher.Factory) (t : Tree) :
    Except Failure (List Matcher) :=
  if c.selected.isEmpty then .error (.noRegionalList c.locale)
  else
    match c.selected.filterMap fun l => (regionalMatcher c make t l).toOption with
    | [] =>
      .error (.dataInvalid .regional
        s!"none of the {c.selected.length} selected lists could be loaded")
    | ms => .ok ms

/-- The database of the upgrade rules. -/
def ruleStore (c : Config) (t : Tree) : Except Failure RuleStore := do
  (RuleStore.openIn t (← c.https.resolve c.dataDir t)).mapError .store

/-- The upgrade rules. -/
def ruleSource (c : Config) (t : Tree) : Except Failure Source :=
  (ruleStore c t).map .database

end Loads

section Told

/-- A line for a value that was loaded. -/
def told {α : Type} (line : α → String) : Except Failure α → List LogLine
  | .ok a => [⟨.info, line a⟩]
  | .error _ => []

/-- What is told about the trackers. -/
def trackingLog (c : Config) (t : Tree) : List LogLine :=
  told (fun l => s!"Tracking protection initialized with {l.ruleCount} trackers")
    (trackerList c t)

/-- What is told about the filter list. -/
def adLog (c : Config) (make : Matcher.Factory) (t : Tree) : List LogLine :=
  told (fun m => s!"Ad block initialized with {m.ruleCount} rules") (adMatcher c make t)

/-- What is told about a regional list. -/
def regionalLine (l : RegionalList) : Except Failure Matcher → LogLine
  | .ok m => ⟨.info, s!"Regional list '{l.title}' loaded with {m.ruleCount} rules"⟩
  | .error f => ⟨.warn, s!"Skipping regional list '{l.title}': {f.message}"⟩

/-- What is told about the regional lists. -/
def regionalLog (c : Config) (make : Matcher.Factory) (t : Tree) : List LogLine :=
  c.selected.map fun l => regionalLine l (regionalMatcher c make t l)

/-- What is told about the upgrade rules. -/
def httpsLog (c : Config) (t : Tree) : List LogLine :=
  told (fun _ => s!"HTTPS rules opened from {c.https.path c.dataDir}") (ruleSource c t)

end Told

end Guard

section Runs

variable {α β : Type}

/-- How a load ends that has an outcome. -/
def Load.ofExcept : Except Failure α → Load α
  | .ok a => .loaded a
  | .error f => .failed f

/-- What a call tells, given what its load tells if it runs. -/
def Lazy.Turn.told (turn : Lazy.Turn α β) (lines : Unit → List LogLine) : List LogLine :=
  (if turn.ran then lines () else []) ++ turn.log

end Runs

namespace Guard

open Files Upgrade

section Init

/-- Loads the trackers unless they are loaded. -/
def initTracking (g : Guard) (t : Tree) : Bool × List LogLine × Guard :=
  let turn := g.tracking.init fun _ => .ofExcept (trackerList g.config t)
  (turn.answer?.getD false, turn.told fun _ => trackingLog g.config t,
    { g with tracking := turn.lazy })

/-- Loads the filter list unless it is loaded. -/
def initAdBlock (g : Guard) (t : Tree) : Bool × List LogLine × Guard :=
  let turn := g.adBlock.init fun _ => .ofExcept (adMatcher g.config g.makeMatcher t)
  (turn.answer?.getD false, turn.told fun _ => adLog g.config g.makeMatcher t,
    { g with adBlock := turn.lazy })

/-- Loads the regional lists unless they are loaded. -/
def initRegional (g : Guard) (t : Tree) : Bool × List LogLine × Guard :=
  let turn := g.regional.init fun _ => .ofExcept (regionalMatchers g.config g.makeMatcher t)
  (turn.answer?.getD false, turn.told fun _ => regionalLog g.config g.makeMatcher t,
    { g with regional := turn.lazy })

/-- Opens the upgrade rules unless they are open. -/
def initHttps (g : Guard) (t : Tree) : Bool × List LogLine × Guard :=
  let turn := g.https.init fun _ => .ofExcept (ruleSource g.config t)
  (turn.answer?.getD false, turn.told fun _ => httpsLog g.config t,
    { g with https := turn.lazy })

/-- Takes upgrade rules that are open already, unless there are some. -/
def initHttpsWith (g : Guard) (s : Source) : Bool × List LogLine × Guard :=
  let turn := g.https.init fun _ => .loaded s
  (turn.answer?.getD false, turn.log, { g with https := turn.lazy })

/-- The trackers, if they are loaded or can be at the first attempt. -/
def trackingNow (g : Guard) (t : Tree) : Option TrackerList × List LogLine × Guard :=
  let turn := g.tracking.getOrAttempt fun _ => .ofExcept (trackerList g.config t)
  (turn.answer?.join, turn.told fun _ => trackingLog g.config t,
    { g with tracking := turn.lazy })

/-- The filter list, if it is loaded or can be at the first attempt. -/
def adBlockNow (g : Guard) (t : Tree) : Option Matcher × List LogLine × Guard :=
  let turn := g.adBlock.getOrAttempt fun _ => .ofExcept (adMatcher g.config g.makeMatcher t)
  (turn.answer?.join, turn.told fun _ => adLog g.config g.makeMatcher t,
    { g with adBlock := turn.lazy })

/-- The regional lists, if they are loaded or can be at the first attempt. -/
def regionalNow (g : Guard) (t : Tree) : Option (List Matcher) × List LogLine × Guard :=
  let turn := g.regional.getOrAttempt fun _ =>
    .ofExcept (regionalMatchers g.config g.makeMatcher t)
  (turn.answer?.join, turn.told fun _ => regionalLog g.config g.makeMatcher t,
    { g with regional := turn.lazy })

/-- The upgrade rules, if they are open or can be opened at the first attempt. -/
def httpsNow (g : Guard) (t : Tree) : Option Source × List LogLine × Guard :=
  let turn := g.https.getOrAttempt fun _ => .ofExcept (ruleSource g.config t)
  (turn.answer?.join, turn.told fun _ => httpsLog g.config t, { g with https := turn.lazy })

end Init

end Guard
end RequestGuard
