import RequestGuard.Guard.Answers

/-!
# Calls to a guard

What can be asked of a guard.  A run is a list of events: calls, and changes of the files
between them.
-/

namespace RequestGuard
namespace Guard

open Files Upgrade

/-- A call. -/
inductive Call where
  | initTracking
  | initAdBlock
  | initRegional
  | initHttps
  /-- Takes upgrade rules that are open already. -/
  | initHttpsWith (source : Source)
  /-- Is a host blocked that a page on a base host asks for? -/
  | tracker (base host : String)
  /-- Lets a host pass. -/
  | allow (host : String)
  /-- Is an address blocked that the page in a tab asks for? -/
  | ad (tab url : String) (resources : ResourceSet) (regional : Bool)
  /-- The secure form of an address. -/
  | secure (url : String) (request : Nat)
  /-- The secure form of an address, if it is remembered. -/
  | secureFromCache (url : String) (request : Nat)
  /-- The number of upgrades of a request. -/
  | redirects (request : Nat)
  /-- The request has ended. -/
  | forget (request : Nat)

/-- What a call answers. -/
inductive Reply where
  | truth (b : Bool)
  | address (url? : Option String)
  | count (n : Nat)
  | done
  /-- Nothing, since the source of the upgrade rules broke off. -/
  | panicked
  deriving DecidableEq, Repr

/-- A reply, what was logged, and the guard after a call. -/
abbrev Turn : Type := Reply × List LogLine × Guard

/-- A turn that answers whether something is so. -/
def Turn.ofTruth : Bool × List LogLine × Guard → Turn
  | (b, log, g) => (.truth b, log, g)

/-- Answers a call. -/
def answer (g : Guard) (t : Tree) : Call → Turn
  | .initTracking => .ofTruth (g.initTracking t)
  | .initAdBlock => .ofTruth (g.initAdBlock t)
  | .initRegional => .ofTruth (g.initRegional t)
  | .initHttps => .ofTruth (g.initHttps t)
  | .initHttpsWith source => .ofTruth (g.initHttpsWith source)
  | .tracker base host => .ofTruth (g.blocksTracker t base host)
  | .allow host => (.done, [], g.allow host)
  | .ad tab url resources regional => .ofTruth (g.blocksAd t tab url resources regional)
  | .secure url request =>
    let (answer?, log, g) := g.secureUrl t url request
    ((answer?.map Reply.address).getD .panicked, log, g)
  | .secureFromCache url request =>
    let (address, g) := g.secureUrlFromCache url request
    (.address address, [], g)
  | .redirects request =>
    let (n, g) := g.redirects request
    (.count n, [], g)
  | .forget request => (.done, [], g.forget request)

/-- What happens in a run. -/
inductive Event where
  | call (c : Call)
  /-- The files are other ones from now on. -/
  | files (t : Tree)

/-- The replies to the calls of a run, and the guard after it. -/
def run (g : Guard) (t : Tree) : List Event → List Reply × Guard
  | [] => ([], g)
  | .files t :: more => run (g.follow t) t more
  | .call c :: more =>
    let (reply, _, g) := g.answer t c
    let (replies, g) := run g t more
    (reply :: replies, g)

end Guard
end RequestGuard
