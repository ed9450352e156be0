import RequestGuard.Upgrade.Upgrader

/-!
# Calls to an upgrader

What can be asked of an upgrader.  A run is a list of events: calls, and changes of the
store between them.
-/

namespace RequestGuard
namespace Upgrade
namespace Upgrader

variable {σ : Type}

/-- A call. -/
inductive Call where
  /-- The secure form of an address. -/
  | upgrade (url : String) (request : Nat)
  /-- The secure form of an address, if it is remembered. -/
  | fromCache (url : String) (request : Nat)
  /-- The number of upgrades of a request. -/
  | redirects (request : Nat)
  /-- Counts one more upgrade. -/
  | record (request : Nat)
  /-- The request has ended. -/
  | forget (request : Nat)
  deriving DecidableEq, Repr

/-- What a call answers. -/
inductive Reply where
  | address (url? : Option String)
  | count (n : Nat)
  | done
  /-- Nothing, since the store broke off. -/
  | panicked
  deriving DecidableEq, Repr

/-- A reply, what was logged, the upgrader and the store after a call. -/
abbrev Turn (σ : Type) : Type := Reply × List LogLine × Upgrader × σ

/-- Answers a call. -/
def answer (r : Upgrader) (ask : Ask σ) (s : σ) : Call → Turn σ
  | .upgrade url request =>
    let (answer?, log, r, s) := r.upgrade ask url request s
    ((answer?.map Reply.address).getD .panicked, log, r, s)
  | .fromCache url request =>
    let (answer, r) := r.upgradeFromCache url request
    (.address answer, [], r, s)
  | .redirects request =>
    let (n, redirects) := r.redirects.count request
    (.count n, [], { r with redirects }, s)
  | .record request =>
    let (n, redirects) := r.redirects.record request
    (.count n, [], { r with redirects }, s)
  | .forget request => (.done, [], { r with redirects := r.redirects.forget request }, s)

/-- What happens in a run. -/
inductive Event (σ : Type) where
  | call (c : Call)
  /-- The store changes. -/
  | change (f : σ → σ)

/-- The replies to the calls of a run, and what it leaves behind. -/
def run (r : Upgrader) (ask : Ask σ) (s : σ) : List (Event σ) → List Reply × Upgrader × σ
  | [] => ([], r, s)
  | .change f :: more => run r ask (f s) more
  | .call c :: more =>
    let (reply, _, r, s) := r.answer ask s c
    let (replies, r, s) := run r ask s more
    (reply :: replies, r, s)

end Upgrader
end Upgrade
end RequestGuard
