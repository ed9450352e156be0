import RequestGuard.Recency.Cache

/-!
# Redirect counts

How many upgrades each request has seen.  Counts are kept for a bounded number
of requests; the request that was asked about longest ago is forgotten first.
Asking for a count is a use of it.

A count has 32 bits.  One that is recorded without regard to a limit starts again at
zero behind the largest.
-/

namespace RequestGuard
namespace Upgrade

/-- The number of upgrades of each request, by request number. -/
structure Redirects where
  /-- The counts of the requests asked about last. -/
  table : Recency.Cache Nat Nat

namespace Redirects

/-- No counts, with room for `capacity` requests. -/
def empty (capacity : Nat) : Redirects :=
  ⟨.empty capacity⟩

/-- The number of requests with a count. -/
def size (r : Redirects) : Nat :=
  r.table.size

/-- Has no request a count? -/
def isEmpty (r : Redirects) : Bool :=
  r.table.isEmpty

/-- The count of a request, zero where there is none. -/
def count (r : Redirects) (request : Nat) : Nat × Redirects :=
  let (found, table) := r.table.find request
  (found.getD 0, ⟨table⟩)

/-- One more, in 32 bits. -/
def next (n : Nat) : Nat :=
  (n + 1) % 0x100000000

/-- Counts one more upgrade and answers the new count. -/
def record (r : Redirects) (request : Nat) : Nat × Redirects :=
  let (n, r) := r.count request
  (next n, ⟨r.table.insert request (next n)⟩)

/-- Counts one more upgrade while the count is below `limit`; answers whether it was.  A
limit of 32 bits leaves room for one more. -/
def recordIfBelow (r : Redirects) (request limit : Nat) : Bool × Redirects :=
  let (n, r) := r.count request
  if limit ≤ n then (false, r)
  else (true, ⟨r.table.insert request (n + 1)⟩)

/-- Drops the count of a request. -/
def forget (r : Redirects) (request : Nat) : Redirects :=
  ⟨(r.table.remove request).2⟩

end Redirects

end Upgrade
end RequestGuard
