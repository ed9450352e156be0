import RequestGuard.Failure
import RequestGuard.Request.Basic

/-!
# Matchers

What a loaded set of rules is to those who ask it: a decision about each request, and a
number of rules.  Of several matchers the first that blocks decides, and those after it
are not asked.
-/

namespace RequestGuard

/-- A set of rules as it answers. -/
structure Matcher where
  /-- What becomes of a request. -/
  decide : Request → Decision
  /-- The number of rules. -/
  ruleCount : Nat

namespace Matcher

/-- Makes a matcher from rule data. -/
abbrev Factory : Type := List UInt8 → Except Failure Matcher

/-- Answers every request alike. -/
def constant (d : Decision) : Matcher :=
  ⟨fun _ => d, 0⟩

/-- Does a matcher block a request? -/
def blocks (m : Matcher) (r : Request) : Bool :=
  (m.decide r).isBlock

/-- Does one of the matchers block a request? -/
def anyBlocks (ms : List Matcher) (r : Request) : Bool :=
  ms.any (·.blocks r)

/-- The matchers that are asked about a request: those up to the first that blocks. -/
def asked (ms : List Matcher) (r : Request) : List Matcher :=
  ms.take ((ms.takeWhile fun m => !m.blocks r).length + 1)

end Matcher
end RequestGuard
