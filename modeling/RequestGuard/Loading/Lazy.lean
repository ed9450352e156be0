import RequestGuard.Failure
import RequestGuard.Log

/-!
# Values that are loaded once

A value of a rule family that is loaded when it is first needed and then kept.

* `init` loads unless there is a value, also after loads that failed.
* `getOrAttempt` loads only if nobody has tried yet.

Both run in two parts, so that callers can wait for each other: `arrive` is what a
caller does before it waits, `enter` what it does when its turn comes.  A caller that
finds at its turn more failures than when it arrived shares the failure and does not
load again.
-/

namespace RequestGuard

/-- How a load ends. -/
inductive Load (α : Type) where
  | loaded (value : α)
  | failed (failure : Failure)
  /-- The load breaks off without an outcome. -/
  | panicked

/-- A value of a rule family that is loaded at most once. -/
structure Lazy (α : Type) where
  /-- The family, which the log names. -/
  family : Family
  /-- The value, once it is loaded. -/
  value? : Option α
  /-- Whether anybody has tried to load it. -/
  attempted : Bool
  /-- The number of loads that failed. -/
  failures : Nat

namespace Lazy

variable {α : Type}

/-- What a call answers and leaves behind.  A call answers nothing if its load breaks
off. -/
structure Turn (α β : Type) where
  /-- The answer. -/
  answer? : Option β
  /-- Whether the call ran a load. -/
  ran : Bool
  /-- What the call logged. -/
  log : List LogLine
  /-- The value after the call. -/
  lazy : Lazy α

section States

/-- Nobody has tried to load the value. -/
def fresh (family : Family) : Lazy α :=
  ⟨family, none, false, 0⟩

/-- Is the value loaded? -/
def isLoaded (l : Lazy α) : Bool :=
  l.value?.isSome

/-- The line that tells of a failed load. -/
def warning (family : Family) (failure : Failure) : LogLine :=
  ⟨.warn, s!"Failed to initialize {family.name}: {failure.message}"⟩

end States

section Calls

/-- What a caller does before it waits: it marks the attempt and remembers the number of
failures, or sees that nothing is to be loaded. -/
def arrive (l : Lazy α) : Option Nat × Lazy α :=
  (if l.isLoaded then none else some l.failures, { l with attempted := true })

/-- Runs a load. -/
def runLoad (l : Lazy α) : Load α → Turn α Bool
  | .loaded a => ⟨some true, true, [], { l with value? := some a }⟩
  | .failed f =>
    ⟨some false, true, [warning l.family f], { l with failures := l.failures + 1 }⟩
  | .panicked => ⟨none, true, [], l⟩

/-- What a caller does at its turn, given the number of failures when it arrived. -/
def enter (l : Lazy α) (seen : Nat) (load : Unit → Load α) : Turn α Bool :=
  if l.isLoaded then ⟨some true, false, [], l⟩
  else if l.failures ≠ seen then ⟨some false, false, [], l⟩
  else l.runLoad (load ())

/-- Loads the value unless it is loaded, and tells whether it now is. -/
def init (l : Lazy α) (load : Unit → Load α) : Turn α Bool :=
  match l.arrive with
  | (none, l) => ⟨some true, false, [], l⟩
  | (some seen, l) => l.enter seen load

/-- The value; it is loaded first if nobody has tried yet. -/
def getOrAttempt (l : Lazy α) (load : Unit → Load α) : Turn α (Option α) :=
  if l.isLoaded ∨ l.attempted then ⟨some l.value?, false, [], l⟩
  else
    let t := { l with attempted := true }.init load
    ⟨t.answer?.map fun _ => t.lazy.value?, t.ran, t.log, t.lazy⟩

/-- The answers of callers that arrived together, as their turns come one after the
other. -/
def enterAll (l : Lazy α) (load : Unit → Load α) : List Nat → List (Turn α Bool) × Lazy α
  | [] => ([], l)
  | seen :: more =>
    let t := l.enter seen load
    let (ts, l) := enterAll t.lazy load more
    (t :: ts, l)

/-- A call to load the value, and `waiters` more that arrive before its load ends. -/
def initTogether (l : Lazy α) (waiters : Nat) (load : Unit → Load α) :
    Turn α Bool × List (Turn α Bool) × Lazy α :=
  match l.arrive with
  | (none, l) =>
    let turn : Turn α Bool := ⟨some true, false, [], l⟩
    (turn, List.replicate waiters turn, l)
  | (some seen, l) =>
    let first := l.enter seen load
    (first, first.lazy.enterAll load (List.replicate waiters l.failures))

end Calls

section Laws

/-- A loaded value is answered, and nothing is loaded. -/
theorem getOrAttempt_of_value? {l : Lazy α} {a : α} (h : l.value? = some a)
    (load : Unit → Load α) :
    (l.getOrAttempt load).answer? = some (some a) ∧ (l.getOrAttempt load).ran = false := by
  simp [getOrAttempt, isLoaded, h]

end Laws

end Lazy
end RequestGuard
