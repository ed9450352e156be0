import Mathlib.Logic.Function.Basic
import RequestGuard.Loading.Lazy

/-!
# Callers that come at the same time

Calls to a lazily loaded value by many callers at once.  What a caller does is cut into the
actions that others can come between.

* A caller of `init` marks the attempt, looks for the value, and notes the number of failures.
  Then it waits for its turn.
* A question looks for the value first and goes on to `init` only if it is the first to mark
  an attempt.
* At its turn a caller sees whether anything is left to load, and loads.  Nobody else has a
  turn before the load has ended; what comes before the turn is not held up.
-/

namespace RequestGuard
namespace Lazy

variable {α : Type}

/-- What a caller can tell at its turn without a load, given the number of failures that it
has noted. -/
def settled? (l : Lazy α) (seen : Nat) : Option Bool :=
  if l.isLoaded then some true
  else if l.failures ≠ seen then some false
  else none

/-- An action of a caller. -/
inductive Action (α : Type) where
  /-- A question looks for the value. -/
  | ask
  /-- A question marks the attempt. -/
  | claim
  /-- A call to load marks the attempt. -/
  | mark
  /-- A call to load looks for the value. -/
  | look
  /-- The number of failures is noted. -/
  | note
  /-- The turn of the caller comes. -/
  | turn
  /-- The load of the caller ends. -/
  | finish (load : Load α)

/-- How far a caller has come. -/
inductive Progress where
  /-- A question that has found no value. -/
  | asking
  /-- A question that was the first to mark an attempt, and goes on to load. -/
  | claimed
  /-- A question that has nothing to load. -/
  | passed
  /-- The attempt is marked. -/
  | marked
  /-- No value was found. -/
  | missed
  /-- The caller waits for its turn, and has noted a number of failures. -/
  | waiting (seen : Nat)
  /-- The load of the caller runs. -/
  | loading
  /-- The call to load has answered. -/
  | answered (b : Bool)
  /-- The load of the caller broke off. -/
  | broken
  deriving DecidableEq, Repr

/-- How far a caller has come after its load has ended. -/
def Progress.ofAnswer? : Option Bool → Progress
  | some b => .answered b
  | none => .broken

/-- What an action makes of the progress of a caller and of the value, if the caller can do
it.  A caller without progress has not begun. -/
def act? (l : Lazy α) : Option Progress → Action α → Option (Progress × Lazy α)
  | none, .ask => some (if l.isLoaded then .passed else .asking, l)
  | some .asking, .claim =>
    some (if l.attempted then .passed else .claimed, { l with attempted := true })
  | none, .mark => some (.marked, { l with attempted := true })
  | some .claimed, .mark => some (.marked, { l with attempted := true })
  | some .marked, .look => some (if l.isLoaded then .answered true else .missed, l)
  | some .missed, .note => some (.waiting l.failures, l)
  | some (.waiting seen), .turn => some (((l.settled? seen).map .answered).getD .loading, l)
  | some .loading, .finish load =>
    some (.ofAnswer? (l.runLoad load).answer?, (l.runLoad load).lazy)
  | _, _ => none

/-- A lazily loaded value and its callers, which are numbered. -/
structure Crowd (α : Type) where
  /-- The value. -/
  lazy : Lazy α
  /-- How far each caller has come, if it has begun. -/
  progress : Nat → Option Progress
  /-- The caller whose load runs. -/
  loader? : Option Nat
  /-- The callers that have run their load, in this order. -/
  runs : List Nat

namespace Crowd

/-- Nobody has begun. -/
def quiet (l : Lazy α) : Crowd α :=
  ⟨l, fun _ => none, none, []⟩

/-- The crowd after a caller has come to some progress. -/
def move (c : Crowd α) (i : Nat) (p : Progress) (l : Lazy α) : Crowd α where
  lazy := l
  progress := Function.update c.progress i (some p)
  loader? := if p = .loading then some i else if c.loader? = some i then none else c.loader?
  runs := if p = .loading then c.runs ++ [i] else c.runs

/-- Is a turn to be had? -/
def isFree (c : Crowd α) : Action α → Bool
  | .turn => c.loader?.isNone
  | _ => true

/-- The crowd after an action of a caller, if it can be done. -/
def step (c : Crowd α) (i : Nat) (a : Action α) : Option (Crowd α) :=
  if c.isFree a then (c.lazy.act? (c.progress i) a).map fun (p, l) => c.move i p l else none

/-- The crowd after some actions, if they can be done. -/
def after (c : Crowd α) : List (Nat × Action α) → Option (Crowd α)
  | [] => some c
  | (i, a) :: more => (c.step i a).bind fun c => c.after more

end Crowd

end Lazy
end RequestGuard
