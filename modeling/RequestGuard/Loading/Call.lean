import RequestGuard.Loading.Lazy

/-!
# Calls to a lazily loaded value

What can be asked of a value that is loaded once.  A call that may load carries the way
its load would end.
-/

namespace RequestGuard
namespace Lazy

variable {α : Type}

/-- A call. -/
inductive Call (α : Type) where
  | init (load : Load α)
  | getOrAttempt (load : Load α)
  | get
  | isLoaded

/-- What a call answers. -/
inductive Reply (α : Type) where
  /-- Whether something is so. -/
  | truth (b : Bool)
  /-- The value, if there is one. -/
  | value (found : Option α)
  /-- Nothing, since the load broke off. -/
  | panicked
  deriving DecidableEq, Repr

/-- A reply, whether the call ran a load, what was logged, and the value after it. -/
abbrev Answered (α : Type) : Type := Reply α × Bool × List LogLine × Lazy α

/-- What a turn comes to, given the reply that stands for its answer. -/
def Turn.replied {β : Type} (t : Turn α β) (reply : β → Reply α) : Answered α :=
  ((t.answer?.map reply).getD .panicked, t.ran, t.log, t.lazy)

/-- Answers a call. -/
def answer (l : Lazy α) : Call α → Answered α
  | .init load => (l.init fun _ => load).replied .truth
  | .getOrAttempt load => (l.getOrAttempt fun _ => load).replied .value
  | .get => (.value l.value?, false, [], l)
  | .isLoaded => (.truth l.isLoaded, false, [], l)

/-- Answers calls one after the other. -/
def run (l : Lazy α) : List (Call α) → List (Reply α) × Lazy α
  | [] => ([], l)
  | call :: more =>
    let (reply, _, _, l) := l.answer call
    let (replies, l) := run l more
    (reply :: replies, l)

end Lazy
end RequestGuard
