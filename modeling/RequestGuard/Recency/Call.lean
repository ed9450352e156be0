import RequestGuard.Recency.Cache

/-!
# Calls to a cache

What can be asked of a cache of recently used entries, and what a run of such calls
answers.
-/

namespace RequestGuard
namespace Recency
namespace Cache

universe u v

variable {κ : Type u} {α : Type v} [BEq κ] [Hashable κ]

/-- A call. -/
inductive Call (κ : Type u) (α : Type v) where
  | insert (key : κ) (value : α)
  | find (key : κ)
  | peek (key : κ)
  | contains (key : κ)
  | remove (key : κ)
  | clear
  deriving DecidableEq, Repr

/-- What a call answers. -/
inductive Reply (α : Type v) where
  /-- Nothing but that it is done. -/
  | done
  /-- A value, if there is one. -/
  | value (found : Option α)
  /-- Whether there is an entry. -/
  | truth (b : Bool)
  deriving DecidableEq, Repr

/-- Answers a call. -/
def answer (c : Cache κ α) : Call κ α → Reply α × Cache κ α
  | .insert key value => (.done, c.insert key value)
  | .find key =>
    let (found, c) := c.find key
    (.value found, c)
  | .peek key => (.value (c.peek? key), c)
  | .contains key => (.truth (c.contains key), c)
  | .remove key =>
    let (found, c) := c.remove key
    (.value found, c)
  | .clear => (.done, c.clear)

/-- Answers calls one after the other. -/
def run (c : Cache κ α) : List (Call κ α) → List (Reply α) × Cache κ α
  | [] => ([], c)
  | call :: more =>
    let (reply, c) := c.answer call
    let (replies, c) := run c more
    (reply :: replies, c)

end Cache
end Recency
end RequestGuard
