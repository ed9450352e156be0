import Std.Data.HashMap
import Std.Data.TreeMap

/-!
# Recently used entries

A map of bounded size that forgets the entry that was used longest ago.

Each entry carries the time of its last use, counted in operations; `order` maps
these times back to the keys, so the entry to forget is the first one of
`order`.  Reading with `find` is a use; `peek?` and `contains` are not.
-/

namespace RequestGuard
namespace Recency

universe u v

/-- At most `capacity` entries, with the times of their last use. -/
structure Cache (κ : Type u) (α : Type v) [BEq κ] [Hashable κ] where
  /-- The largest number of entries. -/
  capacity : Nat
  /-- There is room for an entry. -/
  capacity_pos : 0 < capacity
  /-- The number of uses so far. -/
  clock : Nat
  /-- The value of each key and the time of its last use. -/
  entries : Std.HashMap κ (α × Nat)
  /-- The key that was used at each time that is a last use. -/
  order : Std.TreeMap Nat κ

namespace Cache

variable {κ : Type u} {α : Type v} [BEq κ] [Hashable κ]

/-- No entries; a capacity of zero counts as one.  Room is taken as entries come: a capacity
for which no room could be set aside beforehand is not refused. -/
def empty (capacity : Nat) : Cache κ α where
  capacity := max capacity 1
  capacity_pos := by omega
  clock := 0
  entries := ∅
  order := ∅

/-- The number of entries. -/
def size (c : Cache κ α) : Nat :=
  c.entries.size

/-- Are there no entries? -/
def isEmpty (c : Cache κ α) : Bool :=
  c.entries.isEmpty

/-- The keys of the entries. -/
def keys (c : Cache κ α) : List κ :=
  c.entries.keys

/-- The value of a key; this is no use of it. -/
def peek? (c : Cache κ α) (key : κ) : Option α :=
  (c.entries[key]?).map Prod.fst

/-- Is there an entry for the key?  This is no use of it. -/
def contains (c : Cache κ α) (key : κ) : Bool :=
  c.entries.contains key

/-- The value of a key, which becomes the entry used last. -/
def find (c : Cache κ α) (key : κ) : Option α × Cache κ α :=
  let now := c.clock + 1
  match c.entries[key]? with
  | none => (none, { c with clock := now })
  | some (value, last) =>
    (some value,
      { c with
        clock := now
        entries := c.entries.insert key (value, now)
        order := (c.order.erase last).insert now key })

/-- The cache without the entry that was used longest ago. -/
def dropOldest (c : Cache κ α) : Cache κ α :=
  match c.order.minEntry? with
  | none => c
  | some (time, key) =>
    { c with
      entries := c.entries.erase key
      order := c.order.erase time }

/-- Sets the value of a key, which becomes the entry used last.  A new key in a
full cache takes the place of the entry that was used longest ago. -/
def insert (c : Cache κ α) (key : κ) (value : α) : Cache κ α :=
  let now := c.clock + 1
  match c.entries[key]? with
  | some (_, last) =>
    { c with
      clock := now
      entries := c.entries.insert key (value, now)
      order := (c.order.erase last).insert now key }
  | none =>
    let room := if c.capacity ≤ c.size then c.dropOldest else c
    { room with
      clock := now
      entries := room.entries.insert key (value, now)
      order := room.order.insert now key }

/-- Removes the entry of a key and answers its value. -/
def remove (c : Cache κ α) (key : κ) : Option α × Cache κ α :=
  match c.entries[key]? with
  | none => (none, c)
  | some (value, last) =>
    (some value,
      { c with
        entries := c.entries.erase key
        order := c.order.erase last })

/-- Removes every entry; the clock goes on. -/
def clear (c : Cache κ α) : Cache κ α :=
  { c with entries := ∅, order := ∅ }

end Cache

end Recency
end RequestGuard
