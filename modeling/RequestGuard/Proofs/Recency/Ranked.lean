import Mathlib.Data.List.Basic
import RequestGuard.Recency.Call

/-!
# Entries in the order of use

A cache as a plain list: its entries, the one used last first.

* A use of an entry moves it to the front (`toFront`).
* A new entry in a full list takes the place of the last one (`insert`).
* `answer` and `run` answer the calls to a cache on such a list.

Nothing is said of times here; a list is what the times of a cache stand for.
-/

namespace RequestGuard
namespace Recency

universe u v

/-- Entries in the order of their last use, the one used last first. -/
abbrev Ranked (κ : Type u) (α : Type v) : Type (max u v) :=
  List (κ × α)

namespace Ranked

variable {κ : Type u} {α : Type v}

/-- The keys, the one used last first. -/
def keys (xs : Ranked κ α) : List κ :=
  xs.map Prod.fst

variable [BEq κ]

section Operations

/-- The value of a key; this is no use of it. -/
def value? (xs : Ranked κ α) (key : κ) : Option α :=
  List.lookup key xs

/-- The entries of the other keys, in the same order. -/
def without (xs : Ranked κ α) (key : κ) : Ranked κ α :=
  xs.filter fun e => e.1 != key

/-- The entry of a key, moved to the front. -/
def toFront (xs : Ranked κ α) (key : κ) (value : α) : Ranked κ α :=
  (key, value) :: xs.without key

/-- The entries after a question for a key. -/
def find (xs : Ranked κ α) (key : κ) : Ranked κ α :=
  match xs.value? key with
  | some value => xs.toFront key value
  | none => xs

/-- The entries after a value is set.  The last one makes room for a new one. -/
def insert (capacity : Nat) (xs : Ranked κ α) (key : κ) (value : α) : Ranked κ α :=
  match xs.value? key with
  | some _ => xs.toFront key value
  | none => (key, value) :: if capacity ≤ xs.length then xs.dropLast else xs

end Operations

section Calls

/-- Answers a call. -/
def answer (capacity : Nat) (xs : Ranked κ α) : Cache.Call κ α → Cache.Reply α × Ranked κ α
  | .insert key value => (.done, xs.insert capacity key value)
  | .find key => (.value (xs.value? key), xs.find key)
  | .peek key => (.value (xs.value? key), xs)
  | .contains key => (.truth (xs.value? key).isSome, xs)
  | .remove key => (.value (xs.value? key), xs.without key)
  | .clear => (.done, [])

/-- Answers calls one after the other. -/
def run (capacity : Nat) (xs : Ranked κ α) :
    List (Cache.Call κ α) → List (Cache.Reply α) × Ranked κ α
  | [] => ([], xs)
  | call :: more =>
    let (reply, xs) := xs.answer capacity call
    let (replies, xs) := run capacity xs more
    (reply :: replies, xs)

end Calls

section Laws

variable [LawfulBEq κ]

/-- A key has a value exactly if it is among the keys. -/
theorem value?_eq_none_iff (xs : Ranked κ α) (key : κ) :
    xs.value? key = none ↔ key ∉ xs.keys := by
  rw [value?, keys, List.lookup_eq_none_iff]
  constructor
  · rintro h hmem
    obtain ⟨e, he, rfl⟩ := List.mem_map.1 hmem
    simpa using h e he
  · intro h e he
    have hne : key ≠ e.1 := fun hk => h (hk ▸ List.mem_map_of_mem he)
    simpa using hne

/-- Where no key stands twice, the value of a key is the one that stands by it. -/
theorem value?_eq_some_iff
    {xs : Ranked κ α} (hnodup : xs.keys.Nodup) (key : κ) (value : α) :
    xs.value? key = some value ↔ (key, value) ∈ xs := by
  induction xs with
  | nil => simp [value?]
  | cons e xs ih =>
      obtain ⟨k, a⟩ := e
      obtain ⟨hk, hxs⟩ : k ∉ keys xs ∧ (keys xs).Nodup := by
        simpa [keys] using hnodup
      by_cases h : key = k
      · subst h
        have hother : (key, value) ∉ xs := fun hm =>
          hk (List.mem_map_of_mem (f := Prod.fst) hm)
        simp [value?, hother, eq_comm]
      · have hne : (key == k) = false := by simpa using h
        have htail : value? xs key = some value ↔ (key, value) ∈ xs := ih hxs
        simpa [value?, List.lookup_cons, hne, h] using htail

/-- A key without an entry leaves all of them. -/
theorem without_of_not_mem
    {xs : Ranked κ α} {key : κ} (h : key ∉ xs.keys) :
    xs.without key = xs := by
  refine List.filter_eq_self.2 ?_
  intro e he
  have hne : e.1 ≠ key := fun hk => h (hk ▸ List.mem_map_of_mem he)
  simpa using hne

/-- Without the key of the last entry the others are left. -/
theorem without_append_singleton
    {xs : Ranked κ α} {key : κ} {value : α}
    (hnodup : (keys (xs ++ [(key, value)])).Nodup) :
    without (xs ++ [(key, value)]) key = xs := by
  have hkey : key ∉ keys xs := by
    rw [keys, List.map_append, List.nodup_append] at hnodup
    intro hmem
    exact hnodup.2.2 key hmem key List.mem_cons_self rfl
  have hxs := without_of_not_mem hkey
  rw [without] at hxs ⊢
  simp [hxs]

end Laws

end Ranked
end Recency
end RequestGuard
