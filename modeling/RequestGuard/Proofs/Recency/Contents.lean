import RequestGuard.Recency.Cache
import Std.Data.HashMap.Lemmas

/-!
# What a cache holds

The value of each key after each operation, as `peek?` tells it.

* No operation changes the capacity.
* A question changes no value (`peek?_find`).
* Setting a value gives it to its key (`peek?_insert_self`); any other key keeps its
  value, unless it loses its entry to a new key (`peek?_insert_of_ne`).
* Removing an entry leaves the others (`peek?_remove_of_ne`).
-/

namespace RequestGuard
namespace Recency
namespace Cache

universe u v

variable {κ : Type u} {α : Type v} [BEq κ] [Hashable κ]

section Room

@[simp] theorem capacity_find
    (c : Cache κ α) (key : κ) :
    (c.find key).2.capacity = c.capacity := by
  rw [find]
  split <;> rfl

theorem capacity_dropOldest (c : Cache κ α) :
    c.dropOldest.capacity = c.capacity := by
  rw [dropOldest]
  split <;> rfl

theorem clock_dropOldest (c : Cache κ α) :
    c.dropOldest.clock = c.clock := by
  rw [dropOldest]
  split <;> rfl

@[simp] theorem capacity_insert
    (c : Cache κ α) (key : κ) (value : α) :
    (c.insert key value).capacity = c.capacity := by
  rw [insert]
  split
  · rfl
  · show (if c.capacity ≤ c.size then c.dropOldest else c).capacity = _
    split
    · exact capacity_dropOldest c
    · rfl

@[simp] theorem capacity_remove
    (c : Cache κ α) (key : κ) :
    (c.remove key).2.capacity = c.capacity := by
  rw [remove]
  split <;> rfl

end Room

section Values

/-- The answer to a question is the value of the key. -/
@[simp] theorem find_fst
    (c : Cache κ α) (key : κ) :
    (c.find key).1 = c.peek? key := by
  rw [find, peek?]
  split
  · next h => simp [h]
  · next h => simp [h]

/-- What is removed is the value of the key. -/
@[simp] theorem remove_fst
    (c : Cache κ α) (key : κ) :
    (c.remove key).1 = c.peek? key := by
  rw [remove, peek?]
  split
  · next h => simp [h]
  · next h => simp [h]

variable [LawfulBEq κ] [LawfulHashable κ]

/-- A key is contained exactly if it has a value. -/
theorem contains_eq_isSome_peek?
    (c : Cache κ α) (key : κ) :
    c.contains key = (c.peek? key).isSome := by
  rw [contains, peek?, Option.isSome_map, Std.HashMap.contains_eq_isSome_getElem?]

/-- An empty cache holds nothing. -/
@[simp] theorem peek?_empty
    (capacity : Nat) (key : κ) :
    (empty capacity : Cache κ α).peek? key = none := by
  simp [empty, peek?]

/-- A question changes no value. -/
@[simp] theorem peek?_find
    (c : Cache κ α) (key other : κ) :
    (c.find key).2.peek? other = c.peek? other := by
  rw [find]
  split
  · rfl
  · next value last h =>
      by_cases hk : key = other
      · subst hk
        simp [peek?, h]
      · simp [peek?, Std.HashMap.getElem?_insert, hk]

/-- A question adds no entry and costs none. -/
@[simp] theorem size_find
    (c : Cache κ α) (key : κ) :
    (c.find key).2.size = c.size := by
  rw [find]
  split
  · rfl
  · next value last h =>
      have hmem : key ∈ c.entries := by
        rw [← Std.HashMap.isSome_getElem?_iff_mem, h]
        rfl
      simp [size, Std.HashMap.size_insert, hmem]

/-- The oldest entry may go; no value changes. -/
theorem peek?_dropOldest
    (c : Cache κ α) (key : κ) :
    c.dropOldest.peek? key = c.peek? key ∨
      c.dropOldest.peek? key = none := by
  rw [dropOldest]
  split
  · exact Or.inl rfl
  · next time oldest h =>
      by_cases hk : oldest = key
      · right
        simp [peek?, hk]
      · left
        simp [peek?, Std.HashMap.getElem?_erase, hk]

/-- A value that is set is held. -/
@[simp] theorem peek?_insert_self
    (c : Cache κ α) (key : κ) (value : α) :
    (c.insert key value).peek? key = some value := by
  rw [insert]
  split
  · simp [peek?]
  · simp [peek?]

/-- Setting a value leaves the others, unless a new key takes the place of one in a full
cache. -/
theorem peek?_insert_of_ne
    (c : Cache κ α) {key other : κ} (value : α)
    (hne : other ≠ key) :
    (c.insert key value).peek? other = c.peek? other ∨
      ((c.insert key value).peek? other = none ∧
        c.peek? key = none ∧ c.capacity ≤ c.size) := by
  rw [insert]
  split
  · left
    simp [peek?, Std.HashMap.getElem?_insert, Ne.symm hne]
  · next hnew =>
      have hkey : c.peek? key = none := by
        rw [peek?, hnew, Option.map_none]
      have hroom :
          (if c.capacity ≤ c.size then c.dropOldest else c).peek? other = c.peek? other ∨
            ((if c.capacity ≤ c.size then c.dropOldest else c).peek? other = none ∧
              c.peek? key = none ∧ c.capacity ≤ c.size) := by
        split
        · next hfull =>
            exact (peek?_dropOldest c other).imp id fun hgone => ⟨hgone, hkey, hfull⟩
        · exact Or.inl rfl
      rw [peek?] at hroom
      rw [peek?, Std.HashMap.getElem?_insert, if_neg (by simpa using Ne.symm hne)]
      exact hroom

/-- An entry that is removed is gone. -/
@[simp] theorem peek?_remove_self
    (c : Cache κ α) (key : κ) :
    (c.remove key).2.peek? key = none := by
  rw [remove]
  split
  · next h => simp [peek?, h]
  · simp [peek?]

/-- Removing an entry leaves the others. -/
theorem peek?_remove_of_ne
    (c : Cache κ α) {key other : κ}
    (hne : other ≠ key) :
    (c.remove key).2.peek? other = c.peek? other := by
  rw [remove]
  split
  · rfl
  · simp [peek?, Std.HashMap.getElem?_erase, Ne.symm hne]

end Values

end Cache
end Recency
end RequestGuard
