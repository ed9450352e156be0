import RequestGuard.Proofs.Recency.Contents
import RequestGuard.Proofs.Recency.Ranked
import RequestGuard.Proofs.Recency.Timeline

/-!
# The entries of a cache and their times

In a sound cache the two maps go back and forth: a key stands in `order` at the time
of its last use and nowhere else.  Read backwards in time, `order` then gives the
entries in the order of use (`ranked`).

Every operation is made of four moves: the clock goes on (`tick`), an entry is used
again (`renew`), goes away (`drop`) or is new (`place`).  Each of them keeps a cache
sound and does one thing to `ranked`.
-/

namespace RequestGuard
namespace Recency
namespace Cache

universe u v

variable {κ : Type u} {α : Type v} [BEq κ] [Hashable κ]

section Views

/-- The entries and the times of their last use agree. -/
structure Sound (c : Cache κ α) : Prop where
  /-- A key stands at the time of its last use, and nowhere else. -/
  order_iff : ∀ (time : Nat) (key : κ),
    c.order[time]? = some key ↔ ∃ value, c.entries[key]? = some (value, time)
  /-- No last use lies ahead of the clock. -/
  le_clock : ∀ (key : κ) (value : α) (time : Nat),
    c.entries[key]? = some (value, time) → time ≤ c.clock
  /-- There are no more entries than there is room for. -/
  size_le : c.size ≤ c.capacity

/-- The entry of the key that was used at a time. -/
def pairAt? (c : Cache κ α) (e : Nat × κ) : Option (κ × α) :=
  (c.peek? e.2).map fun value => (e.2, value)

/-- The entries in the order of their last use, the one used last first. -/
def ranked (c : Cache κ α) : Ranked κ α :=
  c.order.toList.reverse.filterMap c.pairAt?

/-- Every time in `order` stands for an entry. -/
theorem pairAt?_eq
    {c : Cache κ α} {time : Nat} {key : κ} {value : α}
    (hkey : c.entries[key]? = some (value, time)) :
    c.pairAt? (time, key) = some (key, value) := by
  simp [pairAt?, peek?, hkey]

end Views

section Moves

/-- The clock goes on. -/
def tick (c : Cache κ α) : Cache κ α :=
  { c with clock := c.clock + 1 }

/-- An entry that was used at the time `last` is used again. -/
def renew (c : Cache κ α) (key : κ) (value : α) (last : Nat) : Cache κ α :=
  { c with
    clock := c.clock + 1
    entries := c.entries.insert key (value, c.clock + 1)
    order := (c.order.erase last).insert (c.clock + 1) key }

/-- An entry that was used at the time `last` goes away. -/
def drop (c : Cache κ α) (key : κ) (last : Nat) : Cache κ α :=
  { c with
    entries := c.entries.erase key
    order := c.order.erase last }

/-- An entry is new. -/
def place (c : Cache κ α) (key : κ) (value : α) : Cache κ α :=
  { c with
    clock := c.clock + 1
    entries := c.entries.insert key (value, c.clock + 1)
    order := c.order.insert (c.clock + 1) key }

/-- Setting the value of a key without an entry places it where there is room. -/
theorem insert_of_getElem?_eq_none
    {c : Cache κ α} {key : κ} (hkey : c.entries[key]? = none) (value : α) :
    c.insert key value =
      (if c.capacity ≤ c.size then c.dropOldest else c).place key value := by
  simp only [insert, hkey]
  split
  · simp only [place, clock_dropOldest]
  · rfl

end Moves

namespace Sound

variable {c : Cache κ α} (h : c.Sound)
include h

section Order

theorem mem_toList_iff (time : Nat) (key : κ) :
    (time, key) ∈ c.order.toList ↔ ∃ value, c.entries[key]? = some (value, time) := by
  rw [Recency.mem_toList_iff, h.order_iff]

/-- No two keys were last used at the same time. -/
theorem key_eq
    {key other : κ} {a b : α} {time : Nat}
    (hkey : c.entries[key]? = some (a, time))
    (hother : c.entries[other]? = some (b, time)) :
    key = other := by
  have h₁ := (h.order_iff time key).2 ⟨a, hkey⟩
  have h₂ := (h.order_iff time other).2 ⟨b, hother⟩
  exact Option.some.inj (h₁.symm.trans h₂)

/-- A key stands at the time of its last use only. -/
theorem time_eq_iff
    {key : κ} {value : α} {last : Nat}
    (hkey : c.entries[key]? = some (value, last))
    {e : Nat × κ} (he : e ∈ c.order.toList) :
    e.1 = last ↔ e.2 = key := by
  obtain ⟨time, k⟩ := e
  obtain ⟨a, ha⟩ := (h.mem_toList_iff time k).1 he
  constructor
  · rintro rfl
    exact h.key_eq ha hkey
  · rintro rfl
    have := Option.some.inj (ha.symm.trans hkey)
    exact congrArg Prod.snd this

theorem lt_now
    {e : Nat × κ} (he : e ∈ c.order.toList) :
    e.1 < c.clock + 1 := by
  obtain ⟨value, hv⟩ := (h.mem_toList_iff e.1 e.2).1 he
  exact Nat.lt_succ_of_le (h.le_clock _ _ _ hv)

end Order

section Ranking

theorem mem_ranked_iff (key : κ) (value : α) :
    (key, value) ∈ c.ranked ↔ c.peek? key = some value := by
  rw [ranked, List.mem_filterMap]
  constructor
  · rintro ⟨e, -, he⟩
    obtain ⟨a, ha, heq⟩ := Option.map_eq_some_iff.1 he
    obtain ⟨rfl, rfl⟩ : e.2 = key ∧ a = value := by simpa using heq
    exact ha
  · intro hv
    obtain ⟨⟨a, time⟩, he, rfl⟩ := Option.map_eq_some_iff.1 hv
    refine ⟨(time, key), ?_, pairAt?_eq he⟩
    rw [List.mem_reverse]
    exact (h.mem_toList_iff time key).2 ⟨a, he⟩

/-- The keys of the entries are the keys in `order`. -/
theorem keys_ranked :
    c.ranked.keys = c.order.toList.reverse.map Prod.snd := by
  rw [Ranked.keys, ranked, List.map_filterMap, ← List.filterMap_eq_map]
  refine List.filterMap_congr ?_
  intro e he
  obtain ⟨value, hv⟩ := (h.mem_toList_iff e.1 e.2).1 (List.mem_reverse.1 he)
  rw [pairAt?_eq hv]
  rfl

/-- No key is ranked twice. -/
theorem nodup_keys :
    c.ranked.keys.Nodup := by
  rw [h.keys_ranked, List.map_reverse, List.nodup_reverse]
  refine List.Nodup.map_on ?_ (pairwise_toList c.order).nodup
  intro e he f hf hef
  obtain ⟨value, hv⟩ := (h.mem_toList_iff f.1 f.2).1 hf
  have htime : e.1 = f.1 := (h.time_eq_iff hv he).2 hef
  exact Prod.ext htime hef

variable [LawfulBEq κ]

@[simp] theorem value?_ranked (key : κ) :
    c.ranked.value? key = c.peek? key := by
  ext value
  rw [Ranked.value?_eq_some_iff h.nodup_keys, h.mem_ranked_iff]

theorem mem_keys_iff (key : κ) :
    key ∈ c.ranked.keys ↔ (c.peek? key).isSome := by
  rw [← not_iff_not, ← Ranked.value?_eq_none_iff, h.value?_ranked]
  simp

/-- Every entry is ranked. -/
theorem length_ranked [LawfulHashable κ] :
    c.ranked.length = c.size := by
  have hperm : c.ranked.keys.Perm c.entries.keys := by
    rw [List.perm_ext_iff_of_nodup h.nodup_keys Std.HashMap.nodup_keys]
    intro key
    rw [h.mem_keys_iff, Std.HashMap.mem_keys, peek?, Option.isSome_map,
      Std.HashMap.isSome_getElem?_iff_mem]
  calc
    c.ranked.length = c.ranked.keys.length := by rw [Ranked.keys, List.length_map]
    _ = c.entries.keys.length := hperm.length_eq
    _ = c.size := Std.HashMap.length_keys

end Ranking

section Keeping

/-- The clock may go on. -/
theorem tick : c.tick.Sound where
  order_iff := h.order_iff
  le_clock key value time hkey := Nat.le_succ_of_le (h.le_clock key value time hkey)
  size_le := h.size_le

variable [LawfulBEq κ] [LawfulHashable κ]

/-- An entry may go away. -/
theorem drop
    {key : κ} {value : α} {last : Nat}
    (hkey : c.entries[key]? = some (value, last)) :
    (c.drop key last).Sound where
  order_iff time k := by
    show (c.order.erase last)[time]? = some k ↔
      ∃ a, (c.entries.erase key)[k]? = some (a, time)
    have htime : c.order[last]? = some key := (h.order_iff last key).2 ⟨value, hkey⟩
    rw [Std.TreeMap.getElem?_erase, Std.HashMap.getElem?_erase]
    by_cases ht : last = time
    · -- At the time that is gone only the key that is gone could stand.
      subst ht
      by_cases hk : key = k
      · simp [hk]
      · have hnone : ¬ ∃ a, c.entries[k]? = some (a, last) := by
          rintro ⟨a, ha⟩
          exact hk (h.key_eq hkey ha)
        simpa [hk] using hnone
    · have hcmp : compare last time ≠ .eq := by simpa using ht
      rw [if_neg hcmp, h.order_iff]
      by_cases hk : key = k
      · subst hk
        simp [hkey, ht]
      · simp [hk]
  le_clock k a time hk := by
    have hk' : (c.entries.erase key)[k]? = some (a, time) := hk
    rw [Std.HashMap.getElem?_erase] at hk'
    split at hk'
    · cases hk'
    · exact h.le_clock k a time hk'
  size_le := Nat.le_trans Std.HashMap.size_erase_le h.size_le

/-- A new entry may come where there is room for one. -/
theorem place
    {key : κ} (hkey : c.entries[key]? = none) (value : α)
    (hroom : c.size < c.capacity) :
    (c.place key value).Sound where
  order_iff time k := by
    show (c.order.insert (c.clock + 1) key)[time]? = some k ↔
      ∃ a, (c.entries.insert key (value, c.clock + 1))[k]? = some (a, time)
    rw [Std.TreeMap.getElem?_insert, Std.HashMap.getElem?_insert]
    by_cases ht : c.clock + 1 = time
    · -- No entry was used at the time that comes.
      subst ht
      have hnone : ¬ ∃ a, c.entries[k]? = some (a, c.clock + 1) := by
        rintro ⟨a, ha⟩
        exact Nat.not_succ_le_self _ (h.le_clock k a _ ha)
      by_cases hk : key = k
      · simp [hk]
      · simpa [hk] using hnone
    · have hcmp : compare (c.clock + 1) time ≠ .eq := by simpa using ht
      rw [if_neg hcmp, h.order_iff]
      by_cases hk : key = k
      · subst hk
        simp [hkey, ht]
      · simp [hk]
  le_clock k a time hk := by
    show time ≤ c.clock + 1
    have hk' : (c.entries.insert key (value, c.clock + 1))[k]? = some (a, time) := hk
    rw [Std.HashMap.getElem?_insert] at hk'
    split at hk'
    · cases hk'
      exact Nat.le_refl _
    · exact Nat.le_succ_of_le (h.le_clock k a time hk')
  size_le := Nat.le_trans Std.HashMap.size_insert_le hroom

end Keeping

section Rankings

variable [LawfulBEq κ] [LawfulHashable κ]

/-- An entry that goes away leaves the others in their order. -/
theorem ranked_drop
    {key : κ} {value : α} {last : Nat}
    (hkey : c.entries[key]? = some (value, last)) :
    (c.drop key last).ranked = c.ranked.without key := by
  show (c.order.erase last).toList.reverse.filterMap (c.drop key last).pairAt? =
    (c.order.toList.reverse.filterMap c.pairAt?).filter fun e => e.1 != key
  rw [toList_erase, ← List.filter_reverse, List.filterMap_filter,
    List.filter_filterMap]
  refine List.filterMap_congr ?_
  rintro ⟨time, k⟩ he
  have hmem : (time, k) ∈ c.order.toList := List.mem_reverse.1 he
  obtain ⟨a, ha⟩ := (h.mem_toList_iff time k).1 hmem
  have htime : time = last ↔ k = key := h.time_eq_iff hkey hmem
  rw [pairAt?_eq ha]
  by_cases hk : k = key
  · simp [htime.2 hk, hk, Option.filter]
  · have hne : time ≠ last := fun ht => hk (htime.1 ht)
    have ha' : (c.drop key last).entries[k]? = some (a, time) := by
      show (c.entries.erase key)[k]? = _
      simpa [Std.HashMap.getElem?_erase, Ne.symm hk] using ha
    simp [hne, hk, pairAt?_eq ha', Option.filter]

/-- A new entry goes to the front. -/
theorem ranked_place
    {key : κ} (hkey : c.entries[key]? = none) (value : α) :
    (c.place key value).ranked = (key, value) :: c.ranked := by
  have hnew : (c.place key value).entries[key]? = some (value, c.clock + 1) := by
    show (c.entries.insert key _)[key]? = _
    simp
  show (c.order.insert (c.clock + 1) key).toList.reverse.filterMap
    (c.place key value).pairAt? = (key, value) :: c.order.toList.reverse.filterMap c.pairAt?
  rw [toList_insert_of_forall_lt _ _ fun e he => h.lt_now he, List.reverse_append,
    List.reverse_singleton, List.singleton_append,
    List.filterMap_cons_some (pairAt?_eq hnew)]
  refine congrArg _ (List.filterMap_congr ?_)
  rintro ⟨time, k⟩ he
  obtain ⟨a, ha⟩ := (h.mem_toList_iff time k).1 (List.mem_reverse.1 he)
  have hne : key ≠ k := by
    rintro rfl
    cases hkey.symm.trans ha
  have ha' : (c.place key value).entries[k]? = some (a, time) := by
    show (c.entries.insert key _)[k]? = _
    simpa [Std.HashMap.getElem?_insert, hne] using ha
  rw [pairAt?_eq ha, pairAt?_eq ha']

end Rankings

end Sound

end Cache
end Recency
end RequestGuard
