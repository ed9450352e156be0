import RequestGuard.Proofs.Recency.Sound

/-!
# A cache is a list in the order of use

`run_empty_eq_ranked`: whatever is asked of a cache that was empty, it answers as the
list of its entries does, and its times stay in agreement with its entries.

The proof is a simulation.  A cache mirrors a list (`Mirrors`) if it is sound and the
list is its entries in the order of use; each call keeps this.
-/

namespace RequestGuard
namespace Recency
namespace Cache

universe u v

variable {κ : Type u} {α : Type v} [BEq κ] [Hashable κ]

section Sameness

/-- Two caches that no call tells apart. -/
structure Alike (c d : Cache κ α) : Prop where
  capacity_eq : d.capacity = c.capacity
  clock_eq : d.clock = c.clock
  entries_equiv : Std.HashMap.Equiv d.entries c.entries
  order_eq : d.order = c.order

variable [LawfulBEq κ] [LawfulHashable κ] {c d : Cache κ α}

theorem Alike.getElem?_eq (h : Alike c d) (key : κ) :
    d.entries[key]? = c.entries[key]? :=
  h.entries_equiv.getElem?_eq

theorem Alike.sound (h : Alike c d) (hc : c.Sound) : d.Sound where
  order_iff time key := by
    rw [h.order_eq, h.getElem?_eq, hc.order_iff]
  le_clock key value time hkey := by
    rw [h.clock_eq]
    rw [h.getElem?_eq] at hkey
    exact hc.le_clock key value time hkey
  size_le := by
    rw [size, h.entries_equiv.size_eq, h.capacity_eq]
    exact hc.size_le

theorem Alike.ranked_eq (h : Alike c d) : d.ranked = c.ranked := by
  have hentry : d.pairAt? = c.pairAt? := by
    funext e
    rw [pairAt?, pairAt?, peek?, peek?, h.getElem?_eq]
  rw [ranked, ranked, hentry, h.order_eq]

/-- An entry that is used again goes away and is new. -/
theorem alike_renew
    (c : Cache κ α) (key : κ) (value : α) (last : Nat) :
    Alike ((c.drop key last).place key value) (c.renew key value last) where
  capacity_eq := rfl
  clock_eq := rfl
  entries_equiv := by
    refine Std.HashMap.Equiv.of_forall_getElem?_eq fun k => ?_
    show (c.entries.insert key _)[k]? = ((c.entries.erase key).insert key _)[k]?
    rw [Std.HashMap.getElem?_insert, Std.HashMap.getElem?_insert,
      Std.HashMap.getElem?_erase]
    by_cases hk : key = k
    · simp [hk, drop]
    · simp [hk]
  order_eq := rfl

end Sameness

namespace Sound

variable [LawfulBEq κ] [LawfulHashable κ] {c : Cache κ α} (h : c.Sound)

section Renewal

theorem size_drop_lt
    {key : κ} {value : α} {last : Nat}
    (hkey : c.entries[key]? = some (value, last)) :
    (c.drop key last).size < c.size := by
  have hmem : key ∈ c.entries := by
    rw [← Std.HashMap.isSome_getElem?_iff_mem, hkey]
    rfl
  have hpos : 0 < c.entries.size := by
    rw [← Std.HashMap.length_keys]
    exact List.length_pos_of_mem (Std.HashMap.mem_keys.2 hmem)
  show (c.entries.erase key).size < c.entries.size
  rw [Std.HashMap.size_erase, if_pos hmem]
  omega

include h

/-- An entry may be used again, and then stands first. -/
theorem renew
    {key : κ} {old : α} {last : Nat}
    (hkey : c.entries[key]? = some (old, last)) (value : α) :
    (c.renew key value last).Sound ∧
      (c.renew key value last).ranked = c.ranked.toFront key value := by
  have hdrop := h.drop hkey
  have hgone : (c.drop key last).entries[key]? = none := by
    show (c.entries.erase key)[key]? = none
    simp
  have hroom : (c.drop key last).size < (c.drop key last).capacity :=
    Nat.lt_of_lt_of_le (size_drop_lt hkey) h.size_le
  have halike := alike_renew c key value last
  refine ⟨halike.sound (hdrop.place hgone value hroom), ?_⟩
  rw [halike.ranked_eq, hdrop.ranked_place hgone, h.ranked_drop hkey]
  rfl

end Renewal

section Eviction

include h

/-- The entry that gives way is the last one. -/
theorem dropOldest
    (hsize : 0 < c.size) :
    c.dropOldest.Sound ∧
      c.dropOldest.ranked = c.ranked.dropLast ∧
      c.dropOldest.size < c.size := by
  cases htimes : c.order.toList with
  | nil =>
      have hlen : c.size = 0 := by
        rw [← h.length_ranked, ranked, htimes]
        rfl
      omega
  | cons e rest =>
      obtain ⟨time, key⟩ := e
      have hmem : (time, key) ∈ c.order.toList := by
        rw [htimes]
        exact List.mem_cons_self
      obtain ⟨value, hkey⟩ := (h.mem_toList_iff time key).1 hmem
      have hdrop : c.dropOldest = c.drop key time := by
        rw [Cache.dropOldest, minEntry?_eq_head?_toList, htimes]
        rfl
      have hlast : c.ranked = rest.reverse.filterMap c.pairAt? ++ [(key, value)] := by
        rw [ranked, htimes, List.reverse_cons, List.filterMap_append]
        simp [pairAt?_eq hkey]
      have hnodup := h.nodup_keys
      rw [hlast] at hnodup
      rw [hdrop]
      refine ⟨h.drop hkey, ?_, size_drop_lt hkey⟩
      rw [h.ranked_drop hkey, hlast, Ranked.without_append_singleton hnodup,
        List.dropLast_concat]

/-- There is room for a new entry once the oldest has gone. -/
theorem place_after_dropOldest
    {key : κ} (hkey : c.entries[key]? = none) (value : α)
    (hfull : c.capacity ≤ c.size) :
    (c.dropOldest.place key value).Sound ∧
      (c.dropOldest.place key value).ranked = (key, value) :: c.ranked.dropLast := by
  have hpos : 0 < c.size := Nat.lt_of_lt_of_le c.capacity_pos hfull
  obtain ⟨hsound, hranked, hsize⟩ := h.dropOldest hpos
  have hroom : c.dropOldest.size < c.dropOldest.capacity := by
    rw [capacity_dropOldest]
    exact Nat.lt_of_lt_of_le hsize h.size_le
  have hpeek : c.peek? key = none := by rw [peek?, hkey]; rfl
  have hgone : c.dropOldest.entries[key]? = none := by
    have := c.peek?_dropOldest key
    rw [hpeek, or_self] at this
    exact Option.map_eq_none_iff.1 this
  refine ⟨hsound.place hgone value hroom, ?_⟩
  rw [hsound.ranked_place hgone, hranked]

end Eviction

end Sound

section Simulation

/-- A cache whose entries, in the order of use, are the list. -/
structure Mirrors (c : Cache κ α) (capacity : Nat) (xs : Ranked κ α) : Prop where
  sound : c.Sound
  capacity_eq : c.capacity = capacity
  ranked_eq : c.ranked = xs

/-- A sound cache mirrors its own ranking. -/
theorem Sound.mirrors {c : Cache κ α} (h : c.Sound) :
    c.Mirrors c.capacity c.ranked :=
  ⟨h, rfl, rfl⟩

variable [LawfulBEq κ] [LawfulHashable κ]

variable {c : Cache κ α} {capacity : Nat} {xs : Ranked κ α}

theorem mirrors_empty (capacity : Nat) :
    (empty capacity : Cache κ α).Mirrors (max capacity 1) [] where
  sound :=
    { order_iff := by simp [empty]
      le_clock := by simp [empty]
      size_le := by simp [empty, size] }
  capacity_eq := rfl
  ranked_eq := by simp [empty, ranked]

omit [LawfulHashable κ] in
theorem Mirrors.peek? (h : c.Mirrors capacity xs) (key : κ) :
    c.peek? key = xs.value? key := by
  rw [← h.ranked_eq, h.sound.value?_ranked]

theorem Mirrors.find (h : c.Mirrors capacity xs) (key : κ) :
    (c.find key).2.Mirrors capacity (xs.find key) := by
  have hvalue := h.peek? key
  cases hkey : c.entries[key]? with
  | none =>
      have hfind : (c.find key).2 = c.tick := by
        rw [Cache.find, hkey]
        rfl
      have hxs : xs.find key = xs := by
        rw [Ranked.find, ← hvalue, Cache.peek?, hkey]
        rfl
      rw [hfind, hxs]
      exact ⟨h.sound.tick, h.capacity_eq, h.ranked_eq⟩
  | some e =>
      obtain ⟨value, last⟩ := e
      have hfind : (c.find key).2 = c.renew key value last := by
        rw [Cache.find, hkey]
        rfl
      have hxs : xs.find key = xs.toFront key value := by
        rw [Ranked.find, ← hvalue, Cache.peek?, hkey]
        rfl
      obtain ⟨hsound, hranked⟩ := h.sound.renew hkey value
      rw [hfind, hxs, ← h.ranked_eq]
      exact ⟨hsound, h.capacity_eq, hranked⟩

theorem Mirrors.insert (h : c.Mirrors capacity xs) (key : κ) (value : α) :
    (c.insert key value).Mirrors capacity (xs.insert capacity key value) := by
  have hvalue := h.peek? key
  cases hkey : c.entries[key]? with
  | some e =>
      obtain ⟨old, last⟩ := e
      have hinsert : c.insert key value = c.renew key value last := by
        rw [Cache.insert, hkey]
        rfl
      have hxs : xs.insert capacity key value = xs.toFront key value := by
        rw [Ranked.insert, ← hvalue, Cache.peek?, hkey]
        rfl
      obtain ⟨hsound, hranked⟩ := h.sound.renew hkey value
      rw [hinsert, hxs, ← h.ranked_eq]
      exact ⟨hsound, h.capacity_eq, hranked⟩
  | none =>
      have hxs : xs.insert capacity key value =
          (key, value) :: if capacity ≤ xs.length then xs.dropLast else xs := by
        rw [Ranked.insert, ← hvalue, Cache.peek?, hkey]
        rfl
      have hlen : xs.length = c.size := by
        rw [← h.ranked_eq, h.sound.length_ranked]
      rw [insert_of_getElem?_eq_none hkey, hxs, hlen, ← h.capacity_eq]
      by_cases hfull : c.capacity ≤ c.size
      · rw [if_pos hfull, if_pos hfull, ← h.ranked_eq]
        obtain ⟨hsound, hranked⟩ := h.sound.place_after_dropOldest hkey value hfull
        exact ⟨hsound, capacity_dropOldest c, hranked⟩
      · rw [if_neg hfull, if_neg hfull, ← h.ranked_eq]
        have hroom : c.size < c.capacity := Nat.lt_of_not_le hfull
        exact ⟨h.sound.place hkey value hroom, rfl, h.sound.ranked_place hkey value⟩

theorem Mirrors.remove (h : c.Mirrors capacity xs) (key : κ) :
    (c.remove key).2.Mirrors capacity (xs.without key) := by
  cases hkey : c.entries[key]? with
  | none =>
      have hremove : (c.remove key).2 = c := by
        rw [Cache.remove, hkey]
      have hmem : key ∉ xs.keys := by
        rw [← h.ranked_eq, h.sound.mem_keys_iff, Cache.peek?, hkey]
        simp
      rw [hremove, Ranked.without_of_not_mem hmem]
      exact h
  | some e =>
      obtain ⟨value, last⟩ := e
      have hremove : (c.remove key).2 = c.drop key last := by
        rw [Cache.remove, hkey]
        rfl
      rw [hremove, ← h.ranked_eq]
      exact ⟨h.sound.drop hkey, h.capacity_eq, h.sound.ranked_drop hkey⟩

omit [LawfulHashable κ] in
theorem Mirrors.clear (h : c.Mirrors capacity xs) :
    c.clear.Mirrors capacity [] where
  sound :=
    { order_iff := by simp [Cache.clear]
      le_clock := by simp [Cache.clear]
      size_le := by simp [Cache.clear, size] }
  capacity_eq := h.capacity_eq
  ranked_eq := by simp [Cache.clear, ranked]

end Simulation

section Runs

variable [LawfulBEq κ] [LawfulHashable κ]
variable {c : Cache κ α} {capacity : Nat} {xs : Ranked κ α}

/-- A cache and the list it mirrors answer a call alike, and go on alike. -/
theorem Mirrors.answer (h : c.Mirrors capacity xs) (call : Call κ α) :
    (c.answer call).1 = (xs.answer capacity call).1 ∧
      (c.answer call).2.Mirrors capacity (xs.answer capacity call).2 := by
  cases call with
  | insert key value =>
      exact ⟨rfl, h.insert key value⟩
  | find key =>
      refine ⟨?_, h.find key⟩
      show Reply.value (c.find key).1 = Reply.value (xs.value? key)
      rw [find_fst, h.peek?]
  | peek key =>
      refine ⟨?_, h⟩
      show Reply.value (c.peek? key) = Reply.value (xs.value? key)
      rw [h.peek?]
  | contains key =>
      refine ⟨?_, h⟩
      show Reply.truth (c.contains key) = Reply.truth (xs.value? key).isSome
      rw [contains_eq_isSome_peek?, h.peek?]
  | remove key =>
      refine ⟨?_, h.remove key⟩
      show Reply.value (c.remove key).1 = Reply.value (xs.value? key)
      rw [remove_fst, h.peek?]
  | clear =>
      exact ⟨rfl, h.clear⟩

/-- A run of calls is answered alike. -/
theorem Mirrors.run (h : c.Mirrors capacity xs) (calls : List (Call κ α)) :
    (c.run calls).1 = (xs.run capacity calls).1 ∧
      (c.run calls).2.Mirrors capacity (xs.run capacity calls).2 := by
  induction calls generalizing c xs with
  | nil => exact ⟨rfl, h⟩
  | cons call more ih =>
      obtain ⟨hreply, hnext⟩ := h.answer call
      obtain ⟨hreplies, hlast⟩ := ih hnext
      refine ⟨?_, hlast⟩
      show (c.answer call).1 :: ((c.answer call).2.run more).1 = _
      rw [hreply, hreplies]
      rfl

omit [LawfulBEq κ] [LawfulHashable κ] in
/-- A call takes at most one tick of the clock. -/
theorem clock_answer_le (c : Cache κ α) (call : Call κ α) :
    (c.answer call).2.clock ≤ c.clock + 1 := by
  cases call with
  | insert key value =>
      show (c.insert key value).clock ≤ _
      rw [Cache.insert]
      split <;> exact Nat.le_refl _
  | find key =>
      show (c.find key).2.clock ≤ _
      rw [Cache.find]
      split <;> exact Nat.le_refl _
  | remove key =>
      show (c.remove key).2.clock ≤ _
      rw [Cache.remove]
      split <;> exact Nat.le_succ _
  | peek key => exact Nat.le_succ _
  | contains key => exact Nat.le_succ _
  | clear => exact Nat.le_succ _

omit [LawfulBEq κ] [LawfulHashable κ] in
/-- The clock is at most as late as there were calls. -/
theorem clock_run_le (c : Cache κ α) (calls : List (Call κ α)) :
    (c.run calls).2.clock ≤ c.clock + calls.length := by
  induction calls generalizing c with
  | nil => exact Nat.le_refl _
  | cons call more ih =>
      have hfirst := clock_answer_le c call
      have hmore := ih (c.answer call).2
      show ((c.answer call).2.run more).2.clock ≤ _
      rw [List.length_cons]
      omega

/-- **A cache is a list in the order of use.**  After any calls the replies are those of
the list, the list is what `order` tells of the entries, no key is in it twice, entries
and times agree, no two entries share a time, and the clock has not gone further than
one tick a call. -/
theorem run_empty_eq_ranked
    (capacity : Nat) (calls : List (Call κ α)) :
    ((empty capacity).run calls).1 = (Ranked.run (max capacity 1) [] calls).1 ∧
      ((empty capacity).run calls).2.ranked = (Ranked.run (max capacity 1) [] calls).2 ∧
      ((empty capacity).run calls).2.ranked.keys.Nodup ∧
      ((empty capacity).run calls).2.Sound ∧
      ((empty capacity).run calls).2.capacity = max capacity 1 ∧
      (∀ (key other : κ) (a b : α) (time : Nat),
        ((empty capacity).run calls).2.entries[key]? = some (a, time) →
        ((empty capacity).run calls).2.entries[other]? = some (b, time) →
        key = other) ∧
      ((empty capacity : Cache κ α).run calls).2.clock ≤ calls.length := by
  obtain ⟨hreplies, hmirrors⟩ := (mirrors_empty (κ := κ) (α := α) capacity).run calls
  have hsound := hmirrors.sound
  refine ⟨hreplies, hmirrors.ranked_eq, hsound.nodup_keys, hsound,
    hmirrors.capacity_eq, ?_, ?_⟩
  · intro key other a b time hkey hother
    exact hsound.key_eq hkey hother
  · have hclock := clock_run_le (empty capacity) calls
    rw [Nat.add_comm] at hclock
    exact hclock

/-- The entry that was used longest ago gives way, and not the one that was read. -/
theorem run_empty_eq_ranked_two :
    ((empty 2 : Cache String Nat).run
        [.insert "a" 1, .insert "b" 2, .find "a", .insert "c" 3, .insert "a" 4,
          .contains "b", .peek "a", .remove "c", .find "c"]).1 =
      [.done, .done, .value (some 1), .done, .done,
        .truth false, .value (some 4), .value (some 3), .value none] := by
  refine (run_empty_eq_ranked 2 _).1.trans ?_
  decide

end Runs

end Cache
end Recency
end RequestGuard
