import Mathlib.Data.Finset.Card
import RequestGuard.Proofs.Recency.Refinement

/-!
# How long an entry stays

An entry stays as long as fewer other keys are used after it than there is room for.

`Ranked.Kept` says that only keys of a set stand before an entry.  A use of the entry
brings this about (`kept_toFront`).  As long as only keys of the set are used, and the
set is smaller than the room there is, the entry keeps its place behind them and its
value (`Kept.find`, `Kept.insert`, `Kept.without`).
-/

namespace RequestGuard
namespace Recency

universe u v

variable {κ : Type u} {α : Type v} [BEq κ]

namespace Ranked

/-- A key has a value, and only others were used after it. -/
def Kept (xs : Ranked κ α) (key : κ) (value : α) (others : Finset κ) : Prop :=
  ∃ before after : Ranked κ α,
    xs = before ++ (key, value) :: after ∧ ∀ e ∈ before, e.1 ∈ others

variable {xs : Ranked κ α} {key other : κ} {value : α} {others : Finset κ}

/-- A key that was just used has no other before it. -/
theorem kept_toFront (xs : Ranked κ α) (key : κ) (value : α) (others : Finset κ) :
    (xs.toFront key value).Kept key value others :=
  ⟨[], xs.without key, rfl, by simp⟩

omit [BEq κ] in
/-- What comes before a key that is kept may be one of the others. -/
theorem Kept.cons
    (h : xs.Kept key value others) (hother : other ∈ others) (a : α) :
    Ranked.Kept ((other, a) :: xs) key value others := by
  obtain ⟨before, after, rfl, hbefore⟩ := h
  refine ⟨(other, a) :: before, after, rfl, ?_⟩
  intro e he
  rcases List.mem_cons.1 he with rfl | he
  · exact hother
  · exact hbefore e he

variable [LawfulBEq κ]

/-- A key that is kept has its value. -/
theorem Kept.value?_eq
    (h : xs.Kept key value others) (hkey : key ∉ others) :
    xs.value? key = some value := by
  obtain ⟨before, after, rfl, hbefore⟩ := h
  induction before with
  | nil => simp [value?]
  | cons e before ih =>
      have hne : (key == e.1) = false := by
        have hmem := hbefore e List.mem_cons_self
        rw [beq_eq_false_iff_ne]
        rintro rfl
        exact hkey hmem
      have htail := ih fun f hf => hbefore f (List.mem_cons_of_mem e hf)
      rw [value?] at htail ⊢
      rw [List.cons_append, List.lookup_cons, hne]
      exact htail

theorem Kept.without
    (h : xs.Kept key value others) (hne : other ≠ key) :
    (xs.without other).Kept key value others := by
  obtain ⟨before, after, rfl, hbefore⟩ := h
  refine ⟨Ranked.without before other, Ranked.without after other, ?_, ?_⟩
  · simp [Ranked.without, Ne.symm hne]
  · intro e he
    exact hbefore e (List.mem_filter.1 he).1

/-- A use of another key leaves a key where it is. -/
theorem Kept.find
    (h : xs.Kept key value others) (hother : other ∈ others) (hkey : key ∉ others) :
    (xs.find other).Kept key value others := by
  have hne : other ≠ key := fun e => hkey (e ▸ hother)
  rw [Ranked.find]
  split
  · exact (h.without hne).cons hother _
  · exact h

omit [BEq κ] [LawfulBEq κ] in
/-- The last entry of a full list is not the one that is kept. -/
theorem Kept.dropLast
    (h : xs.Kept key value others) (hother : other ∈ others)
    (hnew : other ∉ xs.keys) (hnodup : xs.keys.Nodup)
    {capacity : Nat} (hfull : capacity ≤ xs.length) (hcard : others.card < capacity) :
    Ranked.Kept xs.dropLast key value others := by
  obtain ⟨before, after, rfl, hbefore⟩ := h
  cases after with
  | cons e after =>
      refine ⟨before, (e :: after).dropLast, ?_, hbefore⟩
      rw [List.dropLast_append_of_ne_nil (by simp),
        List.dropLast_cons_of_ne_nil (by simp)]
  | nil =>
      -- If the key stood last, the others would fill the list before it.
      exfalso
      rw [keys, List.map_append] at hnew hnodup
      have hbeforeNodup : (other :: keys before).Nodup := by
        refine List.nodup_cons.2 ⟨?_, (List.nodup_append.1 hnodup).1⟩
        exact fun hmem => hnew (List.mem_append_left _ hmem)
      have hsubset : other :: keys before ⊆ others.toList := by
        intro k hk
        rw [Finset.mem_toList]
        rcases List.mem_cons.1 hk with rfl | hk
        · exact hother
        · obtain ⟨e, he, rfl⟩ := List.mem_map.1 hk
          exact hbefore e he
      have hlen := (List.subperm_of_subset hbeforeNodup hsubset).length_le
      rw [List.length_cons, keys, List.length_map, Finset.length_toList] at hlen
      rw [List.length_append, List.length_singleton] at hfull
      omega

/-- Setting the value of another key leaves a key where it is, as long as the others
are fewer than there is room for. -/
theorem Kept.insert
    (h : xs.Kept key value others) (hother : other ∈ others) (hkey : key ∉ others)
    (hnodup : xs.keys.Nodup) {capacity : Nat} (hcard : others.card < capacity) (a : α) :
    (xs.insert capacity other a).Kept key value others := by
  have hne : other ≠ key := fun e => hkey (e ▸ hother)
  rw [Ranked.insert]
  split
  · exact (h.without hne).cons hother a
  · next hnone =>
      have hnew : other ∉ xs.keys := (value?_eq_none_iff xs other).1 hnone
      refine Kept.cons ?_ hother a
      split
      · next hfull => exact h.dropLast hother hnew hnodup hfull hcard
      · exact h

end Ranked

namespace Cache

variable [LawfulBEq κ] [Hashable κ] [LawfulHashable κ]

/-- A key of a sound cache has a value, and only others were used after it. -/
structure Kept (c : Cache κ α) (key : κ) (value : α) (others : Finset κ) : Prop where
  sound : c.Sound
  ranked : c.ranked.Kept key value others

section Keeping

variable {c : Cache κ α} {key other : κ} {value : α} {others : Finset κ}

omit [LawfulHashable κ] in
theorem Kept.peek?_eq
    (h : c.Kept key value others) (hkey : key ∉ others) :
    c.peek? key = some value := by
  rw [← h.sound.value?_ranked]
  exact h.ranked.value?_eq hkey

/-- A question for a key keeps it. -/
theorem Sound.kept_find
    (h : c.Sound) (hkey : c.peek? key = some value) (others : Finset κ) :
    (c.find key).2.Kept key value others := by
  have hfind := h.mirrors.find key
  refine ⟨hfind.sound, ?_⟩
  rw [hfind.ranked_eq, Ranked.find, h.value?_ranked, hkey]
  exact Ranked.kept_toFront _ _ _ _

/-- Setting a value keeps it. -/
theorem Sound.kept_insert
    (h : c.Sound) (key : κ) (value : α) (others : Finset κ) :
    (c.insert key value).Kept key value others := by
  have hinsert := h.mirrors.insert key value
  refine ⟨hinsert.sound, ?_⟩
  rw [hinsert.ranked_eq, Ranked.insert]
  split
  · exact Ranked.kept_toFront _ _ _ _
  · exact ⟨[], _, rfl, by simp⟩

theorem Kept.find
    (h : c.Kept key value others) (hother : other ∈ others) (hkey : key ∉ others) :
    (c.find other).2.Kept key value others := by
  have hfind := h.sound.mirrors.find other
  refine ⟨hfind.sound, ?_⟩
  rw [hfind.ranked_eq]
  exact h.ranked.find hother hkey

theorem Kept.insert
    (h : c.Kept key value others) (hother : other ∈ others) (hkey : key ∉ others)
    (hcard : others.card < c.capacity) (a : α) :
    (c.insert other a).Kept key value others := by
  have hinsert := h.sound.mirrors.insert other a
  refine ⟨hinsert.sound, ?_⟩
  rw [hinsert.ranked_eq]
  exact h.ranked.insert hother hkey h.sound.nodup_keys hcard a

theorem Kept.remove
    (h : c.Kept key value others) (hne : other ≠ key) :
    (c.remove other).2.Kept key value others := by
  have hremove := h.sound.mirrors.remove other
  refine ⟨hremove.sound, ?_⟩
  rw [hremove.ranked_eq]
  exact h.ranked.without hne

end Keeping

end Cache
end Recency
end RequestGuard
