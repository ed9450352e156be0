import Mathlib.Data.List.Sort
import Std.Data.TreeMap.Lemmas

/-!
# Trees of times

What is known of a tree whose keys are points in time, said of the list of its
entries from the earliest to the latest.

* `toList_insert_of_forall_lt`: a time after all others goes to the end.
* `toList_erase`: a time is taken out, and the others stay in their order.
* `minEntry?_eq_head?_toList`: the first entry of the tree is the earliest.
-/

namespace RequestGuard
namespace Recency

universe u

variable {κ : Type u}

/-- One entry is earlier than another. -/
def Earlier (x y : Nat × κ) : Prop :=
  x.1 < y.1

instance : Std.Antisymm (Earlier (κ := κ)) where
  antisymm _ _ hxy hyx := absurd hxy (Nat.lt_asymm hyx)

instance : Std.Irrefl (Earlier (κ := κ)) where
  irrefl x := Nat.lt_irrefl x.1

section Trees

variable (t : Std.TreeMap Nat κ)

/-- The entries stand in the order of their times. -/
theorem pairwise_toList :
    t.toList.Pairwise Earlier :=
  Std.TreeMap.ordered_keys_toList.imp fun h => Nat.compare_eq_lt.1 h

theorem mem_toList_iff (time : Nat) (key : κ) :
    (time, key) ∈ t.toList ↔ t[time]? = some key :=
  Std.TreeMap.mem_toList_iff_getElem?_eq_some

/-- A time after all others goes to the end. -/
theorem toList_insert_of_forall_lt
    {now : Nat} (key : κ)
    (hlast : ∀ e ∈ t.toList, e.1 < now) :
    (t.insert now key).toList = t.toList ++ [(now, key)] := by
  have hordered : (t.toList ++ [(now, key)]).Pairwise Earlier := by
    rw [List.pairwise_append]
    refine ⟨pairwise_toList t, List.pairwise_singleton _ _, ?_⟩
    intro e he f hf
    rw [List.mem_singleton.1 hf]
    exact hlast e he
  refine (pairwise_toList _).eq_of_mem_iff hordered ?_
  rintro ⟨time, k⟩
  rw [mem_toList_iff, Std.TreeMap.getElem?_insert, List.mem_append,
    mem_toList_iff, List.mem_singleton]
  by_cases h : now = time
  · subst h
    have hnone : t[now]? ≠ some k := fun hk =>
      Nat.lt_irrefl _ (hlast _ ((mem_toList_iff t now k).2 hk))
    simp [hnone, eq_comm]
  · have hcmp : compare now time ≠ .eq := by simpa using h
    simp [hcmp, Ne.symm h]

/-- A time is taken out, and the others stay in their order. -/
theorem toList_erase (time : Nat) :
    (t.erase time).toList = t.toList.filter fun e => e.1 != time := by
  have hordered : (t.toList.filter fun e => e.1 != time).Pairwise Earlier :=
    (pairwise_toList t).sublist List.filter_sublist
  refine (pairwise_toList _).eq_of_mem_iff hordered ?_
  rintro ⟨other, k⟩
  rw [mem_toList_iff, Std.TreeMap.getElem?_erase, List.mem_filter, mem_toList_iff]
  by_cases h : time = other
  · simp [h]
  · have hcmp : compare time other ≠ .eq := by simpa using h
    simp [hcmp, Ne.symm h]

open Std.DTreeMap.Internal in
/-- The first entry of a tree is the earliest. -/
theorem minEntry?_eq_head?_toList :
    t.minEntry? = t.toList.head? := by
  unfold Std.TreeMap.minEntry? Std.TreeMap.toList
    Std.DTreeMap.Const.minEntry? Std.DTreeMap.Const.toList
  rw [Impl.Const.toList_eq_toListModel_map]
  -- The leftmost node of a tree comes first when its nodes are listed.
  generalize t.inner.inner = nodes
  induction nodes using Impl.Const.minEntry?.induct with
  | case1 => simp [Impl.Const.minEntry?]
  | case2 => simp [Impl.Const.minEntry?]
  | case3 => simp_all [Impl.Const.minEntry?]

end Trees

end Recency
end RequestGuard
