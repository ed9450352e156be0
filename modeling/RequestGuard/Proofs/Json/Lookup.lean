import Mathlib.Logic.Basic

/-!
# Values under keys

What `List.lookup` finds.  Where every key occurs once, the order of the pairs does not
matter.
-/

namespace RequestGuard
namespace Json

variable {α : Type} {l l' : List (String × α)}

theorem isSome_lookup_iff {k : String} :
    (l.lookup k).isSome = true ↔ k ∈ l.map Prod.fst := by
  rw [List.lookup_isSome_iff, List.mem_map]
  constructor
  · rintro ⟨p, hp, he⟩
    exact ⟨p, hp, (beq_iff_eq.1 he).symm⟩
  · rintro ⟨p, hp, rfl⟩
    exact ⟨p, hp, beq_self_eq_true _⟩

theorem lookup_eq_none {k : String} (h : k ∉ l.map Prod.fst) : l.lookup k = none := by
  rw [← Option.not_isSome_iff_eq_none, isSome_lookup_iff]
  exact h

/-- What stands under a key that occurs once. -/
theorem lookup_eq_some_iff_mem (h : (l.map Prod.fst).Nodup) {k : String} {a : α} :
    l.lookup k = some a ↔ (k, a) ∈ l := by
  induction l with
  | nil => simp
  | cons p more ih =>
      obtain ⟨k', a'⟩ := p
      rw [List.map_cons, List.nodup_cons] at h
      rw [List.lookup_cons, List.mem_cons]
      by_cases hk : k = k'
      · subst hk
        have hnot : (k, a) ∉ more := fun hmem => h.1 (List.mem_map.2 ⟨_, hmem, rfl⟩)
        simp [hnot, eq_comm]
      · rw [beq_eq_false_iff_ne.2 hk, ih h.2]
        simp [hk]

theorem lookup_eq_of_perm (h : l.Perm l') (hl : (l.map Prod.fst).Nodup) (k : String) :
    l.lookup k = l'.lookup k := by
  refine Option.ext fun a => ?_
  rw [lookup_eq_some_iff_mem hl, lookup_eq_some_iff_mem ((h.map Prod.fst).nodup_iff.1 hl),
    h.mem_iff]

theorem lookup_map {β : Type} (f : α → β) (l : List (String × α)) (k : String) :
    (l.map fun p => (p.1, f p.2)).lookup k = (l.lookup k).map f := by
  induction l with
  | nil => rfl
  | cons p more ih =>
      rw [List.map_cons, List.lookup_cons, List.lookup_cons, ih]
      cases k == p.1 <;> rfl

end Json
end RequestGuard
